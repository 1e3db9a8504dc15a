/- The modes of a door, and what it keeps from one turn to the next. -/
import DoorControl.Gateway.Link
import DoorControl.Panel.Keys
import DoorControl.Reader.Command

namespace DoorControl.Door

inductive Mode
  /-- Before the first turn. -/
  | initial
  | locked
  /-- Open to everyone, on an open day. -/
  | opened
  /-- Unlocked up to a deadline. -/
  | timed
  deriving DecidableEq, Repr, Inhabited

namespace Mode

def name : Mode → String
  | .initial => "Initial"
  | .locked => "Locked"
  | .opened => "Open"
  | .timed => "TimedUnlock"

/-- Where the bolt belongs. -/
def target : Mode → Lock.BoltState
  | .initial | .locked => .locked
  | .opened | .timed => .unlocked

end Mode

inductive Weekday
  | monday
  | tuesday
  | wednesday
  | thursday
  | friday
  | saturday
  | sunday
  deriving DecidableEq, Repr, Inhabited

/-- The day on which the space opens. -/
def openDay : Weekday := .thursday

structure State where
  mode : Mode := .initial
  /-- The end of a timed unlock. -/
  deadline : Option Nat := none
  /-- A time asked for in this turn, from which the deadline is made at its end. -/
  pendingTimeout : Option Nat := none
  /-- The pattern asked for last. -/
  pattern : Option Reader.Pattern := none
  sound : Reader.Sound := .none
  /-- Until when a pattern that answers a card stays. -/
  feedbackUntil : Option Nat := none
  /-- Before this time the lock gets no command, since one has failed. -/
  lockRetryAt : Option Nat := none
  lockFailing : Bool := false
  lastKeys : Keys := {}
  /-- The bolt and the door sensor as logged last. -/
  lastSensors : Option (Lock.BoltState × Bool) := none
  /-- The status reported last, and when. -/
  lastPush : Option (Gateway.Status × Nat) := none
  deriving DecidableEq, Repr, Inhabited

namespace State

/-- The time until a timed unlock ends. -/
def timeLeft (now : Nat) (s : State) : Option Nat := s.deadline.map (· - now)

end State

end DoorControl.Door
