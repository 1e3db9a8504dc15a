/- The times of a door, in milliseconds, and what is demanded of them. -/
import DoorControl.Device.Error
import DoorControl.Gateway.Client

namespace DoorControl.Door

structure Settings where
  /-- The door's name in audit entries and chat messages. -/
  name : String := "main"
  tick : Nat := 100
  /-- How long a valid card unlocks. -/
  enter : Nat := 30000
  /-- How long the leave button unlocks. -/
  leave : Nat := 5000
  /-- How long the green button unlocks. -/
  unlockPeriod : Nat := 900000
  /-- The time left from which on the end of a timed unlock is announced. -/
  unlockWarn : Nat := 300000
  /-- The time left from which on it is announced urgently. -/
  closingWarn : Nat := 10000
  /-- How long the gateway unlocks. -/
  remoteUnlock : Nat := 30000
  /-- The wait after a failed lock command. -/
  lockRetry : Nat := 5000
  /-- The longest time between two reports of the status. -/
  statusPush : Nat := 15000
  /-- How long messages stay on the display. -/
  message : Nat := 10000
  deriving DecidableEq, Repr, Inhabited

/-- What keeps a door from working, or ends its work. -/
inductive DoorError
  | settings (message : String)
  | device (cause : DeviceError)
  | gateway (cause : Gateway.GatewayError)
  deriving DecidableEq, Repr

def DoorError.message : DoorError → String
  | .settings m => s!"invalid controller configuration: {m}"
  | .device e => e.message
  | .gateway e => e.message

namespace Settings

/-- The times that must not be zero. -/
def intervals (s : Settings) : List (String × Nat) :=
  [("tick interval", s.tick), ("enter time", s.enter), ("leave time", s.leave),
    ("unlock period", s.unlockPeriod), ("remote unlock time", s.remoteUnlock),
    ("status push interval", s.statusPush)]

/-- What is wrong with the times first of all. -/
def fault? (s : Settings) : Option String :=
  match s.intervals.find? (fun (_, ms) => ms = 0) with
  | some (name, _) => some (name ++ " is zero")
  | none =>
      if s.unlockPeriod ≤ s.unlockWarn then
        some "unlock warning must be shorter than the unlock period"
      else none

def validate (s : Settings) : Except DoorError Unit :=
  match s.fault? with
  | some m => .error (.settings m)
  | none => .ok ()

end Settings

end DoorControl.Door
