/- The bolt's mechanical state and the status that the actuator reports. -/
import DoorControl.Protocol.Error

namespace DoorControl.Lock

inductive BoltState
  | locked
  | unlocked
  | unknown
  deriving DecidableEq, Repr, Inhabited

namespace BoltState

/-- The word used by the lock and towards the gateway. -/
def word : BoltState → String
  | .locked => "locked"
  | .unlocked => "unlocked"
  | .unknown => "unknown"

def ofWord (w : String) : Except ProtocolError BoltState :=
  if w = "locked" then .ok .locked
  else if w = "unlocked" then .ok .unlocked
  else if w = "unknown" then .ok .unknown
  else .error (.invalidLockState w)

/-- The name shown to people. -/
def name : BoltState → String
  | .locked => "Locked"
  | .unlocked => "Open"
  | .unknown => "Unknown"

/-- The word used in stored documents. -/
def key : BoltState → String
  | .locked => "locked"
  | .unlocked => "open"
  | .unknown => "unknown"

def all : List BoltState := [.locked, .unlocked, .unknown]

end BoltState

/-- The status of the actuator as far as it is known. -/
structure Status where
  bolt : BoltState := .unknown
  doorOpen : Bool := false
  handleRaised : Bool := false
  encoder : Int := 0
  deriving DecidableEq, Repr, Inhabited

/-- Equal up to the encoder position, which jitters while the bolt rests. -/
def Status.sameObservable (a b : Status) : Bool :=
  a.bolt = b.bolt && a.doorOpen = b.doorOpen && a.handleRaised = b.handleRaised

end DoorControl.Lock
