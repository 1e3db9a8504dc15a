/- What the door and the exchange with the gateway share: the status to tell, the action asked for. -/
import DoorControl.Gateway.Action
import DoorControl.Json.Value
import DoorControl.Lock.State

namespace DoorControl.Gateway

def openClosed (opened : Bool) : String := if opened then "open" else "closed"

/-- The status that the gateway is told. -/
structure Status where
  doorOpen : Bool
  spaceOpen : Bool
  bolt : Lock.BoltState
  /-- Items lost by the two logs. -/
  overflows : Nat := 0
  deriving DecidableEq, Repr

def Status.toJson (s : Status) : Json :=
  let lost : List (String × Json) := if s.overflows = 0 then [] else [("log_overflows", .int s.overflows)]
  .object ([("door", .text (openClosed s.doorOpen)), ("space", .text (openClosed s.spaceOpen)),
    ("lock status", .text s.bolt.word)] ++ lost)

structure Link where
  status : Option Status := none
  /-- An action that has not been taken yet. -/
  action : Option Action := none
  /-- Whether the gateway grants an open day. -/
  allowOpen : Bool := false
  deriving DecidableEq, Repr, Inhabited

namespace Link

def setStatus (status : Status) (l : Link) : Link := { l with status := some status }

/-- Takes the pending action. -/
def takeAction (l : Link) : Option Action × Link := (l.action, { l with action := none })

/-- Takes over a reply. Without an action it leaves a pending one; with one it replaces it. -/
def record (action : Option Action) (allowOpen : Bool) (l : Link) : Link :=
  { l with action := action.or l.action, allowOpen }

end Link

end DoorControl.Gateway
