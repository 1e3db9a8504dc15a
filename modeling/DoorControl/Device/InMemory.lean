/- Devices without hardware, for dry runs. -/
import DoorControl.Card.Id
import DoorControl.Device.Display
import DoorControl.Device.Error
import DoorControl.Lock.State
import DoorControl.Panel.Keys
import DoorControl.Reader.Command

namespace DoorControl.InMemory

/-- A card reader that keeps all pattern requests. -/
structure Reader where
  pending : Option CardId := none
  patterns : List Reader.Pattern := []
  sound : Reader.Sound := .none
  deriving DecidableEq, Repr

def Reader.swipe (card : CardId) (r : Reader) : Reader := { r with pending := some card }

def Reader.takeCard (r : Reader) : Option CardId × Reader := (r.pending, { r with pending := none })

def Reader.setPattern (p : Reader.Pattern) (r : Reader) : Reader :=
  { r with patterns := r.patterns ++ [p] }

/-- A lock that obeys at once, unless failures are ordered. -/
structure DoorLock where
  status : Lock.Status := { bolt := .locked }
  requests : List Lock.BoltState := []
  /-- Requests that the lock will not answer. -/
  failures : Nat := 0
  /-- Errors that the next requests meet on their way to the lock. -/
  faults : List DeviceError := []
  /-- A status that is reported in place of the true one. -/
  pretended : Option Lock.Status := none
  deriving DecidableEq, Repr, Inhabited

namespace DoorLock

def reported (l : DoorLock) : Lock.Status := l.pretended.getD l.status

def setState (desired : Lock.BoltState) (l : DoorLock) : Except DeviceError Unit × DoorLock :=
  let l := { l with requests := l.requests ++ [desired] }
  match l.faults with
  | e :: rest => (.error e, { l with faults := rest })
  | [] => match l.failures with
      | 0 => (.ok (), { l with status := { l.status with bolt := desired } })
      | n + 1 => (.error (.timeout "lock" 10), { l with failures := n })

end DoorLock

/-- A message as it was shown. -/
structure Shown where
  text : String
  color : Color
  duration : Nat
  deriving DecidableEq, Repr

/-- A display that keeps what it has shown. -/
structure Display where
  status : Option (String × Color) := none
  messages : List Shown := []
  deriving DecidableEq, Repr, Inhabited

def Display.showMessage (text : String) (color : Color) (duration : Nat) (d : Display) : Display :=
  { d with messages := d.messages ++ [⟨text, color, duration⟩] }

end DoorControl.InMemory
