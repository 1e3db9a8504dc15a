/- Scans of the button panel. -/
import DoorControl.Panel.Reply
import DoorControl.Serial.Link

namespace DoorControl.Panel

structure Timing where
  pollInterval : Nat := 50
  replyTimeout : Nat := 100
  deriving DecidableEq, Repr, Inhabited

structure Scanner (P : Type) where
  link : Serial.Link P
  keys : Keys := {}
  timing : Timing := {}

namespace Scanner

variable {P : Type} [Serial.Port P]

/-- One scan. No button stays down while the panel does not answer. -/
def scan (s : Scanner P) : Except DeviceError Keys × Scanner P :=
  match s.link.exchange scanCommand s.timing.replyTimeout with
  | (.error e, link) => (.error e, { s with link, keys := {} })
  | (.ok reply, link) => match readScan reply with
      | .ok keys => (.ok keys, { s with link, keys })
      | .error e => (.error (.protocol e), { s with link, keys := {} })

end Scanner

end DoorControl.Panel
