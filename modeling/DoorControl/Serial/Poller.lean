/- The threads that poll the devices. Each of them reports its start and its end, and every outage once. -/
import DoorControl.Device.Error

namespace DoorControl.Serial

/-- The severity of a report. -/
inductive Level
  | info
  | warn
  deriving DecidableEq, Repr

def Level.name : Level → String
  | .info => "INFO"
  | .warn => "WARN"

/-- A thread that polls a device until it is to stop. -/
structure Poller (W : Type) where
  poll : W → Except DeviceError Unit × W
  /-- The wait for the next poll. -/
  rest : W → W
  isStopped : W → Bool

namespace Poller

inductive Notice
  | started
  | failed (cause : DeviceError)
  | recovered
  | stopped
  deriving DecidableEq, Repr

def Notice.level : Notice → Level
  | .failed _ => .warn
  | _ => .info

def Notice.text : Notice → String
  | .started => "poll thread started"
  | .failed _ => "poll failed"
  | .recovered => "device answering again"
  | .stopped => "poll thread stopped"

/-- What is reported of a poll that has ended with a result, and whether an outage has been reported after it. -/
def heed (failing : Bool) : Except DeviceError Unit → List Notice × Bool
  | .ok () => (if failing then [.recovered] else [], false)
  | .error e => (if failing then [] else [.failed e], true)

/-- The notices on poll results, where `failing` tells whether an outage has been reported. -/
def noticesFrom (failing : Bool) : List (Except DeviceError Unit) → List Notice
  | [] => []
  | result :: rest =>
      let (told, failing) := heed failing result
      told ++ noticesFrom failing rest

/-- Everything that a poll thread reports whose polls end with these results, until it is stopped. -/
def notices (results : List (Except DeviceError Unit)) : List Notice :=
  .started :: noticesFrom false results ++ [.stopped]

variable {W : Type}

/-- Polls until the thread is to stop. Nothing comes out if it still goes on after `most` polls. -/
def loop (p : Poller W) (most : Nat) (failing : Bool) (world : W) : Option (List Notice × W) :=
  if p.isStopped world then some ([], world)
  else match most with
    | 0 => none
    | most + 1 =>
        let (result, world) := p.poll world
        let (told, failing) := heed failing result
        (p.loop most failing (p.rest world)).map fun (later, world) => (told ++ later, world)

/-- What the thread reports, and the world when it ends. -/
def run (p : Poller W) (most : Nat) (world : W) : Option (List Notice × W) :=
  (p.loop most false world).map fun (told, world) => (.started :: told ++ [.stopped], world)

end Poller

end DoorControl.Serial
