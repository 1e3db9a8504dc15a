/- Status polls and commands of the lock actuator over one link. -/
import DoorControl.Lock.Reply
import DoorControl.Serial.Link

namespace DoorControl.Lock

/-- Poll interval and time limits, in milliseconds. -/
structure Timing where
  pollInterval : Nat := 100
  statusTimeout : Nat := 100
  /-- The limit for a whole state change, its calibrations included. -/
  commandTimeout : Nat := 10000
  deriving DecidableEq, Repr, Inhabited

structure Session (P : Type) where
  link : Serial.Link P
  status : Status := {}
  calibration : Option Calibration := none
  timing : Timing := {}

namespace Session

variable {P : Type} [Serial.Port P]

/-- Asks for the status; the reply is not looked at yet. -/
def fetchStatus (s : Session P) : Except DeviceError String × Session P :=
  let (result, link) := s.link.exchange Command.status.word s.timing.statusTimeout
  (result, { s with link })

/-- Takes over the status that a reply reports. A reply that reports none changes nothing. -/
def storeStatus (reply : String) (s : Session P) : Except DeviceError Status × Session P :=
  match readStatus reply with
  | .ok status => (.ok status, { s with status })
  | .error e => (.error (.protocol e), s)

def poll (s : Session P) : Except DeviceError Status × Session P :=
  match s.fetchStatus with
  | (.ok reply, s) => s.storeStatus reply
  | (.error e, s) => (.error e, s)

/-- Exchanges a command in the time that is left before the deadline. -/
def exchangeUntil (command : Command) (deadline : Nat) (s : Session P) :
    Except DeviceError String × Session P :=
  let left := deadline - Serial.Port.now s.link.port
  if left = 0 then (.error (.timeout command.word s.timing.commandTimeout), s)
  else
    let (result, link) := s.link.exchange command.word left
    (result, { s with link })

/-- Sends a command that has to be acknowledged. -/
def commandUntil (command : Command) (deadline : Nat) (s : Session P) :
    Except DeviceError Unit × Session P :=
  match s.exchangeUntil command deadline with
  | (.error e, s) => (.error e, s)
  | (.ok reply, s) => match readAck command reply with
      | .ok _ => (.ok (), s)
      | .error e => (.error (.protocol e), s)

/-- Calibrates and keeps the ranges found. -/
def calibrateUntil (deadline : Nat) (s : Session P) : Except DeviceError Calibration × Session P :=
  match s.exchangeUntil .calibrate deadline with
  | (.error e, s) => (.error e, s)
  | (.ok reply, s) => match readCalibration reply with
      | .ok ranges => (.ok ranges, { s with calibration := some ranges })
      | .error e => (.error (.protocol e), s)

/-- The time by which a command begun now has to end. -/
def commandDeadline (s : Session P) : Nat := Serial.Port.now s.link.port + s.timing.commandTimeout

def calibrate (s : Session P) : Except DeviceError Calibration × Session P :=
  s.calibrateUntil s.commandDeadline

/-- Sends the command; a lock that is not calibrated is calibrated and gets it once more. -/
def driveUntil (command : Command) (deadline : Nat) (s : Session P) :
    Except DeviceError Unit × Session P :=
  match s.commandUntil command deadline with
  | (.error (.protocol .notCalibrated), s) => match s.calibrateUntil deadline with
      | (.error e, s) => (.error e, s)
      | (.ok _, s) => s.commandUntil command deadline
  | (result, s) => (result, s)

/-- The exchanges of a state change. A bolt in an unknown state is calibrated first. -/
def driveTo (desired : BoltState) (s : Session P) : Except DeviceError Unit × Session P :=
  match Command.towards? desired with
  | none => (.error (.other "cannot drive the lock into an unknown state"), s)
  | some command =>
      let deadline := s.commandDeadline
      if s.status.bolt = .unknown then
        match s.calibrateUntil deadline with
        | (.error e, s) => (.error e, s)
        | (.ok _, s) => s.driveUntil command deadline
      else s.driveUntil command deadline

/-- Takes over a state that the lock has acknowledged. -/
def storeBolt (desired : BoltState) (s : Session P) : Session P :=
  { s with status := { s.status with bolt := desired } }

/-- Drives the bolt into a state and waits for the acknowledgement. -/
def setState (desired : BoltState) (s : Session P) : Except DeviceError Unit × Session P :=
  match s.driveTo desired with
  | (.error e, s) => (.error e, s)
  | (.ok (), s) => (.ok (), s.storeBolt desired)

end Session

end DoorControl.Lock
