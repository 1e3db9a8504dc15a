/- Commands of the lock actuator and the replies to them, read and written. -/
import DoorControl.Lock.State
import DoorControl.Text.Blank
import DoorControl.Text.Numeral

namespace DoorControl.Lock

inductive Command
  | status
  | lock
  | unlock
  | calibrate
  deriving DecidableEq, Repr, Inhabited

namespace Command

def word : Command → String
  | .status => "status"
  | .lock => "lock"
  | .unlock => "unlock"
  | .calibrate => "calibrate"

/-- The command that drives the bolt to a state; there is none for an unknown one. -/
def towards? : BoltState → Option Command
  | .locked => some .lock
  | .unlocked => some .unlock
  | .unknown => none

end Command

/-- An encoder range, both ends included. -/
structure EncoderRange where
  lo : Int
  hi : Int
  deriving DecidableEq, Repr, Inhabited

def EncoderRange.render (r : EncoderRange) : String := s!"{r.lo}-{r.hi}"

/-- The encoder ranges that a calibration has found. -/
structure Calibration where
  locked : EncoderRange
  unlocked : EncoderRange
  deriving DecidableEq, Repr, Inhabited

def Calibration.render (c : Calibration) : String :=
  let locked := c.locked.render
  let unlocked := c.unlocked.render
  s!"locked {locked} unlocked {unlocked}"

/-- The status line that the actuator sends. -/
def Status.render (s : Status) : String :=
  let door := if s.doorOpen then "open" else "closed"
  let handle := if s.handleRaised then "raised" else "lowered"
  let bolt := s.bolt.word
  s!"OK: status {bolt} {door} {handle} {s.encoder}"

/-- The text behind the `OK` that begins a positive reply. -/
def readAck (command : Command) (reply : String) : Except ProtocolError String :=
  let text := Text.trim reply.toList
  match Text.after? "OK".toList text with
  | some rest => .ok (String.ofList (Text.trim (rest.dropWhile (· = ':'))))
  | none =>
      if Text.hasPart "not calibrated".toList text then .error .notCalibrated
      else .error (.malformedReply command.word (String.ofList text))

/-- One of two words, as a truth value. -/
def readFlag? (yes no w : String) : Option Bool :=
  if w = yes then some true else if w = no then some false else none

/-- The reply to `status`: six words. -/
def readStatus (reply : String) : Except ProtocolError Status :=
  let malformed := ProtocolError.malformedReply Command.status.word (Text.trimmed reply)
  match Text.words reply with
  | [ok, keyword, bolt, door, handle, encoder] =>
      if ok = "OK:" ∧ keyword = "status" then
        match BoltState.ofWord bolt with
        | .error e => .error e
        | .ok bolt =>
            match readFlag? "open" "closed" door, readFlag? "raised" "lowered" handle,
                Text.Numeral.int32? encoder.toList with
            | some doorOpen, some handleRaised, some encoder =>
                .ok { bolt, doorOpen, handleRaised, encoder }
            | _, _, _ => .error malformed
      else .error malformed
  | _ => .error malformed

/-- The places of a text before and after its first dash. -/
def splitDash? : List Char → Option (List Char × List Char)
  | [] => none
  | c :: cs =>
      if c = '-' then some ([], cs)
      else (splitDash? cs).map (fun (l, r) => (c :: l, r))

/-- A range `lo-hi`. The first character may be a sign, so the dash is looked for behind it. -/
def readRange? (text : String) : Option EncoderRange :=
  match text.toList with
  | [] => none
  | c :: cs =>
      -- A first character of more than one byte is no sign, digit or dash.
      if c.utf8Size = 1 then
        match splitDash? cs with
        | none => none
        | some (l, r) =>
            match Text.Numeral.int32? (c :: l), Text.Numeral.int32? r with
            | some lo, some hi => if lo ≤ hi then some ⟨lo, hi⟩ else none
            | _, _ => none
      else none

/-- The reply to `calibrate`. -/
def readCalibration (reply : String) : Except ProtocolError Calibration :=
  let malformed := ProtocolError.malformedReply Command.calibrate.word (Text.trimmed reply)
  match readAck .calibrate reply with
  | .error e => .error e
  | .ok body =>
      match Text.words body with
      | [k, locked, l, unlocked] =>
          if k = "locked" ∧ l = "unlocked" then
            match readRange? locked, readRange? unlocked with
            | some locked, some unlocked => .ok { locked, unlocked }
            | _, _ => .error malformed
          else .error malformed
      | _ => .error malformed

end DoorControl.Lock
