/- Commands of the card reader: the poll, the light patterns and the sounds, and its id reply. -/
import DoorControl.Card.Id

namespace DoorControl.Reader

/-- Asks for a card. -/
def pollCommand : String := "C"

/-- A light pattern of the reader. -/
inductive Pattern
  | ready
  | enter
  | opened
  | warnClosing
  | error
  | noEntry
  | wait
  deriving DecidableEq, Repr, Inhabited

namespace Pattern

def command : Pattern → String
  | .ready => "P200R10SGN"
  | .enter => "P250R8SGN"
  | .opened => "P200R0SG"
  | .warnClosing => "P5R0SGX10NX100R"
  | .error => "P5R10SGX10NX100RX100N"
  | .noEntry => "P100R30SRN"
  | .wait => "P20R0SGNN"

def name : Pattern → String
  | .ready => "ready"
  | .enter => "enter"
  | .opened => "open"
  | .warnClosing => "warn_closing"
  | .error => "error"
  | .noEntry => "no_entry"
  | .wait => "wait"

def all : List Pattern := [.ready, .enter, .opened, .warnClosing, .error, .noEntry, .wait]

def ofName (name : String) : Except ProtocolError Pattern :=
  match all.find? (·.name = name) with
  | some p => .ok p
  | none => .error (.unknownPattern name)

end Pattern

/-- A sound that the reader repeats. -/
inductive Sound
  | none
  | warningBeep
  | closingWarning
  deriving DecidableEq, Repr, Inhabited

namespace Sound

/-- The command for one beep and the milliseconds between two of them. -/
def beep? : Sound → Option (String × Nat)
  | .none => Option.none
  | .warningBeep => some ("S1000 100", 500)
  | .closingWarning => some ("S2000 50", 250)

def name : Sound → String
  | .none => "none"
  | .warningBeep => "warning_beep"
  | .closingWarning => "closing_warning"

def all : List Sound := [.none, .warningBeep, .closingWarning]

end Sound

/-- The card that a line reports: `ID` and ten bytes that spell a card id. -/
def cardOfLine? (line : String) : Option CardId :=
  match Text.after? "ID".toList (Text.trim line.toList) with
  | none => none
  | some digits =>
      let digits := String.ofList digits
      if digits.utf8ByteSize = idDigits then (CardId.ofHex digits).toOption else none

end DoorControl.Reader
