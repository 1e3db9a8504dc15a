/- Lines out of a byte stream that arrives in chunks, and what a line means to someone who waits for a
reply. -/
import DoorControl.Text.Blank
import DoorControl.Text.Utf8

namespace DoorControl.Serial

/-- Input longer than this is dropped as long as it holds no line end. -/
def maxLineLength : Nat := 1024

def newline : UInt8 := 10

/-- The bytes before the first line end, and those after it. -/
def splitLine? : List UInt8 → Option (List UInt8 × List UInt8)
  | [] => none
  | b :: bs =>
      if b = newline then some ([], bs)
      else (splitLine? bs).map (fun (line, rest) => (b :: line, rest))

/-- The text of a line's bytes; control characters, the carriage return among them, are left out. -/
def lineText (raw : List UInt8) : String :=
  String.ofList ((Text.Utf8.decode raw).filter (fun c => !Text.isControl c))

/-- Input that has not been taken as lines yet. -/
structure LineBuffer where
  bytes : List UInt8 := []
  deriving DecidableEq, Repr, Inhabited

namespace LineBuffer

def isEmpty (b : LineBuffer) : Bool := b.bytes.isEmpty

/-- Adds a chunk. Too much input without a line end is dropped as a whole. -/
def feed (b : LineBuffer) (chunk : List UInt8) : LineBuffer :=
  let bytes := b.bytes ++ chunk
  if maxLineLength < bytes.length ∧ newline ∉ bytes then ⟨[]⟩ else ⟨bytes⟩

def next? (b : LineBuffer) : Option (String × LineBuffer) :=
  (splitLine? b.bytes).map (fun (raw, rest) => (lineText raw, ⟨rest⟩))

/-- At most `n` lines. -/
def takeLines : Nat → LineBuffer → List String × LineBuffer
  | 0, b => ([], b)
  | n + 1, b => match b.next? with
      | none => ([], b)
      | some (line, b) =>
          let (lines, b) := takeLines n b
          (line :: lines, b)

/-- All complete lines; each has a byte of its own at least. -/
def drain (b : LineBuffer) : List String × LineBuffer := takeLines b.bytes.length b

end LineBuffer

/-- What a line is to someone who has sent a command. -/
inductive LineKind
  | empty
  | debug (text : String)
  | echo
  | reply (text : String)
  deriving DecidableEq, Repr

def LineKind.of (line sent : String) : LineKind :=
  let text := Text.trim line.toList
  if text.isEmpty then .empty
  else if (Text.after? "DEBUG".toList text).isSome then .debug (String.ofList text)
  else if text = Text.trim sent.toList then .echo
  else .reply (String.ofList text)

namespace LineBuffer

/-- Takes lines up to the first reply to `sent`, at most `n` of them. -/
def takeReplyWithin (sent : String) : Nat → LineBuffer → Option String × LineBuffer
  | 0, b => (none, b)
  | n + 1, b => match b.next? with
      | none => (none, b)
      | some (line, b) => match LineKind.of line sent with
          | .reply text => (some text, b)
          | _ => takeReplyWithin sent n b

/-- Takes lines up to the first reply to `sent`; without one, all complete lines are gone. -/
def takeReply (sent : String) (b : LineBuffer) : Option String × LineBuffer :=
  takeReplyWithin sent b.bytes.length b

end LineBuffer

end DoorControl.Serial
