/- The panel's scan reply: `S` and a digit for green, white, red and leave. -/
import DoorControl.Panel.Keys
import DoorControl.Protocol.Error
import DoorControl.Text.Blank

namespace DoorControl.Panel

def scanCommand : String := "S"

def flag? (c : Char) : Option Bool :=
  if c = '0' then some false else if c = '1' then some true else none

/-- The reply that reports a sample. -/
def renderScan (k : Keys) : String :=
  "S" ++ Keys.bit k.green ++ Keys.bit k.white ++ Keys.bit k.red ++ Keys.bit k.leave

/-- Sets flags from characters, one after the other. A flag without a character stays as it is. -/
def setFlags : (flags : List Bool) → List Char → Option (List Bool)
  | [], _ => some []
  | flags, [] => some flags
  | _ :: flags, c :: cs => match flag? c with
      | some flag => (setFlags flags cs).map (flag :: ·)
      | none => none

def readScan (reply : String) : Except ProtocolError Keys :=
  let text := Text.trim reply.toList
  let malformed := ProtocolError.malformedReply scanCommand (String.ofList text)
  match Text.after? scanCommand.toList text with
  | none => .error malformed
  | some digits =>
      if (String.ofList digits).utf8ByteSize = 4 then
        match setFlags [false, false, false, false] digits with
        | some [green, white, red, leave] => .ok { red, white, green, leave }
        | _ => .error malformed
      else .error malformed

end DoorControl.Panel
