/- Texts between double quotes, with escapes for what cannot stand there as it is. -/
import DoorControl.Text.Shapeless

namespace DoorControl.Text.Quoted

/-- How one character stands between the quotes. -/
def spell (c : Char) : List Char :=
  if c = '\x00' then ['\\', '0']
  else if c = '\t' then ['\\', 't']
  else if c = '\r' then ['\\', 'r']
  else if c = '\n' then ['\\', 'n']
  else if c = '"' ∨ c = '\\' then ['\\', c]
  else if isShapeless c then
    "\\u\x7b".toList ++ Nat.toDigits 16 c.toNat ++ ['\x7d']
  else [c]

def encode (s : String) : String :=
  String.ofList ('"' :: s.toList.flatMap spell ++ ['"'])

end DoorControl.Text.Quoted
