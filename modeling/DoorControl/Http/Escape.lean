/- Percent escapes in the parts of a web address. -/
import DoorControl.Text.Numeral
import DoorControl.Text.Utf8

namespace DoorControl.Http

/-- The parts of an address that differ in what has to be escaped. -/
inductive Part
  /-- A host or a path without any structure. -/
  | plain
  | fragment
  | query
  /-- The query of a scheme that is known to have hosts. -/
  | webQuery
  | path
  | credentials
  deriving DecidableEq, Repr

/-- The characters from the space on that a part cannot hold as they are. -/
def Part.escaped : Part → String
  | .plain => ""
  | .fragment => " \"<>\x60"
  | .query => " \"#<>"
  | .webQuery => " \"#<>\x27"
  | .path => " \"<>\x60#?\x7b\x7d"
  | .credentials => " \"<>\x60#?\x7b\x7d/:;=@[\\]^|"

/-- A byte as a percent escape. -/
def percent (b : UInt8) : List Char := '%' :: Text.Numeral.hexPadded 2 b.toNat

/-- Escapes controls, what is beyond seven bits, and what the part cannot hold. -/
def Part.escape (p : Part) (cs : List Char) : List Char :=
  cs.flatMap (fun c =>
    if c.toNat < 32 || 127 ≤ c.toNat || p.escaped.toList.contains c then
      (Text.Utf8.encode (String.singleton c)).flatMap percent
    else [c])

/-- The bytes of a text in which escapes stand for themselves. What is no escape is kept. -/
def unescape : List Char → List UInt8
  | [] => []
  | '%' :: a :: b :: rest => match Text.Numeral.digits? 16 [a, b] with
      | some n => n.toUInt8 :: unescape rest
      | none => 37 :: unescape (a :: b :: rest)
  | c :: rest => Text.Utf8.encode (String.singleton c) ++ unescape rest

end DoorControl.Http
