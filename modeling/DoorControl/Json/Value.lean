/- JSON values as a text spells them: members keep their order, and numbers their notation. -/
import DoorControl.Text.Double
import DoorControl.Text.Numeral

namespace DoorControl

/-- A number literal. -/
structure JsonNumber where
  negative : Bool := false
  whole : Nat
  /-- The digits behind the point. -/
  fraction : Option (List Char) := none
  exponent : Option Int := none
  deriving DecidableEq, Repr

namespace JsonNumber

def ofInt (n : Int) : JsonNumber := { negative := n < 0, whole := n.natAbs }

/-- The value of a literal without point and exponent. A zero with a minus sign is no integer. -/
def integer? (n : JsonNumber) : Option Int :=
  if n.fraction.isSome || n.exponent.isSome then none
  else if n.negative then if n.whole = 0 then none else some (- (n.whole : Int))
  else some n.whole

/-- The longest part of some digits that 64 bits hold together with the digits `value` before them, and
how many digits are left. -/
def heldDigits (value : Nat) : List Char → Nat × Nat
  | [] => (value, 0)
  | c :: cs =>
      let next := value * 10 + (c.toNat - 48)
      if Text.Numeral.max64 < next then (value, cs.length + 1) else heldDigits next cs

/-- The digits of a literal that 64 bits hold, and the power of ten that they are multiplied with. -/
def scaled (n : JsonNumber) : Nat × Int :=
  let (whole, left) := heldDigits 0 (Nat.toDigits 10 n.whole)
  let fraction := n.fraction.getD []
  let (digits, unused) := heldDigits whole fraction
  (digits, left - (fraction.length - unused : Nat) + n.exponent.getD 0)

/-- Whether the literal is read as a finite number of double precision. -/
def isFinite (n : JsonNumber) : Bool :=
  let (digits, power) := n.scaled
  Text.Double.isFiniteByParts digits power

end JsonNumber

/-- A JSON value. A string whose bytes and escapes form no text can be skipped but not read: it is `none`. -/
inductive Json
  | null
  | bool (b : Bool)
  | num (n : JsonNumber)
  | str (s : Option String)
  | arr (xs : List Json)
  | obj (members : List (Option String × Json))
  deriving Repr, Inhabited

namespace Json

def text (s : String) : Json := .str (some s)

def int (n : Int) : Json := .num (.ofInt n)

/-- An object with the given members. -/
def object (members : List (String × Json)) : Json :=
  .obj (members.map (fun (k, v) => (some k, v)))

end Json

end DoorControl
