/- Reading records out of JSON values: by field name from an object, by place from an array. -/
import DoorControl.Json.Value

namespace DoorControl.Json

/-- When a field of a record may be absent. -/
inductive Absence
  | never
  /-- In an object, but not in an array. -/
  | inObject
  | always
  deriving DecidableEq, Repr

/-- The value of a field of an object, `none` if it may be absent and is. One that occurs twice is
refused. -/
def field? (members : List (Option String × Json)) (field : String × Absence) :
    Option (Option Json) :=
  match members.filter (fun (k, _) => k = some field.1) with
  | [] => if field.2 = .never then none else some none
  | [(_, x)] => some (some x)
  | _ => none

/-- The values of a record's fields in their order, `none` for absent ones. Unknown members are
skipped; a known one that occurs twice, or a name that is no text, is refused. -/
def record? (fields : List (String × Absence)) : Json → Option (List (Option Json))
  | .obj members =>
      if members.any (fun (k, _) => k.isNone) then none else fields.mapM (field? members)
  | .arr xs =>
      if fields.length < xs.length then none
      else if (fields.drop xs.length).any (fun (_, absence) => absence ≠ .always) then none
      else some (xs.map some ++ List.replicate (fields.length - xs.length) none)
  | _ => none

def bool? : Json → Option Bool
  | .bool b => some b
  | _ => none

def text? : Json → Option String
  | .str s => s
  | _ => none

/-- An integer in the given range. -/
def intIn? (lo hi : Int) : Json → Option Int
  | .num n => n.integer?.filter (fun v => lo ≤ v ∧ v ≤ hi)
  | _ => none

def int32? : Json → Option Int := intIn? (-2147483648) 2147483647

def int64? : Json → Option Int := intIn? (-9223372036854775808) 9223372036854775807

def nat64? (j : Json) : Option Nat := (intIn? 0 18446744073709551615 j).map Int.toNat

/-- A field that may be absent or null. -/
def optional? {α : Type} (read : Json → Option α) : Option Json → Option (Option α)
  | none => some none
  | some .null => some none
  | some j => (read j).map some

/-- A field that has to be there. -/
def required? {α : Type} (read : Json → Option α) : Option Json → Option α
  | none => none
  | some j => read j

/-- The deepest nesting that is read into a generic value. -/
def maxDepth : Nat := 127

mutual

/-- The value as a generic one, where `depth` more levels may be opened: all strings form texts, all
numbers are finite, and of members with one name the last one counts. -/
def generic? : (depth : Nat) → Json → Option Json
  | _, .null => some .null
  | _, .bool b => some (.bool b)
  | _, .num n => if n.isFinite then some (.num n) else none
  | _, .str s => s.map .text
  | 0, .arr _ => none
  | 0, .obj _ => none
  | depth + 1, .arr xs => (genericList? depth xs).map .arr
  | depth + 1, .obj members => (genericMembers? depth members).map .obj

def genericList? : (depth : Nat) → List Json → Option (List Json)
  | _, [] => some []
  | depth, x :: xs => match generic? depth x, genericList? depth xs with
      | some x, some xs => some (x :: xs)
      | _, _ => none

def genericMembers? : (depth : Nat) → List (Option String × Json) →
    Option (List (Option String × Json))
  | _, [] => some []
  | _, (none, _) :: _ => none
  | depth, (some k, x) :: rest => match generic? depth x, genericMembers? depth rest with
      | some x, some rest =>
          some (if rest.any (fun (l, _) => l = some k) then rest else (some k, x) :: rest)
      | _, _ => none

end

end DoorControl.Json
