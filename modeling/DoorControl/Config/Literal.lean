/- Scalars without quotes: what kind of value their text is. -/
import DoorControl.Config.Tree
import DoorControl.Text.Blank
import DoorControl.Text.Double
import DoorControl.Text.Numeral

namespace DoorControl.Config.Literal

def isDigit (c : Char) : Bool := '0' ≤ c && c ≤ '9'

def unsign (cs : List Char) : List Char :=
  match cs with
  | '+' :: rest => rest
  | '-' :: rest => rest
  | _ => cs

/-- The value of an exponent: nothing, or its letter, a sign or none, and digits. -/
def exponent? : List Char → Option Int
  | [] => some 0
  | c :: rest =>
      let size := Text.Numeral.digits? 10 (unsign rest)
      if c = 'e' || c = 'E' then
        size.map (fun n => if rest.head? = some '-' then -(n : Int) else n)
      else none

/-- The digits of a decimal number with or without sign, fraction and exponent, and the power of ten that
they are multiplied with. -/
def decimal? (cs : List Char) : Option (Nat × Int) :=
  let cs := unsign cs
  let whole := cs.takeWhile isDigit
  let (fraction, rest) := match cs.dropWhile isDigit with
    | '.' :: rest => (rest.takeWhile isDigit, rest.dropWhile isDigit)
    | rest => ([], rest)
  match Text.Numeral.digits? 10 (whole ++ fraction), exponent? rest with
  | some n, some e => some (n, e - fraction.length)
  | _, _ => none

/-- Digits that begin with a zero, and so spell no number. -/
def isPadded (cs : List Char) : Bool :=
  match unsign cs with
  | '0' :: c :: rest => (c :: rest).all isDigit
  | _ => false

/-- Reads digits in base ten, or after a mark in base sixteen, eight or two. -/
def magnitude? (cs : List Char) : Option Nat :=
  match cs with
  | '0' :: 'x' :: rest => Text.Numeral.digits? 16 rest
  | '0' :: 'o' :: rest => Text.Numeral.digits? 8 rest
  | '0' :: 'b' :: rest => Text.Numeral.digits? 2 rest
  | _ => if isPadded cs then none else Text.Numeral.digits? 10 cs

/-- An integer of 128 bits: without a minus sign the bits hold no sign either. -/
def integer? (cs : List Char) : Option Int :=
  match magnitude? (unsign cs) with
  | none => none
  | some n =>
      if cs.head? = some '-' then if n ≤ Nat.pow 2 127 then some (-(n : Int)) else none
      else if n < Nat.pow 2 128 then some n else none

def null? (s : String) : Bool := ["~", "null", "Null", "NULL"].contains s

def bool? (s : String) : Option Bool :=
  if ["true", "True", "TRUE"].contains s then some true
  else if ["false", "False", "FALSE"].contains s then some false
  else none

/-- Whether a text names an infinity, with a sign or without, or what is no number, without one. -/
def isSpecial (cs : List Char) : Bool :=
  let named := fun (names : List String) (cs : List Char) => names.any (fun s => cs = s.toList)
  named [".inf", ".Inf", ".INF"] (unsign cs) || named [".nan", ".NaN", ".NAN"] cs

/-- Whether a text spells a real number; those beyond double precision are none. -/
def isReal (cs : List Char) : Bool :=
  isSpecial cs || ((decimal? cs).map (fun (n, e) => Text.Double.isFinite n e)).getD false

/-- The value of a scalar in a configuration file. -/
def ofFile (s : String) : Tree :=
  let cs := s.toList
  if s.isEmpty || null? s then .null
  else match bool? s, integer? cs with
    | some b, _ => .bool b
    | none, some n => .int n
    | none, none => if isReal cs && !isPadded cs then .real else .text s

/-- The value of a word in the environment; only a point makes a number a real one. -/
def ofWord (s : String) : Tree :=
  let cs := s.toList
  if cs.contains '.' && (decimal? cs).isSome then .real
  else match Text.Numeral.nat64? cs, Text.Numeral.int64? cs with
    | some n, _ => .int n
    | none, some n => .int n
    | none, none => .text s

end DoorControl.Config.Literal
