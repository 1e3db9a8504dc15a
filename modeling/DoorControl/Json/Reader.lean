/- Reading JSON texts. They are read byte by byte, and a byte stands as the character of its number: all that
holds a text together is ASCII, and what a string holds is read as a text of its own. -/
import DoorControl.Json.Value
import DoorControl.Text.Numeral
import DoorControl.Text.Utf8

namespace DoorControl.Json

def isSpace (c : Char) : Bool := c = ' ' || c = '\t' || c = '\n' || c = '\r'

def skipSpace (cs : List Char) : List Char := cs.dropWhile isSpace

/-- Four hexadecimal digits. -/
def hex4? : List Char → Option (Nat × List Char)
  | a :: b :: c :: d :: rest =>
      (Text.Numeral.digits? 16 [a, b, c, d]).map (fun n => (n, rest))
  | _ => none

/-- A unit of a string: a byte, or a number from an escape that may be half of a character. -/
inductive Unit16
  | byte (c : Char)
  | code (n : Nat)
  deriving Repr

/-- The bytes of a character that is escaped. -/
def escaped (n : Nat) : List UInt8 := Text.Utf8.encode (String.singleton (Char.ofNat n))

/-- The bytes that the units of a string form, if every half of a character has its other half. -/
def joinUnits : List Unit16 → Option (List UInt8)
  | [] => some []
  | .byte c :: rest => (joinUnits rest).map (c.toNat.toUInt8 :: ·)
  | .code n :: rest =>
      if n < 0xD800 ∨ 0xDFFF < n then (joinUnits rest).map (escaped n ++ ·)
      else if 0xDBFF < n then none
      else match rest with
        | .code m :: rest =>
            if 0xDC00 ≤ m ∧ m ≤ 0xDFFF then
              (joinUnits rest).map (escaped (0x10000 + (n - 0xD800) * 1024 + (m - 0xDC00)) ++ ·)
            else none
        | _ => none

/-- The character that a one-letter escape stands for. -/
def simpleEscape? (c : Char) : Option Char :=
  if c = '"' || c = '\\' || c = '/' then some c
  else if c = 'b' then some (Char.ofNat 8)
  else if c = 'f' then some (Char.ofNat 12)
  else if c = 'n' then some '\n'
  else if c = 'r' then some '\r'
  else if c = 't' then some '\t'
  else none

/-- The units of a string up to its closing quote; `left` bounds their number. -/
def stringUnits : (left : Nat) → List Char → Option (List Unit16 × List Char)
  | 0, _ => none
  | _ + 1, [] => none
  | _ + 1, '"' :: rest => some ([], rest)
  | left + 1, '\\' :: 'u' :: rest => match hex4? rest with
      | none => none
      | some (n, rest) => (stringUnits left rest).map (fun (us, rest) => (.code n :: us, rest))
  | left + 1, '\\' :: e :: rest => match simpleEscape? e with
      | none => none
      | some c => (stringUnits left rest).map (fun (us, rest) => (.byte c :: us, rest))
  | left + 1, c :: rest =>
      if c.toNat < 32 || c = '\\' then none
      else (stringUnits left rest).map (fun (us, rest) => (.byte c :: us, rest))

/-- What follows an opening quote. -/
def string? (cs : List Char) : Option (Option String × List Char) :=
  (stringUnits (cs.length + 1) cs).map
    (fun (units, rest) => ((joinUnits units).bind Text.Utf8.decode?, rest))

def isDigit (c : Char) : Bool := '0' ≤ c && c ≤ '9'

/-- One digit or more, and the rest. -/
def digitRun? (cs : List Char) : Option (List Char × List Char) :=
  let run := cs.takeWhile isDigit
  if run.isEmpty then none else some (run, cs.dropWhile isDigit)

def decimal (digits : List Char) : Nat := digits.foldl (fun n c => n * 10 + (c.toNat - 48)) 0

/-- The part of a number before its point; only zero itself begins with a zero. -/
def whole? (cs : List Char) : Option (Nat × List Char) :=
  match cs with
  | '0' :: rest => match rest with
      | c :: _ => if isDigit c then none else some (0, rest)
      | [] => some (0, rest)
  | _ => (digitRun? cs).map (fun (run, rest) => (decimal run, rest))

/-- An exponent without its letter. -/
def exponent? (cs : List Char) : Option (Int × List Char) :=
  match cs with
  | '+' :: rest => (digitRun? rest).map (fun (run, rest) => ((decimal run : Int), rest))
  | '-' :: rest => (digitRun? rest).map (fun (run, rest) => (-(decimal run : Int), rest))
  | rest => (digitRun? rest).map (fun (run, rest) => ((decimal run : Int), rest))

def withExponent? (n : JsonNumber) (cs : List Char) : Option (JsonNumber × List Char) :=
  match cs with
  | c :: rest =>
      if c = 'e' || c = 'E' then
        (exponent? rest).map (fun (e, rest) => ({ n with exponent := some e }, rest))
      else some (n, cs)
  | [] => some (n, cs)

def number? (cs : List Char) : Option (JsonNumber × List Char) :=
  let (negative, cs) := match cs with
    | '-' :: rest => (true, rest)
    | _ => (false, cs)
  match whole? cs with
  | none => none
  | some (whole, '.' :: rest) => match digitRun? rest with
      | none => none
      | some (run, rest) => withExponent? { negative, whole, fraction := some run } rest
  | some (whole, rest) => withExponent? { negative, whole } rest

mutual

/-- A value; `left` bounds the steps. -/
def value? : (left : Nat) → List Char → Option (Json × List Char)
  | 0, _ => none
  | left + 1, cs => match skipSpace cs with
      | 'n' :: 'u' :: 'l' :: 'l' :: rest => some (.null, rest)
      | 't' :: 'r' :: 'u' :: 'e' :: rest => some (.bool true, rest)
      | 'f' :: 'a' :: 'l' :: 's' :: 'e' :: rest => some (.bool false, rest)
      | '"' :: rest => (string? rest).map (fun (s, rest) => (.str s, rest))
      | '[' :: rest => match skipSpace rest with
          | ']' :: rest => some (.arr [], rest)
          | rest => (elements? left rest).map (fun (xs, rest) => (.arr xs, rest))
      | '\x7b' :: rest => match skipSpace rest with
          | '\x7d' :: rest => some (.obj [], rest)
          | rest => (members? left rest).map (fun (ms, rest) => (.obj ms, rest))
      | rest => (number? rest).map (fun (n, rest) => (.num n, rest))

/-- The elements of an array up to its closing bracket. -/
def elements? : (left : Nat) → List Char → Option (List Json × List Char)
  | 0, _ => none
  | left + 1, cs => match value? left cs with
      | none => none
      | some (x, rest) => match skipSpace rest with
          | ']' :: rest => some ([x], rest)
          | ',' :: rest => (elements? left rest).map (fun (xs, rest) => (x :: xs, rest))
          | _ => none

/-- The members of an object up to its closing brace. -/
def members? : (left : Nat) → List Char → Option (List (Option String × Json) × List Char)
  | 0, _ => none
  | left + 1, cs => match skipSpace cs with
      | '"' :: rest => match string? rest with
          | none => none
          | some (key, rest) => match skipSpace rest with
              | ':' :: rest => match value? left rest with
                  | none => none
                  | some (x, rest) => match skipSpace rest with
                      | '\x7d' :: rest => some ([(key, x)], rest)
                      | ',' :: rest =>
                          (members? left rest).map (fun (ms, rest) => ((key, x) :: ms, rest))
                      | _ => none
              | _ => none
      | _ => none

end

/-- The value that bytes spell as a whole. -/
def read? (bytes : List UInt8) : Option Json :=
  let cs := bytes.map (fun b => Char.ofNat b.toNat)
  match value? (2 * cs.length + 2) cs with
  | some (x, rest) => if (skipSpace rest).isEmpty then some x else none
  | none => none

/-- The value that a whole text spells. -/
def parse? (s : String) : Option Json := read? (Text.Utf8.encode s)

end DoorControl.Json
