/- Integer literals as the wire, the card texts and the environment spell them. -/

namespace DoorControl.Text.Numeral

/-- The value of a digit; letters of both cases go on after nine. -/
def digit? (radix : Nat) (c : Char) : Option Nat :=
  let n := c.toNat
  let value : Option Nat :=
    if 48 ≤ n ∧ n ≤ 57 then some (n - 48)
    else if 65 ≤ n ∧ n ≤ 90 then some (n - 55)
    else if 97 ≤ n ∧ n ≤ 122 then some (n - 87)
    else none
  value.filter (· < radix)

/-- The value of a digit string, read on from `acc`. -/
def digitsFrom (radix acc : Nat) : List Char → Option Nat
  | [] => some acc
  | c :: cs => match digit? radix c with
      | some d => digitsFrom radix (acc * radix + d) cs
      | none => none

/-- One digit or more. -/
def digits? (radix : Nat) (s : List Char) : Option Nat :=
  if s.isEmpty then none else digitsFrom radix 0 s

/-- A literal without sign, or with a plus. -/
def unsigned? (radix limit : Nat) (s : List Char) : Option Nat :=
  let value := match s with
    | '+' :: ds => digits? radix ds
    | ds => digits? radix ds
  value.filter (· ≤ limit)

/-- A decimal literal with an optional sign whose value lies in the given range. -/
def signed? (lo hi : Int) (s : List Char) : Option Int :=
  let value : Option Int := match s with
    | '+' :: ds => (digits? 10 ds).map Int.ofNat
    | '-' :: ds => (digits? 10 ds).map (fun n => - (Int.ofNat n))
    | ds => (digits? 10 ds).map Int.ofNat
  value.filter (fun v => lo ≤ v ∧ v ≤ hi)

def int32? (s : List Char) : Option Int := signed? (-2147483648) 2147483647 s

def int64? (s : List Char) : Option Int := signed? (-9223372036854775808) 9223372036854775807 s

/-- The largest number of 64 bits. -/
def max64 : Nat := 18446744073709551615

def nat64? (s : List Char) : Option Nat := unsigned? 10 max64 s

/-- An upper-case hexadecimal digit. -/
def hexDigit (n : Nat) : Char := Char.ofNat (if n < 10 then 48 + n else 55 + n)

/-- The last `width` hexadecimal digits of a number. -/
def hexPadded : (width n : Nat) → List Char
  | 0, _ => []
  | width + 1, n => hexPadded width (n / 16) ++ [hexDigit (n % 16)]

/-- All hexadecimal digits of a number, without leading zeros. -/
def hex (n : Nat) : List Char := (Nat.toDigits 16 n).map Char.toUpper

/-- A number in decimal, with zeros in front up to the given width. -/
def decimalPadded (width n : Nat) : String :=
  let ds := Nat.toDigits 10 n
  String.ofList (List.replicate (width - ds.length) '0' ++ ds)

end DoorControl.Text.Numeral
