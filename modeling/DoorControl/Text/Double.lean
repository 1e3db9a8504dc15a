/- Which numbers double precision can hold. -/

namespace DoorControl.Text.Double

/-- The least number that is rounded to none of double precision. -/
def limit : Nat := Nat.pow 2 1024 - Nat.pow 2 970

/-- Whether `digits * 10 ^ power` is rounded to a finite number. -/
def isFinite (digits : Nat) (power : Int) : Bool :=
  let size : Int := (Nat.toDigits 10 digits).length + power
  if digits = 0 || size < 309 then true
  else if 309 < size then false
  else if 0 ≤ power then digits * Nat.pow 10 power.toNat < limit
  else digits < limit * Nat.pow 10 (-power).toNat

/-- The whole number nearest to `n` with 53 significant bits; of two such the even one. -/
def nearest (n : Nat) : Nat :=
  let unit := Nat.pow 2 (Nat.log2 n - 52)
  let (quotient, rest) := (n / unit, n % unit)
  let up := unit < 2 * rest || (2 * rest = unit && quotient % 2 = 1)
  (if up then quotient + 1 else quotient) * unit

/-- Whether `digits * 10 ^ power` stays finite when both factors are rounded before their product is. No
power beyond 308 is formed. -/
def isFiniteByParts (digits : Nat) (power : Int) : Bool :=
  digits = 0 || power < 0 ||
    (power ≤ 308 && nearest digits * nearest (Nat.pow 10 power.toNat) < limit)

end DoorControl.Text.Double
