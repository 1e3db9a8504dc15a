/- Hosts that are numbers: one to four parts, each in base ten, eight or sixteen. -/
import DoorControl.Text.Numeral
import DoorControl.Text.Split

namespace DoorControl.Http.Host.Ipv4

/-- The parts between the points of a host, of which one may end it. -/
def parts (host : List Char) : List (List Char) :=
  let all := Text.splitWhere (· = '.') host
  if all.getLast? = some [] then all.dropLast else all

/-- A part as a number: in base sixteen behind a zero and an x, in base eight behind a zero. -/
def number? (part : List Char) : Option Nat :=
  let digits := fun (radix : Nat) (cs : List Char) =>
    if cs.isEmpty then some 0 else Text.Numeral.digits? radix cs
  match part with
  | [] => none
  | '0' :: c :: rest => if c = 'x' || c = 'X' then digits 16 rest else digits 8 (c :: rest)
  | _ => digits 10 part

/-- Whether a host has to be a number, since its last part is one. -/
def isNumeric (host : List Char) : Bool :=
  match (parts host).getLast? with
  | none => false
  | some last => (!last.isEmpty && last.all Char.isDigit) || (number? last).isSome

/-- The number of an address with the given parts. All but the last one are bytes; the last one fills the
bytes that are left. -/
def value? (numbers : List Nat) : Option Nat :=
  let count := numbers.length
  let last := numbers.getLastD 0
  let room := Nat.pow 256 (5 - count)
  if count = 0 || 4 < count || numbers.dropLast.any (255 < ·) || room ≤ last then none
  else some (numbers.dropLast.foldl (fun n b => n * 256 + b) 0 * room + last)

/-- The four bytes of an address, between points. -/
def render (n : Nat) : List Char :=
  let byte := fun shift : Nat => Nat.toDigits 10 (n / shift % 256)
  byte 16777216 ++ '.' :: byte 65536 ++ '.' :: byte 256 ++ '.' :: byte 1

/-- The usual form of a host that is a number. -/
def normal? (host : List Char) : Option (List Char) :=
  (((parts host).mapM number?).bind value?).map render

end DoorControl.Http.Host.Ipv4
