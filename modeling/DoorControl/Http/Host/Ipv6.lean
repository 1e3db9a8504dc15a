/- Hosts between brackets: eight numbers of 16 bits, of which zeros may be left out once. -/
import DoorControl.Text.Numeral
import DoorControl.Text.Split

namespace DoorControl.Http.Host.Ipv6

/-- One hexadecimal digit to four. -/
def group? (cs : List Char) : Option Nat :=
  if 4 < cs.length then none else Text.Numeral.digits? 16 cs

/-- A decimal byte without leading zeros. -/
def byte? (cs : List Char) : Option Nat :=
  if 1 < cs.length && cs.head? = some '0' then none
  else (Text.Numeral.digits? 10 cs).filter (· < 256)

/-- Four bytes between points, as two numbers. -/
def quad? (cs : List Char) : Option (List Nat) :=
  match (Text.splitWhere (· = '.') cs).mapM byte? with
  | some [a, b, c, d] => some [a * 256 + b, c * 256 + d]
  | _ => none

/-- The numbers of some groups; the last one may be four bytes if it ends the address. -/
def numbers? (final : Bool) : List (List Char) → Option (List Nat)
  | [] => some []
  | [g] => if final && g.contains '.' then quad? g else (group? g).map (fun n => [n])
  | g :: gs => match group? g, numbers? final gs with
      | some n, some ns => some (n :: ns)
      | _, _ => none

/-- The numbers between colons; of nothing there are none. -/
def groups? (final : Bool) (cs : List Char) : Option (List Nat) :=
  if cs.isEmpty then some [] else numbers? final (Text.splitWhere (· = ':') cs)

/-- What stands before two colons and behind them. -/
def splitGap (before : List Char) : List Char → Option (List Char × List Char)
  | ':' :: ':' :: rest => some (before, rest)
  | c :: rest => splitGap (before ++ [c]) rest
  | [] => none

/-- The eight numbers of an address. -/
def parse? (cs : List Char) : Option (List Nat) :=
  match splitGap [] cs with
  | none => (groups? true cs).filter (·.length = 8)
  | some (before, after) => match groups? false before, groups? true after with
      | some ns, some ms =>
          if 7 < ns.length + ms.length then none
          else some (ns ++ List.replicate (8 - ns.length - ms.length) 0 ++ ms)
      | _, _ => none

/-- How many zeros the numbers begin with. -/
def zeros (ns : List Nat) : Nat := (ns.takeWhile (· = 0)).length

/-- The longest run of zeros, at least two of them: where it begins and how long it is. The first one of
several is taken. -/
def longestZeros (start : Nat) (best : Nat × Nat) : List Nat → Nat × Nat
  | [] => best
  | n :: ns =>
      let run := zeros (n :: ns)
      longestZeros (start + 1) (if max 1 best.2 < run then (start, run) else best) ns

def join (ns : List Nat) : List Char := Text.joinWith ':' (ns.map (Nat.toDigits 16))

/-- The numbers between brackets, with two colons for the longest run of zeros. -/
def render (ns : List Nat) : List Char :=
  let (start, run) := longestZeros 0 (0, 0) ns
  let text := if run = 0 then join ns
    else join (ns.take start) ++ [':', ':'] ++ join (ns.drop (start + run))
  '[' :: text ++ [']']

end DoorControl.Http.Host.Ipv6
