/- Punycode: texts of any characters, written with letters, digits and hyphens. -/

namespace DoorControl.Text.Punycode

def digitChar (d : Nat) : Char := Char.ofNat (if d < 26 then 97 + d else 22 + d)

def digit? (c : Char) : Option Nat :=
  if c.isLower then some (c.toNat - 97)
  else if c.isDigit then some (c.toNat - 22)
  else none

/-- The least value that makes the digit before `place` not the last one of its number. -/
def threshold (place bias : Nat) : Nat := max 1 (min 26 (place - bias))

/-- The bias for a difference of the given size; `left` bounds the divisions. -/
def biasFor (left delta place : Nat) : Nat :=
  match left with
  | 0 => place
  | left + 1 =>
      if 455 < delta then biasFor left (delta / 35) (place + 36) else place + 36 * delta / (delta + 38)

/-- The bias after a difference, with which the text has grown to `count` characters. -/
def adapted (first : Bool) (delta count : Nat) : Nat :=
  let delta := if first then delta / 700 else delta / 2
  let delta := delta + delta / count
  biasFor delta delta 0

/-- The digits of a number, the lowest first; `left` bounds their count. -/
def digits (bias : Nat) : (left place n : Nat) → List Char
  | 0, _, _ => []
  | left + 1, place, n =>
      let t := threshold place bias
      if n < t then [digitChar n]
      else digitChar (t + (n - t) % (36 - t)) :: digits bias left (place + 36) ((n - t) / (36 - t))

/-- A text of which a part is written: all characters below `code`, and the difference to the next one. -/
structure Progress where
  written : List Char := []
  delta : Nat := 0
  bias : Nat := 72
  count : Nat
  first : Bool := true

/-- Goes past one character of the text in the turn of the character `code`. -/
def Progress.pass (code : Nat) (p : Progress) (c : Char) : Progress :=
  if c.toNat < code then { p with delta := p.delta + 1 }
  else if c.toNat = code then
    { written := p.written ++ digits p.bias (p.delta + 1) 36 p.delta
      delta := 0
      bias := adapted p.first p.delta (p.count + 1)
      count := p.count + 1
      first := false }
  else p

/-- Writes the characters of a text whose codes are given in ascending order, from `code` on. -/
def writeCodes (text : List Char) (p : Progress) (code : Nat) : List Nat → Progress
  | [] => p
  | next :: codes =>
      let p := { p with delta := p.delta + (next - code) * (p.count + 1) }
      let p := text.foldl (Progress.pass next) p
      writeCodes text { p with delta := p.delta + 1 } (next + 1) codes

def isPlain (c : Char) : Bool := c.toNat < 128

/-- Puts a number in its place among ascending ones, unless it is there. -/
def place (n : Nat) : List Nat → List Nat
  | [] => [n]
  | m :: ms => if n < m then n :: m :: ms else if n = m then m :: ms else m :: place n ms

/-- The characters of 7 bits, a hyphen behind them, and the places of all others. -/
def encode (text : List Char) : List Char :=
  let plain := text.filter isPlain
  let codes := (text.filter (!isPlain ·)).foldr (fun c codes => place c.toNat codes) []
  (if plain.isEmpty then [] else plain ++ ['-']) ++
    (writeCodes text { count := plain.length } 128 codes).written

/-- A number, what it adds to `sum`, and what follows it. -/
def number? (bias : Nat) (place weight sum : Nat) : List Char → Option (Nat × List Char)
  | [] => none
  | c :: rest => match digit? c with
      | none => none
      | some d =>
          let t := threshold place bias
          if d < t then some (sum + d * weight, rest)
          else number? bias (place + 36) (weight * (36 - t)) (sum + d * weight) rest

/-- Puts the characters that are written as numbers into a text, where `start` is the place of the last
one; `left` bounds their count. -/
def insertAll? : (left bias code start : Nat) → (first : Bool) → (text rest : List Char) →
    Option (List Char)
  | _, _, _, _, _, text, [] => some text
  | 0, _, _, _, _, _, _ => none
  | left + 1, bias, code, start, first, text, rest => match number? bias 36 1 start rest with
      | none => none
      | some (sum, rest) =>
          let count := text.length + 1
          let code := code + sum / count
          let at' := sum % count
          if code.isValidChar then
            insertAll? left (adapted first (sum - start) count) code (at' + 1) false
              (text.take at' ++ Char.ofNat code :: text.drop at') rest
          else none

/-- The text that is written: plain characters, a hyphen if there are any, and the places of all others. -/
def decode? (cs : List Char) : Option (List Char) :=
  let tail := (cs.reverse.takeWhile (· ≠ '-')).reverse
  let plain := cs.take (cs.length - tail.length - 1)
  insertAll? (cs.length + 1) 72 128 0 true plain (if plain.isEmpty then cs else tail)

end DoorControl.Text.Punycode
