/- Reading bytes as UTF-8 text. Every maximal ill-formed part stands for one replacement character. -/

namespace DoorControl.Text.Utf8

/-- The character that stands for an ill-formed part. -/
def replacement : Char := Char.ofNat 0xFFFD

/-- What has been read of a character: nothing, or its value so far, how many bytes are still to come,
and the range that the next of them has to lie in. -/
inductive Pending
  | none
  | some (value left lo hi : Nat)
  deriving DecidableEq, Repr, Inhabited

/-- The first byte of a character; `none` as a second part when the byte starts no character. -/
def start (b : UInt8) : Pending × List Char :=
  let n := b.toNat
  if n < 0x80 then (.none, [Char.ofNat n])
  else if 0xC2 ≤ n ∧ n ≤ 0xDF then (.some (n - 0xC0) 1 0x80 0xBF, [])
  else if n = 0xE0 then (.some 0 2 0xA0 0xBF, [])
  else if n = 0xED then (.some 0xD 2 0x80 0x9F, [])
  else if 0xE1 ≤ n ∧ n ≤ 0xEF then (.some (n - 0xE0) 2 0x80 0xBF, [])
  else if n = 0xF0 then (.some 0 3 0x90 0xBF, [])
  else if n = 0xF4 then (.some 4 3 0x80 0x8F, [])
  else if 0xF1 ≤ n ∧ n ≤ 0xF3 then (.some (n - 0xF0) 3 0x80 0xBF, [])
  else (.none, [replacement])

/-- One more byte: the new pending part and the characters that are finished by it. -/
def step (p : Pending) (b : UInt8) : Pending × List Char :=
  match p with
  | .none => start b
  | .some value left lo hi =>
      let n := b.toNat
      if lo ≤ n ∧ n ≤ hi then
        let value := value * 64 + (n - 0x80)
        if left = 1 then (.none, [Char.ofNat value]) else (.some value (left - 1) 0x80 0xBF, [])
      else
        let (p, cs) := start b
        (p, replacement :: cs)

def decodeFrom (p : Pending) : List UInt8 → List Char
  | [] => match p with
      | .none => []
      | .some _ _ _ _ => [replacement]
  | b :: bs => (step p b).2 ++ decodeFrom (step p b).1 bs

/-- The text of any bytes. -/
def decode (bs : List UInt8) : List Char := decodeFrom .none bs

/-- The bytes of a text. -/
def encode (s : String) : List UInt8 := s.toUTF8.data.toList

/-- The text of bytes that are well-formed throughout. -/
def decode? (bs : List UInt8) : Option String :=
  let s := String.ofList (decode bs)
  if encode s = bs then some s else none

end DoorControl.Text.Utf8
