/- Card frames: STX, ten id digits, two checksum digits, ETX. A decoder takes them byte by byte. -/
import DoorControl.Card.Id

namespace DoorControl.Card

/-- The byte that begins a frame. -/
def stx : UInt8 := 0x02

/-- The byte that ends a frame. -/
def etx : UInt8 := 0x03

/-- The value of a byte that is a hexadecimal digit of either case. -/
def nybble? (b : UInt8) : Option Nat :=
  Text.Numeral.digit? 16 (Char.ofNat b.toNat)

/-- How far a frame has been read; `high` is the first digit of the byte being read. -/
inductive FrameState
  | idle
  | digits (index : Nat) (high : Option Nat)
  | checksum (high : Option Nat)
  | complete
  deriving DecidableEq, Repr, Inhabited

/-- The five id bytes of a frame. -/
structure Payload where
  b0 : Nat := 0
  b1 : Nat := 0
  b2 : Nat := 0
  b3 : Nat := 0
  b4 : Nat := 0
  deriving DecidableEq, Repr, Inhabited

namespace Payload

/-- Puts a byte at one of the five places. -/
def set (p : Payload) (index byte : Nat) : Payload :=
  match index with
  | 0 => { p with b0 := byte }
  | 1 => { p with b1 := byte }
  | 2 => { p with b2 := byte }
  | 3 => { p with b3 := byte }
  | _ => { p with b4 := byte }

def toList (p : Payload) : List Nat := [p.b0, p.b1, p.b2, p.b3, p.b4]

/-- The number whose bytes these are, the first one being the highest. -/
def value (p : Payload) : Nat := p.toList.foldl (fun n b => n * 256 + b) 0

/-- The exclusive or of the bytes. -/
def parity (p : Payload) : Nat := p.toList.foldl (· ^^^ ·) 0

end Payload

/-- Reads frames one byte at a time. -/
structure FrameDecoder where
  state : FrameState := .idle
  payload : Payload := {}
  checksum : Nat := 0
  /-- Whether a frame has been closed since the last STX or reset. -/
  closed : Bool := false
  deriving DecidableEq, Repr, Inhabited

namespace FrameDecoder

/-- A digit inside a frame. -/
def digit (d : FrameDecoder) (n : Nat) : FrameDecoder :=
  match d.state with
  | .idle => d
  | .digits index none => { d with state := .digits index (some n) }
  | .digits index (some high) =>
      { d with
        payload := d.payload.set index (high * 16 + n)
        state := if index + 1 ≥ idSize then .checksum none else .digits (index + 1) none }
  | .checksum none => { d with state := .checksum (some n) }
  | .checksum (some high) => { d with checksum := high * 16 + n, state := .complete }
  | .complete => { d with state := .idle }

/-- Takes one byte; true when it closes a frame. -/
def feed (d : FrameDecoder) (b : UInt8) : FrameDecoder × Bool :=
  if b = stx then ({ d with state := .digits 0 none, checksum := 0, closed := false }, false)
  else if b = etx then
    if d.state = .complete then ({ d with state := .idle, closed := true }, true)
    else ({ d with state := .idle }, false)
  else match nybble? b with
    | some n => (d.digit n, false)
    | none => ({ d with state := .idle }, false)

/-- The id of the frame closed last; zero if there is none or if its checksum is wrong. -/
def id (d : FrameDecoder) : Nat :=
  if d.closed ∧ d.payload.parity = d.checksum then d.payload.value else 0

/-- Forgets a frame read in part or closed. -/
def reset (d : FrameDecoder) : FrameDecoder := { d with state := .idle, closed := false }

/-- Takes bytes in order; gives the places of those that close a frame, with the id then read. -/
def feedAll (d : FrameDecoder) (bs : List UInt8) : FrameDecoder × List (Nat × Nat) :=
  go d 0 bs
where
  go (d : FrameDecoder) (place : Nat) : List UInt8 → FrameDecoder × List (Nat × Nat)
    | [] => (d, [])
    | b :: bs =>
        let (d, closes) := d.feed b
        let (last, found) := go d (place + 1) bs
        (last, if closes then (place, d.id) :: found else found)

end FrameDecoder

end DoorControl.Card
