/- Card ids: five bytes, never zero, written as ten hexadecimal digits. -/
import DoorControl.Protocol.Error
import DoorControl.Text.Blank
import DoorControl.Text.Numeral

namespace DoorControl

/-- Bytes of a card id. -/
def idSize : Nat := 5

/-- Hexadecimal digits of a card id. -/
def idDigits : Nat := idSize * 2

/-- The largest card id. -/
def maxCardId : Nat := 0xFFFFFFFFFF

structure CardId where
  raw : Nat
  pos : 0 < raw
  le_max : raw ≤ maxCardId
  deriving DecidableEq

namespace CardId

instance : Repr CardId where
  reprPrec c _ := repr c.raw

def ofNat (raw : Nat) : Except ProtocolError CardId :=
  if pos : 0 < raw then
    if le : raw ≤ maxCardId then .ok ⟨raw, pos, le⟩
    else
      let shown := String.ofList (Text.Numeral.hex raw)
      .error (.invalidCardFormat s!"Card ID 0x{shown} does not fit in {idSize} bytes")
  else .error .reservedCardId

/-- A frame's id; zero stands for a frame with a bad checksum and is no card. -/
def ofNat? (raw : Nat) : Option CardId := (ofNat raw).toOption

/-- A card id typed by a person or sent by a service, with blanks around it and in either case. -/
def ofHex (text : String) : Except ProtocolError CardId :=
  let shown := Text.trimmed text
  if shown.isEmpty ∨ idDigits < shown.utf8ByteSize then
    .error (.invalidCardFormat s!"Card ID must be 1-{idDigits} hex digits, got '{shown}'")
  else match Text.Numeral.unsigned? 16 Text.Numeral.max64 shown.toList with
    | some raw => ofNat raw
    | none => .error (.invalidCardFormat s!"Card ID is not hex: '{shown}'")

/-- The ten digits used on the wire and towards the services. -/
def toHex (c : CardId) : String := String.ofList (Text.Numeral.hexPadded idDigits c.raw)

instance : ToString CardId := ⟨toHex⟩

instance : LT CardId := ⟨fun a b => a.raw < b.raw⟩

/-- Puts a card into an ascending list, unless it is there already. -/
def insertSorted (c : CardId) : List CardId → List CardId
  | [] => [c]
  | d :: ds =>
      if c.raw < d.raw then c :: d :: ds
      else if c.raw = d.raw then d :: ds
      else d :: insertSorted c ds

/-- The cards of a list in ascending order, each once. -/
def sorted (cs : List CardId) : List CardId := cs.foldr insertSorted []

end CardId

end DoorControl
