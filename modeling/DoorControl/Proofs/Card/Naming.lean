/- Card texts: which texts name a card, and which card that is. -/
import DoorControl.Proofs.Text.Hexadecimal
import DoorControl.Proofs.Text.Literal
import DoorControl.Card.Id

namespace DoorControl

open Text (isBlank)

namespace CardId

open Text.Numeral (digitsFrom)

/-- A text is read as a card: at most ten characters between blanks, hexadecimal digits after at most a plus, whose
value is the card's id. -/
def Names (text : String) (c : CardId) : Prop :=
  ∃ before sign digits after, text.toList = before ++ (sign ++ digits) ++ after ∧
    (∀ ch ∈ before ++ after, isBlank ch = true) ∧ (sign = [] ∨ sign = ['+']) ∧ digits ≠ [] ∧
    (sign ++ digits).length ≤ idDigits ∧ digitsFrom 16 0 digits = some c.raw

theorem ofNat_eq_ok_iff {raw : Nat} {c : CardId} : ofNat raw = .ok c ↔ raw = c.raw := by
  unfold ofNat
  constructor
  · intro h
    split at h
    · split at h
      · exact congrArg CardId.raw (Except.ok.inj h)
      · cases h
    · cases h
  · rintro rfl
    rw [dif_pos c.pos, dif_pos c.le_max]

/-- The characters of a spelled id are visible and one byte long. -/
theorem spelling_plain {sign digits : List Char} {value : Nat} (hsign : sign = [] ∨ sign = ['+'])
    (hdigits : digitsFrom 16 0 digits = some value) :
    ∀ ch ∈ sign ++ digits, isBlank ch = false ∧ ch.toNat < 128 := by
  intro ch mem
  obtain signed | digit := List.mem_append.mp mem
  · obtain rfl | rfl := hsign
    · cases signed
    · obtain rfl := List.mem_singleton.mp signed
      exact ⟨rfl, by decide⟩
  · have hex : Text.Numeral.IsHex ch := Text.Numeral.digitsFrom_digits hdigits ch digit
    exact ⟨hex.not_blank, hex.ascii⟩

/-- The texts that are read as a card. -/
theorem ofHex_eq_ok_iff {text : String} {c : CardId} : ofHex text = .ok c ↔ Names text c := by
  have fits : c.raw ≤ Text.Numeral.max64 := Nat.le_trans c.le_max (by decide)
  have read (s : List Char) : Text.Numeral.unsigned? 16 Text.Numeral.max64 s = some c.raw ↔
      ∃ sign digits, s = sign ++ digits ∧ (sign = [] ∨ sign = ['+']) ∧ digits ≠ [] ∧
        digitsFrom 16 0 digits = some c.raw :=
    Text.Numeral.unsigned?_eq_some_iff.trans (and_iff_right fits)
  unfold ofHex Text.trimmed
  dsimp only
  rw [String.toList_ofList]
  constructor
  · intro h
    split at h
    · cases h
    · next inSize =>
      split at h
      · next raw numeral =>
        obtain rfl : raw = c.raw := ofNat_eq_ok_iff.mp h
        obtain ⟨sign, digits, spelled, hsign, some', value⟩ := (read _).mp numeral
        obtain ⟨before, after, around, blanks⟩ := Text.exists_blanks_around_trim text.toList
        have short := (not_or.mp inSize).2
        rw [spelled, Text.utf8ByteSize_ofList fun ch mem => (spelling_plain hsign value ch mem).2]
          at short
        exact ⟨before, sign, digits, after, spelled ▸ around, blanks, hsign, some',
          Nat.le_of_not_lt short, value⟩
      · cases h
  · rintro ⟨before, sign, digits, after, around, blanks, hsign, some', short, value⟩
    have plain := spelling_plain hsign value
    have trimmed : Text.trim text.toList = sign ++ digits := by
      rw [around]
      exact Text.trim_surrounded (fun ch mem => blanks ch (List.mem_append_left _ mem))
        (fun ch mem => blanks ch (List.mem_append_right _ mem)) fun ch mem => (plain ch mem).1
    rw [trimmed, if_neg]
    · rw [(read _).mpr ⟨sign, digits, rfl, hsign, some', value⟩]
      exact ofNat_eq_ok_iff.mpr rfl
    · rw [Text.utf8ByteSize_ofList fun ch mem => (plain ch mem).2, not_or]
      exact ⟨by simp [some'], Nat.not_lt.mpr short⟩

theorem toOption_ofHex_iff {text : String} {c : CardId} :
    (ofHex text).toOption = some c ↔ Names text c := by
  rw [← ofHex_eq_ok_iff]
  cases ofHex text <;> simp [Except.toOption]

end CardId

end DoorControl
