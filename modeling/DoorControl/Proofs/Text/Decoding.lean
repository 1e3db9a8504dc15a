/- Any bytes as text: which characters stand in them, and which parts are ill-formed. -/
import DoorControl.Text.Utf8

namespace DoorControl.Text.Utf8

open String (utf8EncodeChar)

/-- The bytes begin the encoding of a character. -/
def Begins (bytes : List UInt8) : Prop := ∃ c, bytes <+: utf8EncodeChar c

/-- No character is encoded at the start of `part ++ rest`, and no beginning of one there is longer than `part`.
If not even one byte begins a character, the part is that byte. -/
structure IllFormed (part rest : List UInt8) : Prop where
  noChar : ∀ c, ¬utf8EncodeChar c <+: part ++ rest
  nonempty : part ≠ []
  begins : Begins part ∨ part.length = 1
  longest : ∀ longer, longer <+: part ++ rest → Begins longer → longer.length ≤ part.length

/-- The text of bytes: the characters that are encoded in them, and one replacement character for every maximal
ill-formed part. -/
inductive Reads : List UInt8 → List Char → Prop
  | done : Reads [] []
  | char {rest text} (c : Char) (h : Reads rest text) : Reads (utf8EncodeChar c ++ rest) (c :: text)
  | illFormed {part rest text} (h : IllFormed part rest) (h' : Reads rest text) :
      Reads (part ++ rest) (replacement :: text)

variable {part rest bytes : List UInt8} {value left lo hi : Nat}

/-- No encoding begins another one. -/
theorem encoding_prefix_free {c d : Char} (h : utf8EncodeChar c <+: utf8EncodeChar d) : c = d := by
  obtain ⟨more, eq⟩ := h
  have whole := ByteArray.utf8DecodeChar?_utf8EncodeChar_append (c := d) (b := .empty)
  have part := ByteArray.utf8DecodeChar?_utf8EncodeChar_append (c := c) (b := more.toByteArray)
  rw [ByteArray.append_empty] at whole
  rw [← List.toByteArray_append, eq, whole] at part
  exact (Option.some.inj part).symm

theorem Begins.of_prefix (h : Begins bytes) (first : part <+: bytes) : Begins part := by
  obtain ⟨c, begins⟩ := h
  exact ⟨c, first.trans begins⟩

/-- A byte that begins no character is ill-formed on its own. -/
theorem illFormed_byte {b : UInt8} (h : ¬Begins [b]) (rest : List UInt8) : IllFormed [b] rest where
  noChar c whole := by
    obtain ⟨first, more, eq⟩ := List.exists_cons_of_ne_nil (String.utf8EncodeChar_ne_nil (c := c))
    rw [eq] at whole
    obtain rfl : first = b := (List.cons_prefix_cons.mp whole).1
    exact h ⟨c, more, eq.symm⟩
  nonempty := List.cons_ne_nil _ _
  begins := .inr rfl
  longest longer there begins := by
    cases longer with
    | nil => exact Nat.zero_le _
    | cons first more =>
        obtain rfl : first = b := (List.cons_prefix_cons.mp there).1
        exact absurd (begins.of_prefix ⟨more, rfl⟩) h

theorem IllFormed.length_le {part' rest' : List UInt8} (h : IllFormed part rest) (h' : IllFormed part' rest')
    (same : part ++ rest = part' ++ rest') : part.length ≤ part'.length := by
  obtain begins | one := h.begins
  · exact h'.longest part (same ▸ List.prefix_append part rest) begins
  · exact one ▸ List.length_pos_iff.mpr h'.nonempty

/-- A byte that goes on with a character. -/
def IsTail (b : UInt8) : Prop := 0x80 ≤ b.toNat ∧ b.toNat ≤ 0xBF

theorem ofNat_eq_iff {n : Nat} {b : UInt8} (h : n < 256) : UInt8.ofNat n = b ↔ b.toNat = n := by
  rw [← UInt8.toNat_inj, UInt8.toNat_ofNat']
  omega

theorem code_valid (c : Char) : c.toNat < 0xD800 ∨ 0xDFFF < c.toNat ∧ c.toNat < 0x110000 := c.valid

theorem toNat_ofNat_of_valid {code : Nat} (h : code.isValidChar) : (Char.ofNat code).toNat = code := by
  rw [Char.ofNat, dif_pos h]
  rfl

/-- The encodings of one to four bytes. -/
theorem encoding_eq_iff {c : Char} : utf8EncodeChar c = bytes ↔
    (∃ b, bytes = [b] ∧ b.toNat < 0x80 ∧ c.toNat = b.toNat) ∨
    (∃ b b₁, bytes = [b, b₁] ∧ (0xC2 ≤ b.toNat ∧ b.toNat ≤ 0xDF) ∧ IsTail b₁ ∧
      c.toNat = (b.toNat - 0xC0) * 64 + (b₁.toNat - 0x80)) ∨
    (∃ b b₁ b₂, bytes = [b, b₁, b₂] ∧ (0xE0 ≤ b.toNat ∧ b.toNat ≤ 0xEF) ∧ IsTail b₁ ∧ IsTail b₂ ∧
      0x800 ≤ c.toNat ∧
      c.toNat = ((b.toNat - 0xE0) * 64 + (b₁.toNat - 0x80)) * 64 + (b₂.toNat - 0x80)) ∨
    (∃ b b₁ b₂ b₃, bytes = [b, b₁, b₂, b₃] ∧ (0xF0 ≤ b.toNat ∧ b.toNat ≤ 0xF4) ∧ IsTail b₁ ∧
      IsTail b₂ ∧ IsTail b₃ ∧ 0x10000 ≤ c.toNat ∧
      c.toNat = (((b.toNat - 0xF0) * 64 + (b₁.toNat - 0x80)) * 64 + (b₂.toNat - 0x80)) * 64 +
        (b₃.toNat - 0x80)) := by
  have valid := code_valid c
  have eq : utf8EncodeChar c =
      if c.toNat ≤ 127 then [UInt8.ofNat c.toNat]
      else if c.toNat ≤ 2047 then
        [UInt8.ofNat (c.toNat / 64 % 32 + 192), UInt8.ofNat (c.toNat % 64 + 128)]
      else if c.toNat ≤ 65535 then
        [UInt8.ofNat (c.toNat / 4096 % 16 + 224), UInt8.ofNat (c.toNat / 64 % 64 + 128),
          UInt8.ofNat (c.toNat % 64 + 128)]
      else
        [UInt8.ofNat (c.toNat / 262144 % 8 + 240), UInt8.ofNat (c.toNat / 4096 % 64 + 128),
          UInt8.ofNat (c.toNat / 64 % 64 + 128), UInt8.ofNat (c.toNat % 64 + 128)] := rfl
  rw [eq]
  unfold IsTail
  constructor
  · rintro rfl
    split
    · exact .inl ⟨_, rfl, by simp only [UInt8.toNat_ofNat']; omega⟩
    split
    · exact .inr (.inl ⟨_, _, rfl, by simp only [UInt8.toNat_ofNat']; omega⟩)
    split
    · exact .inr (.inr (.inl ⟨_, _, _, rfl, by simp only [UInt8.toNat_ofNat']; omega⟩))
    · exact .inr (.inr (.inr ⟨_, _, _, _, rfl, by simp only [UInt8.toNat_ofNat']; omega⟩))
  · have byte {n : Nat} {b : UInt8} (h : b.toNat = n) : UInt8.ofNat n = b :=
      (ofNat_eq_iff (h ▸ b.toNat_lt)).mpr h
    rintro (⟨b, rfl, lead, code⟩ | ⟨b, b₁, rfl, lead, tail, code⟩ | ⟨b, b₁, b₂, rfl, lead, tail, code⟩ |
      ⟨b, b₁, b₂, b₃, rfl, lead, tail, code⟩)
    · rw [if_pos (by omega), byte (b := b) (by omega)]
    · rw [if_neg (by omega), if_pos (by omega), byte (b := b) (by omega), byte (b := b₁) (by omega)]
    · rw [if_neg (by omega), if_neg (by omega), if_pos (by omega), byte (b := b) (by omega),
        byte (b := b₁) (by omega), byte (b := b₂) (by omega)]
    · rw [if_neg (by omega), if_neg (by omega), if_neg (by omega), byte (b := b) (by omega),
        byte (b := b₁) (by omega), byte (b := b₂) (by omega), byte (b := b₃) (by omega)]

/-- The bytes go on with a character, of which `value` has been read, to its end, its code being `code`. The first
of them lies between `lo` and `hi`. -/
def Completes (value lo hi : Nat) : (left : Nat) → (bytes : List UInt8) → (code : Nat) → Prop
  | 0, bytes, code => bytes = [] ∧ code = value
  | left + 1, bytes, code => ∃ b rest, bytes = b :: rest ∧ (lo ≤ b.toNat ∧ b.toNat ≤ hi) ∧
      Completes (value * 64 + (b.toNat - 0x80)) 0x80 0xBF left rest code

/-- Bytes that have led to a pending part, and the characters that they begin. -/
structure Leads (part : List UInt8) (value left lo hi : Nat) : Prop where
  completed : ∀ c bytes, utf8EncodeChar c = part ++ bytes ↔ Completes value lo hi left bytes c.toNat
  valid : ∀ bytes code, Completes value lo hi left bytes code → code.isValidChar
  owed : 0 < left
  ordered : lo ≤ hi ∧ hi ≤ 0xBF

theorem exists_completes (ordered : lo ≤ hi ∧ hi ≤ 0xBF) (value left : Nat) :
    ∃ bytes code, Completes value lo hi left bytes code := by
  induction left generalizing value lo hi with
  | zero => exact ⟨[], value, rfl, rfl⟩
  | succ left ih =>
      have low : (lo.toUInt8).toNat = lo := by simp; omega
      obtain ⟨bytes, code, h⟩ : ∃ bytes code,
          Completes (value * 64 + (lo.toUInt8.toNat - 0x80)) 0x80 0xBF left bytes code := ih (by decide) _
      exact ⟨lo.toUInt8 :: bytes, code, _, _, rfl, by omega, h⟩

namespace Leads

variable (h : Leads part value left lo hi)
include h

theorem begins : Begins part := by
  obtain ⟨bytes, code, completes⟩ := exists_completes h.ordered value left
  have there := toNat_ofNat_of_valid (h.valid bytes code completes)
  exact ⟨Char.ofNat code, bytes, ((h.completed _ _).mpr (there.symm ▸ completes)).symm⟩

theorem unfinished {c : Char} : utf8EncodeChar c ≠ part := by
  intro eq
  have completes := (h.completed c []).mp (by rw [List.append_nil, eq])
  obtain ⟨left, rfl⟩ := Nat.exists_eq_add_one_of_ne_zero (Nat.ne_of_gt h.owed)
  obtain ⟨b, rest, none, -⟩ := completes
  cases none

/-- If the next byte, should there be one, does not go on with the character, what has been read is ill-formed. -/
theorem illFormed (nonempty : part ≠ []) (stops : ∀ b ∈ rest.head?, ¬Begins (part ++ [b])) :
    IllFormed part rest := by
  -- Whatever begins a character here is no longer than `part`.
  have within {longer : List UInt8} (there : longer <+: part ++ rest) (begins : Begins longer) :
      longer <+: part := by
    obtain inside | ⟨bytes, rfl⟩ := List.prefix_or_prefix_of_prefix there (List.prefix_append part rest)
    · exact inside
    · cases bytes with
      | nil => exact (List.append_nil part).symm ▸ List.prefix_rfl
      | cons b bytes =>
          obtain ⟨more, rfl⟩ := (List.prefix_append_right_inj part).mp there
          exact absurd (begins.of_prefix ⟨bytes, by simp⟩) (stops b rfl)
  refine ⟨fun c whole => ?_, nonempty, .inl h.begins, fun _ there begins => (within there begins).length_le⟩
  obtain ⟨d, begun⟩ := h.begins
  have inside := within whole ⟨c, List.prefix_rfl⟩
  obtain rfl := encoding_prefix_free (inside.trans begun)
  exact h.unfinished (inside.eq_of_length_le begun.length_le)

end Leads

variable {b : UInt8}

theorem leads_two (lead : 0xC2 ≤ b.toNat ∧ b.toNat ≤ 0xDF) : Leads [b] (b.toNat - 0xC0) 1 0x80 0xBF where
  completed c bytes := by
    rw [encoding_eq_iff]
    simp only [Completes]
    constructor
    · rintro (⟨_, ⟨⟩, _⟩ | ⟨_, _, ⟨⟩, -, tail, code⟩ | ⟨_, _, _, ⟨⟩, _⟩ | ⟨_, _, _, _, ⟨⟩, _⟩)
      · omega
      · exact ⟨_, _, rfl, tail, rfl, code⟩
      · omega
      · omega
    · rintro ⟨b₁, _, rfl, tail, rfl, code⟩
      exact .inr (.inl ⟨b, b₁, rfl, lead, tail, code⟩)
  valid bytes code := by
    rintro ⟨b₁, _, rfl, tail, rfl, eq⟩
    unfold Nat.isValidChar
    omega
  owed := by decide
  ordered := by decide

/-- The second of three bytes has to lead to a code that is neither too small nor a surrogate. -/
theorem leads_three (lead : 0xE0 ≤ b.toNat ∧ b.toNat ≤ 0xEF) (value_eq : value = b.toNat - 0xE0)
    (range : ∀ n, lo ≤ n ∧ n ≤ hi ↔ (0x80 ≤ n ∧ n ≤ 0xBF) ∧ 0x20 ≤ value * 64 + (n - 0x80) ∧
      (value * 64 + (n - 0x80)) / 0x20 ≠ 0x1B) (ordered : lo ≤ hi ∧ hi ≤ 0xBF) :
    Leads [b] value 2 lo hi where
  completed c bytes := by
    have valid := code_valid c
    rw [encoding_eq_iff]
    simp only [Completes, range]
    constructor
    · rintro (⟨_, ⟨⟩, _⟩ | ⟨_, _, ⟨⟩, lead', _⟩ | ⟨_, b₁, b₂, ⟨⟩, -, tail, tail', code⟩ |
        ⟨_, _, _, _, ⟨⟩, lead', _⟩)
      · omega
      · omega
      · unfold IsTail at tail tail'
        exact ⟨_, _, rfl, ⟨tail, by omega, by omega⟩, _, _, rfl, tail', rfl, by omega⟩
      · omega
    · rintro ⟨b₁, _, rfl, ⟨tail, least, noSurrogate⟩, b₂, _, rfl, tail', rfl, code⟩
      exact .inr (.inr (.inl ⟨b, b₁, b₂, rfl, lead, tail, tail', by omega, by omega⟩))
  valid bytes code := by
    simp only [Completes, range]
    rintro ⟨b₁, _, rfl, ⟨tail, least, noSurrogate⟩, b₂, _, rfl, tail', rfl, eq⟩
    unfold Nat.isValidChar
    omega
  owed := by decide
  ordered := ordered

/-- The second of four bytes has to lead to a code that is neither too small nor too large. -/
theorem leads_four (lead : 0xF0 ≤ b.toNat ∧ b.toNat ≤ 0xF4) (value_eq : value = b.toNat - 0xF0)
    (range : ∀ n, lo ≤ n ∧ n ≤ hi ↔ (0x80 ≤ n ∧ n ≤ 0xBF) ∧ 0x10 ≤ value * 64 + (n - 0x80) ∧
      value * 64 + (n - 0x80) < 0x110) (ordered : lo ≤ hi ∧ hi ≤ 0xBF) :
    Leads [b] value 3 lo hi where
  completed c bytes := by
    have valid := code_valid c
    rw [encoding_eq_iff]
    simp only [Completes, range]
    constructor
    · rintro (⟨_, ⟨⟩, _⟩ | ⟨_, _, ⟨⟩, lead', _⟩ | ⟨_, _, _, ⟨⟩, lead', _⟩ |
        ⟨_, b₁, b₂, b₃, ⟨⟩, -, tail, tail', tail'', code⟩)
      · omega
      · omega
      · omega
      · unfold IsTail at tail tail' tail''
        exact ⟨_, _, rfl, ⟨tail, by omega, by omega⟩, _, _, rfl, tail', _, _, rfl, tail'', rfl, by omega⟩
    · rintro ⟨b₁, _, rfl, ⟨tail, least, most⟩, b₂, _, rfl, tail', b₃, _, rfl, tail'', rfl, code⟩
      exact .inr (.inr (.inr ⟨b, b₁, b₂, b₃, rfl, lead, tail, tail', tail'', by omega, by omega⟩))
  valid bytes code := by
    simp only [Completes, range]
    rintro ⟨b₁, _, rfl, ⟨tail, least, most⟩, b₂, _, rfl, tail', b₃, _, rfl, tail'', rfl, eq⟩
    unfold Nat.isValidChar
    omega
  owed := by decide
  ordered := ordered

/-- A first byte is a character, or leads to a pending part, or begins nothing. -/
theorem start_cases (b : UInt8) :
    (∃ c, start b = (.none, [c]) ∧ utf8EncodeChar c = [b]) ∨
    (∃ value left lo hi, start b = (.some value left lo hi, []) ∧ Leads [b] value left lo hi) ∨
    (start b = (.none, [replacement]) ∧ ¬Begins [b]) := by
  unfold start
  dsimp only
  split
  · next one =>
    refine .inl ⟨_, rfl, encoding_eq_iff.mpr (.inl ⟨b, rfl, one, ?_⟩)⟩
    exact toNat_ofNat_of_valid (.inl (by omega))
  refine .inr ?_
  split
  · next two => exact .inl ⟨_, _, _, _, rfl, leads_two two⟩
  split
  · next lead => exact .inl ⟨_, _, _, _, rfl, leads_three (by omega) (by omega) (by omega) (by decide)⟩
  split
  · next lead => exact .inl ⟨_, _, _, _, rfl, leads_three (by omega) (by omega) (by omega) (by decide)⟩
  split
  · next lead => exact .inl ⟨_, _, _, _, rfl, leads_three (by omega) rfl (by omega) (by decide)⟩
  split
  · next lead => exact .inl ⟨_, _, _, _, rfl, leads_four (by omega) (by omega) (by omega) (by decide)⟩
  split
  · next lead => exact .inl ⟨_, _, _, _, rfl, leads_four (by omega) (by omega) (by omega) (by decide)⟩
  split
  · next lead => exact .inl ⟨_, _, _, _, rfl, leads_four (by omega) rfl (by omega) (by decide)⟩
  · refine .inr ⟨rfl, ?_⟩
    rintro ⟨c, more, eq⟩
    obtain ⟨_, ⟨⟩, lead⟩ | ⟨_, _, ⟨⟩, lead, _⟩ | ⟨_, _, _, ⟨⟩, lead, _⟩ | ⟨_, _, _, _, ⟨⟩, lead, _⟩ :=
      encoding_eq_iff.mp eq.symm
    all_goals omega

/-- The next byte ends the character, or goes on with it, or does not belong to it. -/
theorem Leads.step_cases (h : Leads part value left lo hi) (b : UInt8) :
    (∃ c, step (.some value left lo hi) b = (.none, [c]) ∧ utf8EncodeChar c = part ++ [b]) ∨
    (∃ value' left', step (.some value left lo hi) b = (.some value' left' 0x80 0xBF, []) ∧
      Leads (part ++ [b]) value' left' 0x80 0xBF) ∨
    (step (.some value left lo hi) b = ((start b).1, replacement :: (start b).2) ∧
      ¬Begins (part ++ [b])) := by
  obtain ⟨left, rfl⟩ := Nat.exists_eq_add_one_of_ne_zero (Nat.ne_of_gt h.owed)
  have next (c : Char) (bytes : List UInt8) : utf8EncodeChar c = part ++ [b] ++ bytes ↔
      (lo ≤ b.toNat ∧ b.toNat ≤ hi) ∧
        Completes (value * 64 + (b.toNat - 0x80)) 0x80 0xBF left bytes c.toNat := by
    rw [List.append_assoc, h.completed]
    constructor
    · rintro ⟨_, _, ⟨⟩, inside, completes⟩
      exact ⟨inside, completes⟩
    · exact fun ⟨inside, completes⟩ => ⟨b, bytes, rfl, inside, completes⟩
  unfold step
  dsimp only
  split
  · next inside =>
    have completed (c : Char) (bytes : List UInt8) := (next c bytes).trans (and_iff_right inside)
    have valid (bytes : List UInt8) (code : Nat)
        (completes : Completes (value * 64 + (b.toNat - 0x80)) 0x80 0xBF left bytes code) :
        code.isValidChar :=
      h.valid (b :: bytes) code ⟨b, bytes, rfl, inside, completes⟩
    cases left with
    | zero =>
        have there := toNat_ofNat_of_valid (valid [] _ ⟨rfl, rfl⟩)
        refine .inl ⟨_, rfl, ?_⟩
        rw [← List.append_nil (part ++ [b]), completed]
        exact ⟨rfl, there⟩
    | succ left => exact .inr (.inl ⟨_, _, rfl, completed, valid, Nat.succ_pos left, by decide⟩)
  · next outside =>
    refine .inr (.inr ⟨rfl, ?_⟩)
    rintro ⟨c, more, eq⟩
    exact outside ((next c more).mp eq.symm).1

theorem reads_decodeFrom (bytes : List UInt8) : Reads bytes (decodeFrom .none bytes) ∧
    ∀ part value left lo hi, part ≠ [] → Leads part value left lo hi →
      Reads (part ++ bytes) (decodeFrom (.some value left lo hi) bytes) := by
  induction bytes with
  | nil =>
      refine ⟨.done, fun part value left lo hi nonempty leads => ?_⟩
      exact .illFormed (leads.illFormed nonempty nofun) .done
  | cons b bytes ih =>
      obtain ⟨afresh, goOn⟩ := ih
      have first : Reads (b :: bytes) (decodeFrom .none (b :: bytes)) := by
        change Reads _ ((start b).2 ++ decodeFrom (start b).1 bytes)
        obtain ⟨c, started, eq⟩ | ⟨value, left, lo, hi, started, leads⟩ | ⟨started, none⟩ := start_cases b
        · rw [started, ← List.singleton_append, ← eq]
          exact .char c afresh
        · rw [started]
          exact goOn [b] _ _ _ _ (List.cons_ne_nil _ _) leads
        · rw [started]
          exact .illFormed (illFormed_byte none bytes) afresh
      refine ⟨first, fun part value left lo hi nonempty leads => ?_⟩
      change Reads _ ((step (.some value left lo hi) b).2 ++ decodeFrom (step (.some value left lo hi) b).1 bytes)
      obtain ⟨c, stepped, eq⟩ | ⟨value', left', stepped, leads'⟩ | ⟨stepped, none⟩ := leads.step_cases b
      · rw [stepped, ← List.singleton_append, ← List.append_assoc, ← eq]
        exact .char c afresh
      · rw [stepped, ← List.singleton_append, ← List.append_assoc]
        exact goOn _ _ _ _ _ (by simp) leads'
      · rw [stepped]
        exact .illFormed (leads.illFormed nonempty (by simpa using none)) first

theorem Reads.unique {text other : List Char} (h : Reads bytes text) (h' : Reads bytes other) : text = other := by
  induction h generalizing other with
  | done =>
      generalize eq : ([] : List UInt8) = bytes at h'
      cases h' with
      | done => rfl
      | char c _ => exact absurd (List.append_eq_nil_iff.mp eq.symm).1 String.utf8EncodeChar_ne_nil
      | illFormed part _ => exact absurd (List.append_eq_nil_iff.mp eq.symm).1 part.nonempty
  | @char rest text c _ ih =>
      generalize eq : utf8EncodeChar c ++ rest = bytes at h'
      cases h' with
      | done => exact absurd (List.append_eq_nil_iff.mp eq).1 String.utf8EncodeChar_ne_nil
      | @char rest' text' d after =>
          obtain rfl : c = d := by
            obtain first | first := List.prefix_or_prefix_of_prefix (eq ▸ List.prefix_append _ rest)
              (List.prefix_append (utf8EncodeChar d) rest')
            · exact encoding_prefix_free first
            · exact (encoding_prefix_free first).symm
          rw [List.append_cancel_left eq] at ih
          rw [ih after]
      | illFormed part _ => exact absurd (eq ▸ List.prefix_append _ rest) (part.noChar c)
  | @illFormed part rest text broken _ ih =>
      generalize eq : part ++ rest = bytes at h'
      cases h' with
      | done => exact absurd (List.append_eq_nil_iff.mp eq).1 broken.nonempty
      | char c _ => exact absurd (eq ▸ List.prefix_append _ _) (broken.noChar c)
      | @illFormed part' rest' text' broken' after =>
          obtain ⟨rfl, rfl⟩ := List.append_inj eq
            (Nat.le_antisymm (broken.length_le broken' eq) (broken'.length_le broken eq.symm))
          rw [ih after]

theorem reads_iff {text : List Char} : Reads bytes text ↔ decode bytes = text := by
  have reads := (reads_decodeFrom bytes).1
  exact ⟨fun h => reads.unique h, fun h => h ▸ reads⟩

example : decode [0xE2, 0x82, 0x41, 0x80, 0x80] = [replacement, 'A', replacement, replacement] := by decide

end DoorControl.Text.Utf8
