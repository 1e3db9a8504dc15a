/- Which texts and which reply lines are accepted as a card id: those of its grammar, and some more. -/
import DoorControl.Proofs.Card.Naming
import DoorControl.Reader.Command
import Mathlib.Data.Nat.Digits.Defs

namespace DoorControl

open Text

namespace Text

theorem getLast?_trim (s : List Char) : ∀ c ∈ (trim s).getLast?, isBlank c = false := by
  intro c last
  rw [trim, dropBlanksRight, List.getLast?_reverse] at last
  have first := List.head?_dropWhile_not isBlank (dropBlanks s).reverse
  rw [Option.mem_def.mp last] at first
  exact first

/-- What stands at the end of a trimmed text is trimmed but for blanks in front. -/
theorem eq_gap_append_trim {s front body : List Char} (split : trim s = front ++ body) :
    ∃ gap, body = gap ++ trim body ∧ ∀ c ∈ gap, isBlank c = true := by
  obtain ⟨gap, after, around, blanks⟩ := exists_blanks_around_trim body
  cases after using List.reverseRecOn with
  | nil =>
      rw [List.append_nil] at around blanks
      exact ⟨gap, around, blanks⟩
  | append_singleton begun c =>
      have last : c ∈ (trim s).getLast? := by
        rw [split, around]
        simp
      have blank : isBlank c = true := blanks c (by simp)
      rw [getLast?_trim s c last] at blank
      cases blank

namespace Numeral

/-- The hexadecimal digits, with letters of both cases. -/
def hexDigits : List Char := "0123456789ABCDEFabcdef".toList

/-- What a digit stands for: its place in the row of the sixteen. -/
def hexPlace (c : Char) : Nat := "0123456789abcdef".toList.idxOf c.toLower

/-- The number that digits spell in base sixteen, the first of them counting most. -/
def hexValue (s : List Char) : Nat := Nat.ofDigits 16 (s.map hexPlace).reverse

variable {c : Char} {s : List Char} {n d acc : Nat}

theorem forall_hexDigit {p : Char → Prop} [DecidablePred p] (all : hexDigits.all (p ·) = true) :
    ∀ c ∈ hexDigits, p c := by
  simpa using all

theorem digit?_hex_eq_some_iff : digit? 16 c = some d ↔ c ∈ hexDigits ∧ d = hexPlace c := by
  have read : ∀ c ∈ hexDigits, digit? 16 c = some (hexPlace c) :=
    forall_hexDigit (by decide)
  constructor
  · intro value
    have hex : IsHex c := by
      rw [IsHex, value]
      rfl
    have ascii : ∀ n < 128, IsHex (Char.ofNat n) → Char.ofNat n ∈ hexDigits := by decide
    have digit : c ∈ hexDigits := by
      have listed := ascii c.toNat hex.ascii
      rw [Char.ofNat_toNat] at listed
      exact listed hex
    rw [read c digit] at value
    exact ⟨digit, (Option.some.inj value).symm⟩
  · rintro ⟨digit, rfl⟩
    exact read c digit

theorem hexPlace_lt (digit : c ∈ hexDigits) : hexPlace c < 16 :=
  @forall_hexDigit (hexPlace · < 16) _ (by decide) c digit

theorem hexPlace_eq_zero_iff (digit : c ∈ hexDigits) : hexPlace c = 0 ↔ c = '0' :=
  @forall_hexDigit (fun c => hexPlace c = 0 ↔ c = '0') _ (by decide) c digit

theorem hexValue_cons (c : Char) (s : List Char) :
    hexValue (c :: s) = hexPlace c * 16 ^ s.length + hexValue s := by
  rw [hexValue, List.map_cons, List.reverse_cons, Nat.ofDigits_append, Nat.ofDigits_singleton,
    List.length_reverse, List.length_map, Nat.add_comm, Nat.mul_comm]
  rfl

theorem hexValue_lt (digits : ∀ c ∈ s, c ∈ hexDigits) : hexValue s < 16 ^ s.length := by
  have places : ∀ d ∈ (s.map hexPlace).reverse, d < 16 := by
    intro d mem
    obtain ⟨c, digit, rfl⟩ := List.mem_map.mp (List.mem_reverse.mp mem)
    exact hexPlace_lt (digits c digit)
  have bound := Nat.ofDigits_lt_base_pow_length (by decide) places
  rwa [List.length_reverse, List.length_map] at bound

theorem hexValue_eq_zero_iff (digits : ∀ c ∈ s, c ∈ hexDigits) :
    hexValue s = 0 ↔ ∀ c ∈ s, c = '0' := by
  induction s with
  | nil => simp [hexValue]
  | cons c cs ih =>
      obtain ⟨digit, rest⟩ := List.forall_mem_cons.mp digits
      rw [hexValue_cons, Nat.add_eq_zero_iff, ih rest, Nat.mul_eq_zero, hexPlace_eq_zero_iff digit,
        List.forall_mem_cons]
      simp

theorem digitsFrom_hex_eq_some_iff : digitsFrom 16 acc s = some n ↔
    (∀ c ∈ s, c ∈ hexDigits) ∧ n = acc * 16 ^ s.length + hexValue s := by
  induction s generalizing acc with
  | nil => simp [digitsFrom, hexValue, eq_comm (a := n)]
  | cons c cs ih =>
      rw [digitsFrom, List.forall_mem_cons]
      cases read : digit? 16 c with
      | none =>
          have other : c ∉ hexDigits := by
            intro digit
            rw [digit?_hex_eq_some_iff.mpr ⟨digit, rfl⟩] at read
            cases read
          simp [other]
      | some d =>
          obtain ⟨digit, rfl⟩ := digit?_hex_eq_some_iff.mp read
          have carried : (acc * 16 + hexPlace c) * 16 ^ cs.length + hexValue cs =
              acc * 16 ^ (c :: cs).length + hexValue (c :: cs) := by
            rw [hexValue_cons, List.length_cons]
            ring
          simp only [ih, digit, true_and, carried]

end Numeral

end Text

namespace CardId

open Text.Numeral

/-- The grammar of card ids: one to ten hexadecimal digits, not all of them zero. -/
structure IdText (s : List Char) : Prop where
  nonempty : s ≠ []
  short : s.length ≤ 10
  digits : ∀ ch ∈ s, ch ∈ hexDigits
  notZero : ∃ ch ∈ s, ch ≠ '0'

instance (s : List Char) : Decidable (IdText s) :=
  decidable_of_iff (s ≠ [] ∧ s.length ≤ 10 ∧ s.all (· ∈ hexDigits) ∧ s.any (· ≠ '0'))
    ⟨fun ⟨nonempty, short, digits, notZero⟩ => ⟨nonempty, short, by simpa using digits, by simpa using notZero⟩,
      fun ⟨nonempty, short, digits, notZero⟩ => ⟨nonempty, short, by simpa using digits, by simpa using notZero⟩⟩

/-- A text of the grammar and its card. -/
def Spelled (s : List Char) (c : CardId) : Prop := IdText s ∧ c.raw = hexValue s

/-- Ten bytes that are no id text and end in one: blanks and at most a plus stand before it. -/
def Padded (s : List Char) (c : CardId) : Prop :=
  ∃ gap sign digits, s = gap ++ sign ++ digits ∧ gap ++ sign ≠ [] ∧
    (∀ ch ∈ gap, isBlank ch = true) ∧ (sign = [] ∨ sign = ['+']) ∧
    (String.ofList s).utf8ByteSize = 10 ∧ Spelled digits c

variable {s : List Char} {text : String} {c : CardId}

theorem spelled_iff : Spelled s c ↔
    s ≠ [] ∧ s.length ≤ idDigits ∧ digitsFrom 16 0 s = some c.raw := by
  rw [digitsFrom_hex_eq_some_iff, Nat.zero_mul, Nat.zero_add]
  constructor
  · rintro ⟨h, value⟩
    exact ⟨h.nonempty, h.short, h.digits, value⟩
  · rintro ⟨nonempty, short, digits, value⟩
    have notZero : ¬∀ ch ∈ s, ch = '0' := by
      intro zeros
      have zero := (hexValue_eq_zero_iff digits).mpr zeros
      have := c.pos
      omega
    push Not at notZero
    exact ⟨⟨nonempty, short, digits, notZero⟩, value⟩

theorem Spelled.plain (h : Spelled s c) : ∀ ch ∈ s, isBlank ch = false ∧ ch.toNat < 128 := by
  have plain : ∀ ch ∈ hexDigits, isBlank ch = false ∧ ch.toNat < 128 := forall_hexDigit (by decide)
  intro ch mem
  exact plain ch (h.1.digits ch mem)

theorem Spelled.size (h : Spelled s c) : (String.ofList s).utf8ByteSize = s.length :=
  utf8ByteSize_ofList fun ch mem => (h.plain ch mem).2

/-- Every text of the grammar has a card. -/
theorem exists_spelled_iff : (∃ c, Spelled s c) ↔ IdText s := by
  constructor
  · rintro ⟨c, h, -⟩
    exact h
  · intro h
    have pos : 0 < hexValue s := by
      rw [Nat.pos_iff_ne_zero]
      intro zero
      obtain ⟨ch, mem, other⟩ := h.notZero
      exact other ((hexValue_eq_zero_iff h.digits).mp zero ch mem)
    have bound : hexValue s < 16 ^ 10 :=
      (hexValue_lt h.digits).trans_le (Nat.pow_le_pow_right (by decide) h.short)
    exact ⟨⟨hexValue s, pos, Nat.le_of_lt_succ bound⟩, h, rfl⟩

/-- The texts that name a card, told by what is left of them between the blanks. -/
theorem names_iff : Names text c ↔ ∃ sign digits, trim text.toList = sign ++ digits ∧
    (sign = [] ∨ sign = ['+']) ∧ (sign ++ digits).length ≤ idDigits ∧ Spelled digits c := by
  constructor
  · rintro ⟨before, sign, digits, after, around, blanks, hsign, nonempty, short, value⟩
    obtain ⟨left, right⟩ := List.forall_mem_append.mp blanks
    have plain := spelling_plain hsign value
    have trimmed : trim text.toList = sign ++ digits := by
      rw [around]
      exact trim_surrounded left right fun ch mem => (plain ch mem).1
    have digitsShort : digits.length ≤ idDigits := by
      rw [List.length_append] at short
      omega
    exact ⟨sign, digits, trimmed, hsign, short, spelled_iff.mpr ⟨nonempty, digitsShort, value⟩⟩
  · rintro ⟨sign, digits, trimmed, hsign, short, spelled⟩
    obtain ⟨nonempty, -, value⟩ := spelled_iff.mp spelled
    obtain ⟨before, after, around, blanks⟩ := exists_blanks_around_trim text.toList
    exact ⟨before, sign, digits, after, trimmed ▸ around, blanks, hsign, nonempty, short, value⟩

theorem names_iff_of_unsigned (unsigned : '+' ∉ text.toList) :
    Names text c ↔ Spelled (trim text.toList) c := by
  rw [names_iff]
  constructor
  · rintro ⟨sign, digits, trimmed, rfl | rfl, -, spelled⟩
    · rwa [trimmed]
    · obtain ⟨before, after, around, -⟩ := exists_blanks_around_trim text.toList
      refine absurd ?_ unsigned
      rw [around, trimmed]
      simp
  · intro spelled
    exact ⟨[], _, rfl, .inl rfl, spelled.1.short, spelled⟩

theorem ofHex_spelled_iff : ofHex text = .ok c ↔ Spelled (trim text.toList) c ∨
    ∃ digits, trim text.toList = '+' :: digits ∧ digits.length < 10 ∧ Spelled digits c := by
  rw [ofHex_eq_ok_iff, names_iff]
  constructor
  · rintro ⟨sign, digits, trimmed, rfl | rfl, short, spelled⟩
    · left
      rwa [trimmed]
    · right
      exact ⟨digits, trimmed, short, spelled⟩
  · rintro (spelled | ⟨digits, trimmed, short, spelled⟩)
    · exact ⟨[], _, rfl, .inl rfl, spelled.1.short, spelled⟩
    · exact ⟨['+'], digits, trimmed, .inr rfl, short, spelled⟩

end CardId

namespace Reader

open CardId

variable {line : String} {c : CardId}

theorem cardOfLine?_eq_some_iff : cardOfLine? line = some c ↔
    ∃ body, trim line.toList = "ID".toList ++ body ∧
      (String.ofList body).utf8ByteSize = idDigits ∧ Names (String.ofList body) c := by
  simp only [← after?_eq_some_iff, ← toOption_ofHex_iff]
  unfold cardOfLine?
  cases after? "ID".toList (trim line.toList) with
  | none => simp
  | some body => simp

theorem cardOfLine?_spelled_iff : cardOfLine? line = some c ↔
    ∃ body, trim line.toList = "ID".toList ++ body ∧
      (body.length = 10 ∧ Spelled body c ∨ Padded body c) := by
  rw [cardOfLine?_eq_some_iff]
  refine exists_congr fun body => and_congr_right fun begins => ?_
  rw [names_iff, String.toList_ofList]
  constructor
  · rintro ⟨size, sign, digits, trimmed, hsign, short, spelled⟩
    obtain ⟨gap, around, blanks⟩ := eq_gap_append_trim begins
    rw [trimmed, ← List.append_assoc] at around
    by_cases plain : gap ++ sign = []
    · left
      rw [plain, List.nil_append] at around
      subst around
      rw [spelled.size] at size
      exact ⟨size, spelled⟩
    · right
      exact ⟨gap, sign, digits, around, plain, blanks, hsign, size, spelled⟩
  · rintro (⟨length, spelled⟩ | ⟨gap, sign, digits, rfl, -, blanks, hsign, size, spelled⟩)
    · have visible : trim body = body := trim_eq_self fun ch mem => (spelled.plain ch mem).1
      refine ⟨spelled.size.trans length, [], body, visible, .inl rfl, length.le, spelled⟩
    · have plain : ∀ ch ∈ sign ++ digits, isBlank ch = false ∧ ch.toNat < 128 :=
        spelling_plain hsign (spelled_iff.mp spelled).2.2
      have trimmed : trim (gap ++ sign ++ digits) = sign ++ digits := by
        have := trim_surrounded blanks (List.forall_mem_nil _) fun ch mem => (plain ch mem).1
        rwa [List.append_nil, ← List.append_assoc] at this
      have short : (sign ++ digits).length ≤ idDigits := by
        rw [List.append_assoc, String.ofList_append, String.utf8ByteSize_append,
          utf8ByteSize_ofList fun ch mem => (plain ch mem).2] at size
        change _ ≤ 10
        omega
      exact ⟨size, sign, digits, trimmed, hsign, short, spelled⟩

end Reader

namespace CardId

/-- A text is read as a card exactly if between its blanks it is an id text of the card, or a plus and one with at
most nine digits. As a line it reports a card exactly if ten bytes stand behind its `ID` and these are an id text of
the card, or blanks, at most a plus, and one. Each id text has its card. -/
theorem id_texts_accepted (text : String) (c : CardId) :
    (ofHex text = .ok c ↔ Spelled (trim text.toList) c ∨
      ∃ digits, trim text.toList = '+' :: digits ∧ digits.length < 10 ∧ Spelled digits c) ∧
    (Reader.cardOfLine? text = some c ↔ ∃ body, trim text.toList = "ID".toList ++ body ∧
      (body.length = 10 ∧ Spelled body c ∨ Padded body c)) ∧
    ((∃ c, Spelled text.toList c) ↔ IdText text.toList) :=
  ⟨ofHex_spelled_iff, Reader.cardOfLine?_spelled_iff, exists_spelled_iff⟩

/-- A plus is no digit, and neither is a blank. -/
theorem plus_and_blank_accepted :
    ((ofHex "+1").isOk = true ∧ ¬IdText (trim "+1".toList)) ∧
    ∀ line ∈ ["ID+13005D1DA", "ID 13005D1DA"], (Reader.cardOfLine? line).isSome = true ∧
      ¬∃ digits, trim line.toList = "ID".toList ++ digits ∧ digits.length = 10 ∧ IdText digits := by
  have other (line : String) (body : List Char) (begins : trim line.toList = "ID".toList ++ body)
      (outside : ¬IdText body) :
      ¬∃ digits, trim line.toList = "ID".toList ++ digits ∧ digits.length = 10 ∧ IdText digits := by
    rintro ⟨digits, begins', -, h⟩
    rw [List.append_cancel_left (begins.symm.trans begins')] at outside
    exact outside h
  refine ⟨by decide, ?_⟩
  rw [List.forall_mem_cons, List.forall_mem_singleton]
  constructor
  · exact ⟨by decide, other _ "+13005D1DA".toList (by decide) (by decide)⟩
  · exact ⟨by decide, other _ " 13005D1DA".toList (by decide) (by decide)⟩

end CardId

end DoorControl
