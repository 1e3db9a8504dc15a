/- Which bytes the frame decoder takes for a frame, and the id that it then gives. -/
import DoorControl.Card.Frame
import Mathlib.Data.Bool.AllAny
import Mathlib.Data.List.Induction
import Mathlib.Data.Nat.Digits.Defs

namespace DoorControl.Card

/-- The hexadecimal digits of ASCII, in either case. -/
def IsHexDigit (b : UInt8) : Prop :=
  0x30 ≤ b ∧ b ≤ 0x39 ∨ 0x41 ≤ b ∧ b ≤ 0x46 ∨ 0x61 ≤ b ∧ b ≤ 0x66

instance (b : UInt8) : Decidable (IsHexDigit b) := inferInstanceAs (Decidable (_ ∨ _))

def hexValue (b : UInt8) : Nat :=
  if b ≤ 0x39 then b.toNat - 0x30 else if b ≤ 0x46 then b.toNat - 0x37 else b.toNat - 0x57

/-- The bytes that digits spell, two digits each. -/
def spelledBytes : List Nat → List Nat
  | high :: low :: rest => (high * 16 + low) :: spelledBytes rest
  | _ => []

/-- A frame on the wire: ten digits of an id, and two of its checksum. -/
structure Frame where
  digits : List UInt8
  length : digits.length = 12
  hex : ∀ b ∈ digits, IsHexDigit b

namespace Frame

def raw (f : Frame) : List UInt8 := stx :: (f.digits ++ [etx])

def bytes (f : Frame) : List Nat := spelledBytes (f.digits.map hexValue)

/-- The number that the first five bytes are, the first one being the highest. -/
def value (f : Frame) : Nat := Nat.ofDigits 256 (f.bytes.take idSize).reverse

def Intact (f : Frame) : Prop := f.bytes[idSize]? = some ((f.bytes.take idSize).foldl (· ^^^ ·) 0)

instance (f : Frame) : Decidable f.Intact := inferInstanceAs (Decidable (_ = _))

def id (f : Frame) : Nat := if f.Intact then f.value else 0

end Frame

theorem nybble?_eq (b : UInt8) : nybble? b = if IsHexDigit b then some (hexValue b) else none := by
  have code : (Char.ofNat b.toNat).toNat = b.toNat := by
    have valid : b.toNat.isValidChar := Or.inl (by have := b.toNat_lt; omega)
    rw [Char.ofNat, dif_pos valid]
    rfl
  unfold nybble? Text.Numeral.digit? IsHexDigit hexValue
  rw [code]
  simp only [UInt8.le_iff_toNat_le]
  change Option.filter _ _ = _
  generalize b.toNat = n
  grind

theorem IsHexDigit.ne_stx {b : UInt8} (h : IsHexDigit b) : b ≠ stx := by
  rintro rfl
  revert h
  decide

theorem IsHexDigit.ne_etx {b : UInt8} (h : IsHexDigit b) : b ≠ etx := by
  rintro rfl
  revert h
  decide

/-- How many digits of a frame have been read. -/
def FrameState.count? : FrameState → Option Nat
  | .idle => none
  | .digits index none => some (2 * index)
  | .digits index (some _) => some (2 * index + 1)
  | .checksum none => some 10
  | .checksum (some _) => some 11
  | .complete => some 12

/-- There is a place for the id byte that is being read. -/
def FrameState.InRange (s : FrameState) : Prop := ∀ index high, s = .digits index high → index < idSize

namespace FrameDecoder

variable {d : FrameDecoder} {b : UInt8} {bs ds : List UInt8} {f : Frame}

def opened (d : FrameDecoder) : FrameDecoder :=
  { d with state := .digits 0 none, checksum := 0, closed := false }

def idled (d : FrameDecoder) : FrameDecoder := { d with state := .idle }

def after (d : FrameDecoder) (bs : List UInt8) : FrameDecoder := bs.foldl (fun d b => (d.feed b).1) d

theorem feed_stx (d : FrameDecoder) : d.feed stx = (d.opened, false) := rfl

theorem feed_etx (d : FrameDecoder) : d.feed etx =
    if d.state = .complete then ({ d.idled with closed := true }, true) else (d.idled, false) := rfl

theorem feed_digit (h : IsHexDigit b) : d.feed b = (d.digit (hexValue b), false) := by
  unfold feed
  rw [if_neg h.ne_stx, if_neg h.ne_etx, nybble?_eq, if_pos h]

theorem feed_other (notStx : b ≠ stx) (notEtx : b ≠ etx) (h : ¬IsHexDigit b) :
    d.feed b = (d.idled, false) := by
  unfold feed
  rw [if_neg notStx, if_neg notEtx, nybble?_eq, if_neg h]
  rfl

theorem closes_iff : (d.feed b).2 = true ↔ b = etx ∧ d.state = .complete := by
  by_cases notEtx : b = etx
  · subst notEtx
    rw [feed_etx]
    split <;> simp_all
  · by_cases notStx : b = stx
    · subst notStx
      simp [feed_stx, notEtx]
    · by_cases h : IsHexDigit b
      · simp [feed_digit h, notEtx]
      · simp [feed_other notStx notEtx h, notEtx]

@[simp] theorem digit_closed (d : FrameDecoder) (n : Nat) : (d.digit n).closed = d.closed := by
  unfold digit
  split <;> rfl

theorem digit_idle (h : d.state = .idle) (n : Nat) : d.digit n = d := by
  unfold digit
  rw [h]

theorem digit_complete (h : d.state = .complete) (n : Nat) : d.digit n = d.idled := by
  unfold digit
  rw [h]
  rfl

theorem opened_inRange (d : FrameDecoder) : d.opened.state.InRange := by
  intro index high eq
  cases eq
  decide

theorem digit_inRange (h : d.state.InRange) (n : Nat) : (d.digit n).state.InRange := by
  intro index high
  unfold digit
  split
  · next idle => simp [idle]
  · next reading =>
      intro eq
      cases eq
      exact h _ _ reading
  · next i _ reading =>
      dsimp only
      split
      · nofun
      · intro eq
        cases eq
        omega
  all_goals nofun

theorem digit_count (h : d.state.InRange) {k : Nat} (read : d.state.count? = some k) (few : k < 12)
    (n : Nat) : (d.digit n).state.count? = some (k + 1) := by
  unfold digit
  cases reading : d.state with
  | idle => simp [reading, FrameState.count?] at read
  | digits index high =>
      have place : index < 5 := h index high reading
      cases high with
      | none => simp_all [FrameState.count?]
      | some high =>
          obtain rfl : 2 * index + 1 = k := by simpa [reading, FrameState.count?] using read
          by_cases last : index = 4
          · subst last
            rfl
          · have more : ¬index + 1 ≥ idSize := by unfold idSize; omega
            simp only [more, if_false, FrameState.count?]
            rfl
  | checksum high => cases high <;> simp_all [FrameState.count?]
  | complete =>
      simp only [reading, FrameState.count?, Option.some.injEq] at read
      omega

theorem after_append (d : FrameDecoder) (bs cs : List UInt8) :
    d.after (bs ++ cs) = (d.after bs).after cs := List.foldl_append

theorem after_concat (d : FrameDecoder) (bs : List UInt8) (b : UInt8) :
    d.after (bs ++ [b]) = ((d.after bs).feed b).1 := after_append d bs [b]

structure Digits (ds : List UInt8) : Prop where
  hex : ∀ b ∈ ds, IsHexDigit b
  few : ds.length ≤ 12

theorem Digits.of_concat (h : Digits (ds ++ [b])) : Digits ds ∧ IsHexDigit b ∧ ds.length < 12 := by
  have length := h.few
  rw [List.length_append, List.length_singleton] at length
  exact ⟨⟨fun x hx => h.hex x (List.mem_append_left _ hx), by omega⟩, h.hex b (by simp), by omega⟩

theorem after_count (h : Digits ds) :
    (d.opened.after ds).state.InRange ∧ (d.opened.after ds).state.count? = some ds.length := by
  induction ds using List.reverseRecOn with
  | nil => exact ⟨opened_inRange d, rfl⟩
  | append_singleton ds b ih =>
      obtain ⟨earlier, hex, few⟩ := h.of_concat
      obtain ⟨place, count⟩ := ih earlier
      rw [after_concat, feed_digit hex, List.length_append, List.length_singleton]
      exact ⟨digit_inRange place _, digit_count place count few _⟩

theorem after_complete_iff (h : Digits ds) :
    (d.opened.after ds).state = .complete ↔ ds.length = 12 := by
  obtain ⟨place, count⟩ := after_count (d := d) h
  generalize d.opened.after ds = d' at place count ⊢
  constructor
  · intro complete
    rw [complete] at count
    exact (Option.some.inj count).symm
  · intro all
    rw [all] at count
    cases reading : d'.state with
    | idle => simp [reading, FrameState.count?] at count
    | digits index high =>
        have := place index high reading
        unfold idSize at this
        cases high <;> simp [reading, FrameState.count?] at count <;> omega
    | checksum high => cases high <;> simp [reading, FrameState.count?] at count
    | complete => rfl

theorem after_digits (h : ∀ b ∈ ds, IsHexDigit b) (d : FrameDecoder) :
    d.after ds = (ds.map hexValue).foldl digit d := by
  induction ds generalizing d with
  | nil => rfl
  | cons b bs ih =>
      obtain ⟨hex, rest⟩ := List.forall_mem_cons.mp h
      change ((d.feed b).1).after bs = _
      rw [feed_digit hex, ih rest]
      rfl

/-- A frame has been closed, and nothing has come since that begins another one. -/
structure Holds (d : FrameDecoder) (f : Frame) : Prop where
  state : d.state = .idle
  closed : d.closed = true
  bytes : d.payload.toList ++ [d.checksum] = f.bytes

theorem after_frame (d : FrameDecoder) (f : Frame) :
    ({ (d.opened.after f.digits).idled with closed := true } : FrameDecoder).Holds f := by
  refine ⟨rfl, rfl, ?_⟩
  change (d.opened.after f.digits).payload.toList ++ [(d.opened.after f.digits).checksum] = _
  rw [after_digits f.hex, Frame.bytes]
  have length : (f.digits.map hexValue).length = 12 := (List.length_map _).trans f.length
  generalize f.digits.map hexValue = ns at length ⊢
  match ns, length with
  | [_, _, _, _, _, _, _, _, _, _, _, _], _ => rfl

theorem Holds.id_eq (h : d.Holds f) : d.id = f.id := by
  have value : f.value = d.payload.value := by
    rw [Frame.value, ← h.bytes]
    change Nat.ofDigits 256 [_, _, _, _, _] = _
    simp only [Nat.ofDigits_cons, Nat.ofDigits_nil, Payload.value, Payload.toList, List.foldl]
    omega
  have intact : f.Intact ↔ d.payload.parity = d.checksum := by
    rw [Frame.Intact, ← h.bytes]
    exact (Option.some_inj.trans eq_comm)
  rw [FrameDecoder.id, Frame.id, value]
  simp only [h.closed, intact, true_and]

end FrameDecoder

/-- A frame has begun, and these are its digits so far. -/
structure Opens (bs ds : List UInt8) : Prop where
  begun : ∃ front, bs = front ++ stx :: ds
  digits : FrameDecoder.Digits ds

/-- A frame has been closed, and none has begun since. -/
def Closes (bs : List UInt8) (f : Frame) : Prop := ∃ front rest, bs = front ++ f.raw ++ rest ∧ stx ∉ rest

theorem concat_eq_append_cons {bs front rest : List UInt8} {b x : UInt8} :
    bs ++ [b] = front ++ x :: rest ↔
      rest = [] ∧ b = x ∧ bs = front ∨ ∃ rest', rest = rest' ++ [b] ∧ bs = front ++ x :: rest' := by
  cases rest using List.reverseRecOn with
  | nil => simp [and_comm]
  | append_singleton rest c =>
      rw [show front ++ x :: (rest ++ [c]) = (front ++ x :: rest) ++ [c] by simp]
      simp only [List.append_singleton_inj, List.append_eq_nil_iff, List.cons_ne_self, and_false,
        false_and, false_or]
      constructor
      · rintro ⟨rfl, rfl⟩
        exact ⟨rest, ⟨rfl, rfl⟩, rfl⟩
      · rintro ⟨_, ⟨rfl, rfl⟩, rfl⟩
        exact ⟨rfl, rfl⟩

variable {bs ds : List UInt8} {b : UInt8} {f : Frame}

theorem opens_concat_iff : Opens (bs ++ [b]) ds ↔
    ds = [] ∧ b = stx ∨ ∃ ds', ds = ds' ++ [b] ∧ Opens bs ds' ∧ IsHexDigit b ∧ ds'.length < 12 := by
  constructor
  · rintro ⟨⟨front, begun⟩, digits⟩
    obtain ⟨none, first, -⟩ | ⟨ds', rfl, rfl⟩ := concat_eq_append_cons.mp begun
    · exact .inl ⟨none, first⟩
    · obtain ⟨earlier, hex, few⟩ := digits.of_concat
      exact .inr ⟨ds', rfl, ⟨⟨front, rfl⟩, earlier⟩, hex, few⟩
  · rintro (⟨rfl, rfl⟩ | ⟨ds', rfl, ⟨⟨front, rfl⟩, digits⟩, hex, few⟩)
    · exact ⟨⟨bs, rfl⟩, by simp, by simp⟩
    · refine ⟨⟨front, by simp⟩, ?_, by simp; omega⟩
      simpa [or_imp, forall_and] using ⟨digits.hex, hex⟩

theorem closes_concat_iff :
    Closes (bs ++ [b]) f ↔ b = etx ∧ Opens bs f.digits ∨ b ≠ stx ∧ Closes bs f := by
  have raw (front rest : List UInt8) :
      front ++ f.raw ++ rest = (front ++ stx :: f.digits) ++ etx :: rest := by
    simp [Frame.raw]
  simp only [Closes, raw, concat_eq_append_cons]
  constructor
  · rintro ⟨front, rest, ⟨rfl, last, rfl⟩ | ⟨rest, rfl, rfl⟩, later⟩
    · exact .inl ⟨last, ⟨⟨front, rfl⟩, f.hex, f.length.le⟩⟩
    · simp only [List.mem_append, List.mem_singleton, not_or] at later
      exact .inr ⟨Ne.symm later.2, front, rest, rfl, later.1⟩
  · rintro (⟨last, ⟨⟨front, rfl⟩, -⟩⟩ | ⟨notStx, front, rest, rfl, later⟩)
    · exact ⟨front, [], .inl ⟨rfl, last, rfl⟩, by simp⟩
    · exact ⟨front, rest ++ [b], .inr ⟨rest, rfl, rfl⟩, by simp [later, Ne.symm notStx]⟩

/-- The decoder stands where the bytes since its last reset have led it. -/
structure Follows (d : FrameDecoder) (bs : List UInt8) : Prop where
  opens : ∀ ds, Opens bs ds → ∃ d₀ : FrameDecoder, d = d₀.opened.after ds
  idle : (∀ ds, ¬Opens bs ds) → d.state = .idle
  closes : ∀ f, Closes bs f → d.Holds f
  unclosed : (∀ f, ¬Closes bs f) → d.closed = false

theorem not_opens_nil (ds : List UInt8) : ¬Opens [] ds := by
  rintro ⟨⟨front, begun⟩, -⟩
  simp at begun

theorem not_closes_nil (f : Frame) : ¬Closes [] f := by
  rintro ⟨front, rest, closed, -⟩
  simp [Frame.raw] at closed

theorem Follows.reset (d : FrameDecoder) : Follows d.reset [] where
  opens ds h := absurd h (not_opens_nil ds)
  idle _ := rfl
  closes f h := absurd h (not_closes_nil f)
  unclosed _ := rfl

theorem Follows.complete_iff {d : FrameDecoder} (h : Follows d bs) :
    d.state = .complete ↔ ∃ f : Frame, Opens bs f.digits := by
  constructor
  · intro complete
    by_cases begun : ∃ ds, Opens bs ds
    · obtain ⟨ds, begun⟩ := begun
      obtain ⟨d₀, rfl⟩ := h.opens ds begun
      have length := (FrameDecoder.after_complete_iff begun.digits).mp complete
      exact ⟨⟨ds, length, begun.digits.hex⟩, begun⟩
    · have idle := h.idle (not_exists.mp begun)
      rw [idle] at complete
      cases complete
  · rintro ⟨f, begun⟩
    obtain ⟨d₀, rfl⟩ := h.opens _ begun
    exact (FrameDecoder.after_complete_iff begun.digits).mpr f.length

namespace Follows

variable {d : FrameDecoder}

theorem stx (d : FrameDecoder) (bs : List UInt8) : Follows d.opened (bs ++ [stx]) where
  opens ds begun := by
    obtain ⟨rfl, -⟩ | ⟨_, -, -, hex, -⟩ := opens_concat_iff.mp begun
    · exact ⟨d, rfl⟩
    · exact absurd rfl hex.ne_stx
  idle unbegun := absurd (opens_concat_iff.mpr (.inl ⟨rfl, rfl⟩)) (unbegun [])
  closes f closed := by
    obtain ⟨last, -⟩ | ⟨notStx, -⟩ := closes_concat_iff.mp closed
    · cases last
    · exact absurd rfl notStx
  unclosed _ := rfl

/-- A byte other than STX that goes on with no frame leaves the decoder idle. -/
theorem idled (h : Follows d bs) (notStx : b ≠ Card.stx) (notHex : ¬IsHexDigit b)
    (incomplete : b = etx → ∀ f : Frame, ¬Opens bs f.digits) : Follows d.idled (bs ++ [b]) where
  opens ds begun := by
    obtain ⟨-, first⟩ | ⟨_, -, -, hex, -⟩ := opens_concat_iff.mp begun
    · exact absurd first notStx
    · exact absurd hex notHex
  idle _ := rfl
  closes f closed := by
    obtain ⟨last, begun⟩ | ⟨-, closed⟩ := closes_concat_iff.mp closed
    · exact absurd begun (incomplete last f)
    · exact ⟨rfl, (h.closes f closed).closed, (h.closes f closed).bytes⟩
  unclosed none := h.unclosed fun f closed => none f (closes_concat_iff.mpr (.inr ⟨notStx, closed⟩))

theorem etx (h : Follows d bs) : Follows (d.feed etx).1 (bs ++ [etx]) := by
  have notStx : Card.etx ≠ Card.stx := by decide
  have notHex : ¬IsHexDigit Card.etx := by decide
  rw [FrameDecoder.feed_etx]
  split
  · next complete =>
      obtain ⟨f, begun⟩ := h.complete_iff.mp complete
      refine ⟨?_, fun _ => rfl, ?_, ?_⟩
      · intro ds begun
        obtain ⟨-, first⟩ | ⟨_, -, -, hex, -⟩ := opens_concat_iff.mp begun
        · exact absurd first notStx
        · exact absurd hex notHex
      · intro f closed
        obtain ⟨-, begun⟩ | ⟨-, closed⟩ := closes_concat_iff.mp closed
        · obtain ⟨d₀, rfl⟩ := h.opens f.digits begun
          exact FrameDecoder.after_frame d₀ f
        · exact absurd ((h.closes f closed).state.symm.trans complete) nofun
      · intro none
        exact absurd (closes_concat_iff.mpr (.inl ⟨rfl, begun⟩)) (none f)
  · next incomplete =>
      exact h.idled notStx notHex fun _ f begun => incomplete (h.complete_iff.mpr ⟨f, begun⟩)

theorem digit (h : Follows d bs) (hex : IsHexDigit b) :
    Follows (d.digit (hexValue b)) (bs ++ [b]) where
  opens ds begun := by
    obtain ⟨-, first⟩ | ⟨ds, rfl, begun, -, -⟩ := opens_concat_iff.mp begun
    · exact absurd first hex.ne_stx
    · obtain ⟨d₀, rfl⟩ := h.opens ds begun
      exact ⟨d₀, by rw [FrameDecoder.after_concat, FrameDecoder.feed_digit hex]⟩
  idle unbegun := by
    -- a thirteenth digit ends the frame, any other digit belongs to no frame
    by_cases complete : d.state = .complete
    · rw [FrameDecoder.digit_complete complete]
      rfl
    · have idle : d.state = .idle := by
        refine h.idle fun ds begun => ?_
        obtain ⟨d₀, rfl⟩ := h.opens ds begun
        have few : ds.length < 12 :=
          Nat.lt_of_le_of_ne begun.digits.few
            fun all => complete ((FrameDecoder.after_complete_iff begun.digits).mpr all)
        exact unbegun _ (opens_concat_iff.mpr (.inr ⟨ds, rfl, begun, hex, few⟩))
      rw [FrameDecoder.digit_idle idle, idle]
  closes f closed := by
    obtain ⟨last, -⟩ | ⟨-, closed⟩ := closes_concat_iff.mp closed
    · exact absurd last hex.ne_etx
    · have holds := h.closes f closed
      rwa [FrameDecoder.digit_idle holds.state]
  unclosed none := by
    rw [FrameDecoder.digit_closed]
    exact h.unclosed fun f closed => none f (closes_concat_iff.mpr (.inr ⟨hex.ne_stx, closed⟩))

theorem feed (h : Follows d bs) (b : UInt8) : Follows (d.feed b).1 (bs ++ [b]) := by
  by_cases isStx : b = Card.stx
  · subst isStx
    exact stx d bs
  · by_cases isEtx : b = Card.etx
    · subst isEtx
      exact h.etx
    · by_cases hex : IsHexDigit b
      · rw [FrameDecoder.feed_digit hex]
        exact h.digit hex
      · rw [FrameDecoder.feed_other isStx isEtx hex]
        exact h.idled isStx hex fun last => absurd last isEtx

theorem closes_iff (h : Follows d bs) (b : UInt8) :
    (d.feed b).2 = true ↔ ∃ front, ∃ f : Frame, bs ++ [b] = front ++ f.raw := by
  have raw (front : List UInt8) (f : Frame) :
      front ++ f.raw = (front ++ Card.stx :: f.digits) ++ [Card.etx] := by simp [Frame.raw]
  simp only [FrameDecoder.closes_iff, h.complete_iff, raw, List.append_singleton_inj]
  constructor
  · rintro ⟨last, f, ⟨front, begun⟩, -⟩
    exact ⟨front, f, begun, last⟩
  · rintro ⟨front, f, begun, last⟩
    exact ⟨last, f, ⟨front, begun⟩, f.hex, f.length.le⟩

theorem id_eq (h : Follows d bs) (closed : Closes bs f) : d.id = f.id := (h.closes f closed).id_eq

theorem exists_closes (h : Follows d bs) (id : d.id ≠ 0) : ∃ f, Closes bs f := by
  by_contra none
  refine id ?_
  rw [FrameDecoder.id, h.unclosed (not_exists.mp none)]
  simp

end Follows

namespace FrameDecoder

theorem feed_not_closing {d : FrameDecoder} {b : UInt8} (h : b ≠ etx) : (d.feed b).2 = false := by
  rw [← Bool.not_eq_true, closes_iff]
  exact fun last => h last.1

theorem go_append (d : FrameDecoder) (place : Nat) (bs cs : List UInt8) :
    feedAll.go d place (bs ++ cs) =
      ((feedAll.go (d.after bs) (place + bs.length) cs).1,
        (feedAll.go d place bs).2 ++ (feedAll.go (d.after bs) (place + bs.length) cs).2) := by
  induction bs generalizing d place with
  | nil => rfl
  | cons b bs ih =>
      simp only [List.cons_append, feedAll.go, ih, List.length_cons, after, List.foldl_cons,
        Nat.add_assoc, Nat.add_comm 1]
      split <;> rfl

/-- The ids do not depend on the place at which the bytes begin. -/
theorem go_ids (d : FrameDecoder) (bs : List UInt8) (n m : Nat) :
    (feedAll.go d n bs).2.map Prod.snd = (feedAll.go d m bs).2.map Prod.snd := by
  induction bs generalizing d n m with
  | nil => rfl
  | cons b bs ih =>
      simp only [feedAll.go]
      split
      · exact congrArg (_ :: ·) (ih _ _ _)
      · exact ih _ _ _

theorem go_of_open {bs : List UInt8} (h : etx ∉ bs) (d : FrameDecoder) (place : Nat) :
    feedAll.go d place bs = (d.after bs, []) := by
  induction bs generalizing d place with
  | nil => rfl
  | cons b bs ih =>
      obtain ⟨first, rest⟩ : ¬etx = b ∧ etx ∉ bs := by simpa using h
      simp only [feedAll.go, ih rest, feed_not_closing (Ne.symm first)]
      rfl

theorem feedAll_fst (d : FrameDecoder) (bs : List UInt8) : (d.feedAll bs).1 = d.after bs := by
  have hgo (place : Nat) : (feedAll.go d place bs).1 = d.after bs := by
    induction bs generalizing d place with
    | nil => rfl
    | cons b bs ih => exact ih _ _
  exact hgo 0

/-- A frame is read as a whole, whatever came before it. -/
theorem feedAll_raw (d : FrameDecoder) (f : Frame) :
    (d.feedAll f.raw).1.Holds f ∧ (d.feedAll f.raw).2 = [(13, f.id)] := by
  have body : etx ∉ stx :: f.digits := by
    rw [List.mem_cons, not_or]
    exact ⟨by decide, fun mem => (f.hex etx mem).ne_etx rfl⟩
  have digits : Digits f.digits := ⟨f.hex, f.length.le⟩
  have length : (stx :: f.digits).length = 13 := by rw [List.length_cons, f.length]
  have closing := feed_etx (d.opened.after f.digits)
  rw [if_pos ((after_complete_iff digits).mpr f.length)] at closing
  have holds := after_frame d f
  have read : d.feedAll f.raw =
      ({ (d.opened.after f.digits).idled with closed := true }, [(13, f.id)]) := by
    have opened : d.after (stx :: f.digits) = d.opened.after f.digits := rfl
    rw [feedAll, show f.raw = (stx :: f.digits) ++ [etx] from rfl, go_append, go_of_open body, length,
      opened]
    simp only [feedAll.go, closing, holds.id_eq]
    rfl
  rw [read]
  exact ⟨holds, rfl⟩

/-- What can be done with a decoder: a byte is fed to it, or it is reset. -/
inductive Call
  | feed (b : UInt8)
  | reset

def Call.perform (d : FrameDecoder) : Call → FrameDecoder
  | .feed b => (d.feed b).1
  | .reset => d.reset

/-- The decoder after calls from a new one on. -/
def called (calls : List Call) : FrameDecoder := calls.foldl Call.perform {}

def Call.fed (bs : List UInt8) : Call → List UInt8
  | .feed b => bs ++ [b]
  | .reset => []

/-- The bytes fed since the last reset. -/
def fedSince (calls : List Call) : List UInt8 := calls.foldl Call.fed []

theorem called_follows (calls : List Call) : Follows (called calls) (fedSince calls) := by
  induction calls using List.reverseRecOn with
  | nil => exact Follows.reset {}
  | append_singleton calls call ih =>
      rw [called, fedSince, List.foldl_append, List.foldl_append]
      cases call with
      | feed b => exact ih.feed b
      | reset => exact Follows.reset _

theorem feed_inRange {d : FrameDecoder} (h : d.state.InRange) (b : UInt8) :
    (d.feed b).1.state.InRange := by
  by_cases isStx : b = stx
  · subst isStx
    exact opened_inRange d
  · by_cases isEtx : b = etx
    · subst isEtx
      rw [feed_etx]
      split <;> nofun
    · by_cases hex : IsHexDigit b
      · rw [feed_digit hex]
        exact digit_inRange h _
      · rw [feed_other isStx isEtx hex]
        nofun

theorem called_inRange (calls : List Call) : (called calls).state.InRange := by
  induction calls using List.reverseRecOn with
  | nil => nofun
  | append_singleton calls call ih =>
      rw [called, List.foldl_append]
      cases call with
      | feed b => exact feed_inRange ih b
      | reset => nofun

/-- A byte closes a frame exactly if the bytes since the last reset end with one. An id is that of the
frame closed last, and stands until a frame begins or the decoder is reset. -/
theorem accepts_exactly_frames (calls : List Call) :
    let d := called calls
    let fed := fedSince calls
    (∀ b, (d.feed b).2 = true ↔ ∃ front, ∃ f : Frame, fed ++ [b] = front ++ f.raw) ∧
      (d.id ≠ 0 → ∃ f, Closes fed f) ∧
      (∀ f, Closes fed f → d.id = if f.Intact then f.value else 0) ∧
      d.state.InRange := by
  intro d fed
  have follows : Follows d fed := called_follows calls
  refine ⟨follows.closes_iff, follows.exists_closes, ?_, called_inRange calls⟩
  intro f closed
  exact follows.id_eq closed

/-- A frame that is read after a reset and after another one was given up in the middle of a byte, with
noise behind it. -/
theorem restarted_frame_read :
    let digits : List UInt8 := [0x31, 0x33, 0x30, 0x30, 0x35, 0x64, 0x31, 0x44, 0x61, 0x35, 0x46, 0x36]
    let calls := [.feed stx, .feed 0x39, .reset, .feed 0x41, .feed stx, .feed 0x31, .feed stx] ++
      digits.map .feed ++ [.feed etx, .feed 0x37, .feed etx]
    (called calls).id = 0x13005D1DA5 := by
  intro digits calls
  let f : Frame := ⟨digits, by decide, List.all_iff_forall_prop.mp (by decide)⟩
  have closed : Closes (fedSince calls) f := ⟨[0x41, stx, 0x31], [0x37, etx], by decide, by decide⟩
  rw [(accepts_exactly_frames calls).2.2.1 f closed]
  decide

end FrameDecoder

end DoorControl.Card
