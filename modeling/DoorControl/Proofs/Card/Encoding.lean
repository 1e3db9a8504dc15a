/- A card id as the services, the reply lines and the frames spell it: all spellings are read as the same
card. -/
import DoorControl.Proofs.Card.Frames
import DoorControl.Proofs.Text.Hexadecimal
import DoorControl.Reader.Command

namespace DoorControl

open Text Text.Numeral

namespace Card

/-- The last bytes of a number, the highest one first. -/
def bytesOf : (width n : Nat) → List Nat
  | 0, _ => []
  | width + 1, n => bytesOf width (n / 256) ++ [n % 256]

variable {width n : Nat}

theorem spelledBytes_append {ns : List Nat} (even : ns.length = 2 * width) (ms : List Nat) :
    spelledBytes (ns ++ ms) = spelledBytes ns ++ spelledBytes ms := by
  induction width generalizing ns with
  | zero =>
      obtain rfl : ns = [] := List.length_eq_zero_iff.mp even
      rfl
  | succ width ih =>
      match ns, even with
      | high :: low :: rest, even =>
          have shorter : rest.length = 2 * width := by simp at even; omega
          rw [List.cons_append, List.cons_append, spelledBytes, ih shorter]
          rfl

/-- Two digits are one byte. -/
theorem spelledBytes_nybbles (width n : Nat) :
    spelledBytes (nybbles (2 * width) n) = bytesOf width n := by
  induction width generalizing n with
  | zero => rfl
  | succ width ih =>
      have byte : n / 16 % 16 * 16 + n % 16 = n % 256 := by omega
      change spelledBytes (nybbles (2 * width) (n / 16 / 16) ++ [n / 16 % 16] ++ [n % 16]) = _
      rw [List.append_assoc, spelledBytes_append (length_nybbles _ _), ih, Nat.div_div_eq_div_mul,
        bytesOf]
      simp only [List.cons_append, List.nil_append, spelledBytes, byte]

theorem ofDigits_bytesOf (width n : Nat) :
    Nat.ofDigits 256 (bytesOf width n).reverse = n % 256 ^ width := by
  induction width generalizing n with
  | zero => simp [bytesOf, Nat.mod_one]
  | succ width ih =>
      rw [bytesOf, List.reverse_append, List.reverse_singleton, List.singleton_append,
        Nat.ofDigits_cons, ih, Nat.pow_succ', Nat.mod_mul]

theorem bytesOf_lt {b : Nat} (h : b ∈ bytesOf width n) : b < 256 := by
  induction width generalizing n with
  | zero => simp [bytesOf] at h
  | succ width ih =>
      rw [bytesOf, List.mem_append, List.mem_singleton] at h
      obtain h | rfl := h
      · exact ih h
      · exact Nat.mod_lt n (by decide)

theorem foldl_xor_lt {bs : List Nat} (h : ∀ b ∈ bs, b < 256) {acc : Nat} (ha : acc < 256) :
    bs.foldl (· ^^^ ·) acc < 256 := by
  induction bs generalizing acc with
  | nil => exact ha
  | cons b bs ih =>
      obtain ⟨hb, hbs⟩ := List.forall_mem_cons.mp h
      exact ih hbs (Nat.xor_lt_two_pow (n := 8) ha hb)

theorem nybble?_byte {c : Char} (h : c.toNat < 128) : nybble? c.toNat.toUInt8 = digit? 16 c := by
  rw [nybble?, toNat_byte h, Char.ofNat_toNat]

theorem nybble?_eq_some_iff {b : UInt8} {v : Nat} :
    nybble? b = some v ↔ IsHexDigit b ∧ hexValue b = v := by
  rw [nybble?_eq]
  split <;> simp_all

theorem ascii_digits {text : List Char} {values : List Nat}
    (h : text.map (digit? 16) = values.map some) :
    (∀ b ∈ ascii text, IsHexDigit b) ∧ (ascii text).map hexValue = values := by
  induction values generalizing text with
  | nil =>
      obtain rfl : text = [] := by simpa using h
      exact ⟨by simp [ascii], rfl⟩
  | cons v vs ih =>
      obtain ⟨c, cs, rfl, hv, hvs⟩ := List.map_eq_cons_iff.mp h
      obtain ⟨hex, values⟩ := ih hvs
      have isHex : IsHex c := by rw [IsHex, hv]; rfl
      obtain ⟨first, value⟩ := nybble?_eq_some_iff.mp ((nybble?_byte isHex.ascii).trans hv)
      exact ⟨List.forall_mem_cons.mpr ⟨first, hex⟩, congrArg₂ List.cons value values⟩

end Card

namespace CardId

open Card

/-- The five bytes of an id, the highest one first. -/
def bytes (c : CardId) : List Nat := bytesOf idSize c.raw

def parity (c : CardId) : Nat := c.bytes.foldl (· ^^^ ·) 0

variable {c : CardId} {id check : List Char}

theorem toHex_toList (c : CardId) : c.toHex.toList = hexPadded idDigits c.raw := String.toList_ofList

theorem isHex_of_spells {ch : Char} (hid : Spells id c.toHex.toList) (mem : ch ∈ id) : IsHex ch := by
  rw [toHex_toList] at hid
  exact hid.isHex mem

theorem length_of_spells (hid : Spells id c.toHex.toList) : id.length = idDigits := by
  rw [toHex_toList] at hid
  exact hid.length

theorem raw_mod (c : CardId) : c.raw % 16 ^ idDigits = c.raw :=
  Nat.mod_eq_of_lt (Nat.lt_succ_of_le c.le_max)

theorem parity_lt (c : CardId) : c.parity < 256 :=
  foldl_xor_lt (fun _ => bytesOf_lt) (by decide)

theorem ofNat_raw (c : CardId) : ofNat c.raw = .ok c := by
  rw [ofNat, dif_pos c.pos, dif_pos c.le_max]

theorem ofNat?_raw (c : CardId) : ofNat? c.raw = some c := by
  rw [ofNat?, ofNat_raw]
  rfl

theorem spells_values (hid : Spells id c.toHex.toList) (hcheck : Spells check (hexPadded 2 c.parity)) :
    (id ++ check).map (digit? 16) = (nybbles 10 c.raw ++ nybbles 2 c.parity).map some := by
  rw [toHex_toList] at hid
  rw [List.map_append, List.map_append, hid.values, hcheck.values]
  rfl

/-- The frame in which a reader reports a card, with digits of either case. -/
def frame (hid : Spells id c.toHex.toList) (hcheck : Spells check (hexPadded 2 c.parity)) : Frame where
  digits := ascii (id ++ check)
  length := by
    rw [ascii, List.length_map, List.length_append, length_of_spells hid, hcheck.length]
    rfl
  hex := (ascii_digits (spells_values hid hcheck)).1

theorem frame_bytes (hid : Spells id c.toHex.toList) (hcheck : Spells check (hexPadded 2 c.parity)) :
    (frame hid hcheck).bytes = c.bytes ++ [c.parity] := by
  have sixth : bytesOf 1 c.parity = [c.parity] := congrArg ([·]) (Nat.mod_eq_of_lt c.parity_lt)
  rw [Frame.bytes, frame, (ascii_digits (spells_values hid hcheck)).2,
    spelledBytes_append (length_nybbles (2 * 5) c.raw), spelledBytes_nybbles 5,
    spelledBytes_nybbles 1, sixth]
  rfl

theorem frame_id (hid : Spells id c.toHex.toList) (hcheck : Spells check (hexPadded 2 c.parity)) :
    (frame hid hcheck).id = c.raw := by
  have intact : (frame hid hcheck).Intact := by
    unfold Frame.Intact
    rw [frame_bytes]
    rfl
  rw [Frame.id, if_pos intact, Frame.value, frame_bytes]
  exact (ofDigits_bytesOf idSize c.raw).trans c.raw_mod

theorem digits_of_spells (hid : Spells id c.toHex.toList) : digitsFrom 16 0 id = some c.raw := by
  rw [toHex_toList] at hid
  rw [hid.digitsFrom, Nat.zero_mul, Nat.zero_add, raw_mod]

/-- Leading zeros may be left out, and blanks around the digits do no harm. -/
theorem ofHex_of_spells {zeros : Nat} {digits before after : List Char}
    (hid : Spells (List.replicate zeros '0' ++ digits) c.toHex.toList)
    (blanks : ∀ ch ∈ before ++ after, isBlank ch = true) :
    ofHex (String.ofList (before ++ digits ++ after)) = .ok c := by
  have value : digitsFrom 16 0 digits = some c.raw :=
    (digitsFrom_zeros zeros digits).symm.trans (digits_of_spells hid)
  have hex (ch : Char) (mem : ch ∈ digits) : IsHex ch :=
    isHex_of_spells hid (List.mem_append_right _ mem)
  have some' : digits ≠ [] := by
    rintro rfl
    have zero : 0 = c.raw := Option.some.inj value
    exact absurd c.pos (by omega)
  have short : digits.length ≤ idDigits := by
    have length := length_of_spells hid
    rw [List.length_append] at length
    omega
  have trimmed : trimmed (String.ofList (before ++ digits ++ after)) = String.ofList digits := by
    rw [Text.trimmed, String.toList_ofList, trim_surrounded
      (fun ch mem => blanks ch (List.mem_append_left _ mem))
      (fun ch mem => blanks ch (List.mem_append_right _ mem)) fun ch mem => (hex ch mem).not_blank]
  have size := utf8ByteSize_ofList fun ch mem => (hex ch mem).ascii
  have read : unsigned? 16 max64 digits = some c.raw := by
    have fits : c.raw ≤ max64 := Nat.le_trans c.le_max (by decide)
    rw [unsigned?_of_isHex max64 hex, digits?, if_neg (by simpa using some'), value]
    simp [fits]
  unfold ofHex
  rw [trimmed, if_neg, String.toList_ofList, read]
  · exact ofNat_raw c
  · rw [size, not_or]
    exact ⟨by simpa using some', by omega⟩

theorem cardOfLine?_of_spells (hid : Spells id c.toHex.toList) :
    Reader.cardOfLine? (String.ofList ("ID".toList ++ id)) = some c := by
  have read : ofHex (String.ofList id) = .ok c := by
    simpa using @ofHex_of_spells c 0 id [] [] hid (by simp)
  have lead : ∀ ch ∈ ['I', 'D'], isBlank ch = false := by simp [isBlank]
  have text : trim (String.ofList ("ID".toList ++ id)).toList = "ID".toList ++ id := by
    rw [String.toList_ofList, trim_eq_self]
    intro ch mem
    exact (List.mem_append.mp mem).elim (lead ch) fun mem => (isHex_of_spells hid mem).not_blank
  have size : (String.ofList id).utf8ByteSize = idDigits :=
    (utf8ByteSize_ofList fun ch mem => (isHex_of_spells hid mem).ascii).trans (length_of_spells hid)
  have digits : after? "ID".toList ("ID".toList ++ id) = some id := rfl
  unfold Reader.cardOfLine?
  rw [text, digits]
  dsimp only
  rw [if_pos size, read]
  rfl

theorem toHex_upper (c : CardId) : ∀ ch ∈ c.toHex.toList, ch ∈ "0123456789ABCDEF".toList := by
  have upper : ∀ d < 16, hexDigit d ∈ "0123456789ABCDEF".toList := by decide
  rw [toHex_toList, hexPadded_eq]
  simp only [List.mem_map, forall_exists_index, and_imp, forall_apply_eq_imp_iff₂]
  exact fun d mem => upper d (nybbles_lt mem)

theorem toHex_spells (c : CardId) : Spells c.toHex.toList c.toHex.toList := by
  rw [toHex_toList]
  exact hexPadded_spells idDigits c.raw

theorem toHex_injective {c other : CardId} (h : c.toHex = other.toHex) : c = other := by
  have read := digits_of_spells c.toHex_spells
  rw [h, digits_of_spells other.toHex_spells] at read
  cases c
  cases other
  simpa using read.symm

/-- The ten digits of a card id in any case are read as this id: as a card text, where leading zeros may be
left out and blanks may stand around it, in a reply line, and in a frame, which is read whatever came
before it and is closed by its last byte alone. Different ids have different digits. -/
theorem spellings_agree (c : CardId) :
    (c.toHex.toList.length = 10 ∧ ∀ ch ∈ c.toHex.toList, ch ∈ "0123456789ABCDEF".toList) ∧
    (∀ id, Spells id c.toHex.toList →
      (∀ zeros digits before after, id = List.replicate zeros '0' ++ digits →
        (∀ ch ∈ before ++ after, isBlank ch = true) →
        ofHex (String.ofList (before ++ digits ++ after)) = .ok c) ∧
      Reader.cardOfLine? (String.ofList ("ID".toList ++ id)) = some c ∧
      ∀ check, Spells check (hexPadded 2 c.parity) → ∀ d : FrameDecoder,
        let read := d.feedAll (stx :: (ascii (id ++ check) ++ [etx]))
        read.2 = [(13, c.raw)] ∧ read.1.id = c.raw ∧ ofNat? read.1.id = some c) ∧
    ∀ other : CardId, c.toHex = other.toHex → c = other := by
  refine ⟨⟨?_, c.toHex_upper⟩, ?_, fun other => toHex_injective⟩
  · rw [toHex_toList, length_hexPadded]
    rfl
  · intro id hid
    refine ⟨?_, cardOfLine?_of_spells hid, ?_⟩
    · intro zeros digits before after split blanks
      subst split
      exact ofHex_of_spells hid blanks
    · intro check hcheck d read
      have frameId := frame_id hid hcheck
      obtain ⟨holds, places⟩ := d.feedAll_raw (frame hid hcheck)
      have decoded : read.1.id = c.raw := holds.id_eq.trans frameId
      refine ⟨places.trans (by rw [frameId]), decoded, ?_⟩
      rw [decoded, ofNat?_raw]

/-- A card with leading zeros, spelled in mixed case. -/
theorem mixed_spellings_agree :
    let c : CardId := ⟨0x5D1DA5, by decide, by decide⟩
    let busy := FrameDecoder.after {} [stx, 0x31, 0x33, 0x30]
    ofHex " \t5d1Da5\n" = .ok c ∧ Reader.cardOfLine? "ID00005d1Da5" = some c ∧
      (busy.feedAll (stx :: (ascii "00005d1Da5e5".toList ++ [etx]))).2 = [(13, 0x5D1DA5)] := by
  intro c busy
  have hid : Spells "00005d1Da5".toList c.toHex.toList := by decide
  obtain ⟨text, line, frame⟩ := (spellings_agree c).2.1 _ hid
  have blanks : ∀ ch ∈ [' ', '\t', '\n'], isBlank ch = true := List.all_eq_true.mp (by decide)
  exact ⟨text 4 "5d1Da5".toList " \t".toList "\n".toList rfl blanks, line,
    (frame "e5".toList (by decide) busy).1⟩

end CardId

end DoorControl
