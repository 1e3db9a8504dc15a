/- Hexadecimal digits as text: what is written is read back, in either case of the letters. -/
import DoorControl.Proofs.Text.Words
import DoorControl.Text.Numeral
import DoorControl.Text.Utf8
import Mathlib.Tactic.Ring

namespace DoorControl.Text

variable {c : Char} {s text : List Char} {n width : Nat}

namespace Numeral

def IsHex (c : Char) : Prop := (digit? 16 c).isSome

instance (c : Char) : Decidable (IsHex c) := inferInstanceAs (Decidable (_ = true))

theorem isHex_iff : IsHex c ↔ 48 ≤ c.toNat ∧ c.toNat ≤ 57 ∨ 65 ≤ c.toNat ∧ c.toNat ≤ 70 ∨
    97 ≤ c.toNat ∧ c.toNat ≤ 102 := by
  unfold IsHex digit?
  grind

theorem toNat_toUpper (c : Char) :
    c.toUpper.toNat = if 97 ≤ c.toNat ∧ c.toNat ≤ 122 then c.toNat - 32 else c.toNat := by
  have lower : ('a'.val ≤ c.val ∧ c.val ≤ 'z'.val) ↔ 97 ≤ c.toNat ∧ c.toNat ≤ 122 := Iff.rfl
  unfold Char.toUpper
  simp only [lower]
  split
  · next h =>
      change (c.val + ('A'.val - 'a'.val)).toNat = _
      rw [UInt32.toNat_add]
      change (c.toNat + 4294967264) % 4294967296 = _
      omega
  · rfl

theorem digit?_toUpper (radix : Nat) (c : Char) : digit? radix c.toUpper = digit? radix c := by
  unfold digit?
  rw [toNat_toUpper c]
  grind

theorem digit?_hexDigit (h : n < 16) : digit? 16 (hexDigit n) = some n := by
  revert n
  decide

/-- The text spells upper-case digits, its letters being of either case. -/
def Spells (text digits : List Char) : Prop := text.map Char.toUpper = digits

instance (text digits : List Char) : Decidable (Spells text digits) :=
  inferInstanceAs (Decidable (_ = _))

/-- The values of the last hexadecimal digits of a number. -/
def nybbles : (width n : Nat) → List Nat
  | 0, _ => []
  | width + 1, n => nybbles width (n / 16) ++ [n % 16]

theorem nybbles_lt {d : Nat} (h : d ∈ nybbles width n) : d < 16 := by
  induction width generalizing n with
  | zero => simp [nybbles] at h
  | succ width ih =>
      rw [nybbles, List.mem_append, List.mem_singleton] at h
      obtain h | rfl := h
      · exact ih h
      · exact Nat.mod_lt n (by decide)

theorem hexPadded_eq (width n : Nat) : hexPadded width n = (nybbles width n).map hexDigit := by
  induction width generalizing n with
  | zero => rfl
  | succ width ih => simp [hexPadded, nybbles, ih]

@[simp] theorem length_nybbles (width n : Nat) : (nybbles width n).length = width := by
  induction width generalizing n with
  | zero => rfl
  | succ width ih => simp [nybbles, ih]

@[simp] theorem length_hexPadded (width n : Nat) : (hexPadded width n).length = width := by
  simp [hexPadded_eq]

theorem hexPadded_spells (width n : Nat) : Spells (hexPadded width n) (hexPadded width n) := by
  have upper : ∀ d < 16, (hexDigit d).toUpper = hexDigit d := by decide
  rw [Spells, hexPadded_eq, List.map_map]
  exact List.map_congr_left fun d mem => upper d (nybbles_lt mem)

theorem Spells.length (h : Spells text (hexPadded width n)) : text.length = width := by
  have := congrArg List.length h
  simpa using this

/-- The values of the digits, whatever their case. -/
theorem Spells.values (h : Spells text (hexPadded width n)) :
    text.map (digit? 16) = (nybbles width n).map some := by
  have values : (text.map Char.toUpper).map (digit? 16) = text.map (digit? 16) := by
    simp [Function.comp_def, digit?_toUpper]
  rw [← values, h, hexPadded_eq, List.map_map]
  exact List.map_congr_left fun d hd => digit?_hexDigit (nybbles_lt hd)

theorem Spells.isHex (h : Spells text (hexPadded width n)) (hc : c ∈ text) : IsHex c := by
  have mem : digit? 16 c ∈ text.map (digit? 16) := List.mem_map_of_mem hc
  rw [h.values, List.mem_map] at mem
  obtain ⟨d, -, eq⟩ := mem
  rw [IsHex, ← eq]
  rfl

theorem digitsFrom_of_digits {values : List Nat} (acc : Nat)
    (h : text.map (digit? 16) = values.map some) :
    digitsFrom 16 acc text = some (values.foldl (fun n d => n * 16 + d) acc) := by
  induction values generalizing acc text with
  | nil =>
      obtain rfl : text = [] := by simpa using h
      rfl
  | cons d ds ih =>
      obtain ⟨c, cs, rfl, hd, hds⟩ := List.map_eq_cons_iff.mp h
      rw [digitsFrom, hd]
      exact ih _ hds

theorem foldl_nybbles (acc width n : Nat) :
    (nybbles width n).foldl (fun n d => n * 16 + d) acc = acc * 16 ^ width + n % 16 ^ width := by
  induction width generalizing n with
  | zero => simp [nybbles, Nat.mod_one]
  | succ width ih =>
      rw [nybbles, List.foldl_append, ih, List.foldl_cons, List.foldl_nil, Nat.pow_succ',
        Nat.mod_mul]
      ring

theorem Spells.digitsFrom (h : Spells text (hexPadded width n)) (acc : Nat) :
    digitsFrom 16 acc text = some (acc * 16 ^ width + n % 16 ^ width) := by
  rw [digitsFrom_of_digits acc h.values, foldl_nybbles]

theorem digitsFrom_zeros (k : Nat) (text : List Char) :
    Numeral.digitsFrom 16 0 (List.replicate k '0' ++ text) = Numeral.digitsFrom 16 0 text := by
  induction k with
  | zero => rfl
  | succ k ih => rw [List.replicate_succ, List.cons_append, Numeral.digitsFrom]; exact ih

theorem IsHex.not_blank (h : IsHex c) : isBlank c = false := by
  have range := isHex_iff.mp h
  unfold isBlank
  simp
  omega

theorem IsHex.not_control (h : IsHex c) : isControl c = false := by
  have range := isHex_iff.mp h
  unfold isControl
  grind

theorem IsHex.ascii (h : IsHex c) : c.toNat < 128 := by
  have range := isHex_iff.mp h
  omega

theorem unsigned?_of_isHex (limit : Nat) (h : ∀ c ∈ text, IsHex c) :
    unsigned? 16 limit text = (digits? 16 text).filter (· ≤ limit) := by
  unfold unsigned?
  split
  · next ds =>
      exact absurd (h '+' List.mem_cons_self) (by decide)
  · rfl

end Numeral

def ascii (s : List Char) : List UInt8 := s.map fun c => c.toNat.toUInt8

theorem toNat_byte (h : c.toNat < 128) : c.toNat.toUInt8.toNat = c.toNat := by
  simp
  omega

theorem decode_ascii (h : ∀ c ∈ text, c.toNat < 128) (bytes : List UInt8) :
    Utf8.decode (ascii text ++ bytes) = text ++ Utf8.decode bytes := by
  induction text with
  | nil => rfl
  | cons c cs ih =>
      obtain ⟨hc, hcs⟩ := List.forall_mem_cons.mp h
      have first : Utf8.start c.toNat.toUInt8 = (.none, [c]) := by
        unfold Utf8.start
        dsimp only
        rw [toNat_byte hc, if_pos hc, Char.ofNat_toNat]
      change (Utf8.start c.toNat.toUInt8).2 ++ Utf8.decodeFrom (Utf8.start c.toNat.toUInt8).1 _ = _
      rw [first]
      exact congrArg (c :: ·) (ih hcs)

theorem utf8ByteSize_ofList (h : ∀ c ∈ text, c.toNat < 128) :
    (String.ofList text).utf8ByteSize = text.length := by
  induction text with
  | nil => rfl
  | cons c cs ih =>
      obtain ⟨hc, hcs⟩ := List.forall_mem_cons.mp h
      have split : String.ofList (c :: cs) = String.singleton c ++ String.ofList cs := by simp
      have one : c.utf8Size = 1 :=
        Char.utf8Size_eq_one_iff.mpr (UInt32.le_iff_toNat_le.mpr (Nat.le_of_lt_succ hc))
      rw [split, String.utf8ByteSize_append, String.utf8ByteSize_singleton, one, ih hcs,
        List.length_cons, Nat.add_comm]

end DoorControl.Text
