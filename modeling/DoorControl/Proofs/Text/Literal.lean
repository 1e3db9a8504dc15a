/- Integer literals: which texts are such, and which numbers they stand for. -/
import DoorControl.Text.Blank
import DoorControl.Text.Numeral
import Mathlib.Data.Nat.Basic

namespace DoorControl.Text.Numeral

theorem digit?_plus (radix : Nat) : digit? radix '+' = none := by
  simp [digit?]

theorem digitsFrom_digits {radix acc value : Nat} {digits : List Char}
    (h : digitsFrom radix acc digits = some value) : ∀ c ∈ digits, (digit? radix c).isSome := by
  induction digits generalizing acc with
  | nil => simp
  | cons c cs ih =>
      rw [digitsFrom] at h
      cases hc : digit? radix c with
      | none => simp [hc] at h
      | some d =>
          simp only [hc] at h
          exact List.forall_mem_cons.mpr ⟨by simp [hc], ih h⟩

theorem digits?_eq_some_iff {radix value : Nat} {s : List Char} :
    digits? radix s = some value ↔ s ≠ [] ∧ digitsFrom radix 0 s = some value := by
  cases s <;> simp [digits?]

/-- A literal without sign: digits, and at most a plus before them. -/
theorem unsigned?_eq_some_iff {radix limit value : Nat} {s : List Char} :
    unsigned? radix limit s = some value ↔ value ≤ limit ∧ ∃ sign digits, s = sign ++ digits ∧
      (sign = [] ∨ sign = ['+']) ∧ digits ≠ [] ∧ digitsFrom radix 0 digits = some value := by
  -- No digit is a plus, so that the sign of a literal is told by its first character.
  have unsigned (ds : List Char) (h : digitsFrom radix 0 ('+' :: ds) = some value) : False := by
    have := digitsFrom_digits h '+' List.mem_cons_self
    simp [digit?_plus] at this
  unfold unsigned?
  simp only [Option.filter_eq_some_iff, decide_eq_true_eq, and_comm (b := value ≤ limit)]
  refine and_congr_right fun _ => ?_
  split
  · next ds =>
    rw [digits?_eq_some_iff]
    constructor
    · exact fun ⟨some', value⟩ => ⟨['+'], ds, rfl, .inr rfl, some', value⟩
    · rintro ⟨sign, digits, split, rfl | rfl, some', value⟩
      · rw [List.nil_append] at split
        exact (unsigned ds (split ▸ value)).elim
      · obtain rfl : ds = digits := List.cons.inj split |>.2
        exact ⟨some', value⟩
  · next plain =>
    rw [digits?_eq_some_iff]
    constructor
    · exact fun ⟨some', value⟩ => ⟨[], s, rfl, .inl rfl, some', value⟩
    · rintro ⟨sign, digits, split, rfl | rfl, some', value⟩
      · rw [List.nil_append] at split
        exact split ▸ ⟨some', value⟩
      · exact (plain digits split).elim

variable {c : Char} {s : List Char} {n d acc : Nat} {lo hi value : Int}

theorem digit?_ten_eq_some_iff : digit? 10 c = some d ↔ c.isDigit = true ∧ d = c.toNat - '0'.toNat := by
  rw [Char.isDigit_iff_toNat]
  change _ ↔ (48 ≤ c.toNat ∧ c.toNat ≤ 57) ∧ d = c.toNat - 48
  unfold digit?
  grind

theorem digitsFrom_ten_eq_some_iff : digitsFrom 10 acc s = some n ↔
    (∀ c ∈ s, c.isDigit = true) ∧ n = Nat.ofDigitChars 10 s acc := by
  induction s generalizing acc with
  | nil => simp [digitsFrom, Nat.ofDigitChars_nil, eq_comm (a := n)]
  | cons c cs ih =>
      rw [digitsFrom, Nat.ofDigitChars_cons, List.forall_mem_cons]
      cases hc : digit? 10 c with
      | none =>
          have other : ¬c.isDigit = true := fun digit => by
            simpa [hc] using digit?_ten_eq_some_iff.mpr ⟨digit, rfl⟩
          simp [other]
      | some d =>
          obtain ⟨digit, rfl⟩ := digit?_ten_eq_some_iff.mp hc
          simp only [ih, Nat.mul_comm acc 10, digit, true_and]

/-- A decimal literal and its number: digits, and a sign before them or none. -/
inductive Decimal : List Char → Int → Prop
  | plain {digits : List Char} (some' : digits ≠ []) (all : ∀ c ∈ digits, c.isDigit = true) :
      Decimal digits (Nat.ofDigitChars 10 digits 0)
  | plus {digits : List Char} (some' : digits ≠ []) (all : ∀ c ∈ digits, c.isDigit = true) :
      Decimal ('+' :: digits) (Nat.ofDigitChars 10 digits 0)
  | minus {digits : List Char} (some' : digits ≠ []) (all : ∀ c ∈ digits, c.isDigit = true) :
      Decimal ('-' :: digits) (-Nat.ofDigitChars 10 digits 0)

theorem digits?_ten_eq_some_iff : digits? 10 s = some n ↔
    s ≠ [] ∧ (∀ c ∈ s, c.isDigit = true) ∧ n = Nat.ofDigitChars 10 s 0 := by
  rw [digits?_eq_some_iff, digitsFrom_ten_eq_some_iff]

theorem signed?_eq_some_iff : signed? lo hi s = some value ↔ Decimal s value ∧ lo ≤ value ∧ value ≤ hi := by
  unfold signed?
  simp only [Option.filter_eq_some_iff, decide_eq_true_eq]
  refine and_congr_left fun _ => ?_
  split
  all_goals simp only [Option.map_eq_some_iff, digits?_ten_eq_some_iff]
  · next ds =>
    constructor
    · rintro ⟨n, ⟨some', all, rfl⟩, rfl⟩
      exact .plus some' all
    · rintro (⟨some', all⟩ | ⟨some', all⟩)
      · exact absurd (all '+' List.mem_cons_self) (by decide)
      · exact ⟨_, ⟨some', all, rfl⟩, rfl⟩
  · next ds =>
    constructor
    · rintro ⟨n, ⟨some', all, rfl⟩, rfl⟩
      exact .minus some' all
    · rintro (⟨some', all⟩ | - | ⟨some', all⟩)
      · exact absurd (all '-' List.mem_cons_self) (by decide)
      · exact ⟨_, ⟨some', all, rfl⟩, rfl⟩
  · next plus minus =>
    constructor
    · rintro ⟨n, ⟨some', all, rfl⟩, rfl⟩
      exact .plain some' all
    · rintro (⟨some', all⟩ | - | -)
      · exact ⟨_, ⟨some', all, rfl⟩, rfl⟩
      · exact (plus _ rfl).elim
      · exact (minus _ rfl).elim

/-- A number of 32 bits with its sign. -/
def Fits32 (value : Int) : Prop := -2147483648 ≤ value ∧ value ≤ 2147483647

instance (value : Int) : Decidable (Fits32 value) := inferInstanceAs (Decidable (_ ∧ _))

/-- A decimal literal of a number of 32 bits with its sign. -/
def Literal32 (s : List Char) (value : Int) : Prop := Decimal s value ∧ Fits32 value

theorem int32?_eq_some_iff : int32? s = some value ↔ Literal32 s value := signed?_eq_some_iff

theorem isBlank_of_isDigit (h : c.isDigit = true) : isBlank c = false := by
  rw [Char.isDigit_iff_toNat] at h
  change 48 ≤ c.toNat ∧ c.toNat ≤ 57 at h
  unfold isBlank
  simp
  omega

namespace Decimal

theorem ne_nil (h : Decimal s value) : s ≠ [] := by
  cases h with
  | plain some' => exact some'
  | plus => exact List.cons_ne_nil _ _
  | minus => exact List.cons_ne_nil _ _

/-- Behind its first character, a literal has digits only. -/
theorem digits_of_tail {cs : List Char} (h : Decimal (c :: cs) value) : ∀ c ∈ cs, c.isDigit = true := by
  cases h with
  | plain some' all => exact (List.forall_mem_cons.mp all).2
  | plus some' all => exact all
  | minus some' all => exact all

theorem first (h : Decimal (c :: s) value) : c.isDigit = true ∨ c = '+' ∨ c = '-' := by
  cases h with
  | plain some' all => exact .inl (all c List.mem_cons_self)
  | plus => exact .inr (.inl rfl)
  | minus => exact .inr (.inr rfl)

theorem visible (h : Decimal s value) : ∀ c ∈ s, isBlank c = false := by
  cases s with
  | nil => exact List.forall_mem_nil _
  | cons c cs =>
      refine List.forall_mem_cons.mpr ⟨?_, fun c mem => isBlank_of_isDigit (h.digits_of_tail c mem)⟩
      obtain digit | rfl | rfl := h.first
      · exact isBlank_of_isDigit digit
      · rfl
      · rfl

end Decimal

/-- A number as it is written is a literal of it. -/
theorem decimal_toString (value : Int) : Decimal (toString value).toList value := by
  have digits (n : Nat) : ∀ c ∈ Nat.toDigits 10 n, c.isDigit = true :=
    fun c mem => Nat.isDigit_of_mem_toDigits (by decide) (by decide) mem
  rw [Int.toString_eq_repr, Int.repr_eq_if]
  split
  · next h =>
    obtain ⟨n, rfl⟩ := Int.eq_ofNat_of_zero_le h
    have written := Decimal.plain Nat.toDigits_ne_nil (digits n)
    rw [Nat.ofDigitChars_ten_toDigits] at written
    rwa [Nat.toList_repr]
  · next h =>
    obtain ⟨n, rfl⟩ : ∃ n : Nat, value = -n := ⟨(-value).toNat, by omega⟩
    have written := Decimal.minus Nat.toDigits_ne_nil (digits n)
    rw [Nat.ofDigitChars_ten_toDigits] at written
    simpa [Nat.toList_repr] using written

end DoorControl.Text.Numeral
