/- What was written last, told by where and when it was written. -/
import Mathlib.Data.List.Basic
import Mathlib.Data.Nat.Basic

namespace DoorControl

/-- What is written over and over is what was written last, or what it was at the beginning. -/
theorem eq_iff_written_last {α : Type} {written : Nat → Option α} (value : Nat → α)
    (step : ∀ n, value (n + 1) = (written n).getD (value n)) (n : Nat) (v : α) :
    value n = v ↔ (∃ j < n, written j = some v ∧ ∀ l, j < l → l < n → written l = none) ∨
      value 0 = v ∧ ∀ l < n, written l = none := by
  induction n with
  | zero => simp
  | succ n ih =>
      have last : ∀ l, n < l → l < n + 1 → written l = none := by omega
      have earlier : (∃ j < n, written j = some v ∧ ∀ l, j < l → l < n + 1 → written l = none) ↔
          (∃ j < n, written j = some v ∧ ∀ l, j < l → l < n → written l = none) ∧ written n = none := by
        constructor
        · rintro ⟨j, before, wrote, unwritten⟩
          refine ⟨⟨j, before, wrote, ?_⟩, unwritten n before (Nat.lt_succ_self n)⟩
          exact fun l after within => unwritten l after (Nat.lt_succ_of_lt within)
        · rintro ⟨⟨j, before, wrote, unwritten⟩, now⟩
          refine ⟨j, before, wrote, ?_⟩
          intro l after within
          obtain inside | rfl := Nat.lt_succ_iff_lt_or_eq.mp within
          · exact unwritten l after inside
          · exact now
      rw [step, Nat.exists_lt_succ_right, Nat.forall_lt_succ_right, eq_true last, and_true, earlier]
      cases written n with
      | some u => simp
      | none => simp [ih]

section Records

variable {α : Type} (entry : Nat → Option α) (n : Nat)

/-- The last entry of a record that not every moment adds to. -/
theorem getLast?_recorded_succ : ((List.range (n + 1)).filterMap entry).getLast? =
    (entry n).or ((List.range n).filterMap entry).getLast? := by
  cases now : entry n <;> simp [List.range_succ, now]

theorem getLast?_recorded_eq_some_iff (v : α) : ((List.range n).filterMap entry).getLast? = some v ↔
    ∃ j < n, entry j = some v ∧ ∀ l, j < l → l < n → entry l = none := by
  have step (n : Nat) : ((List.range (n + 1)).filterMap entry).getLast? =
      ((entry n).map some).getD ((List.range n).filterMap entry).getLast? := by
    rw [getLast?_recorded_succ]
    cases entry n <;> rfl
  have written := eq_iff_written_last
    (fun n => ((List.range n).filterMap entry).getLast?) step n (some v)
  simpa using written

end Records

section Lists

variable {α : Type} {p q : α → Prop} {x : α} {l before after : List α}

/-- The last element of a list with `q` has `p`. -/
def LastOf (p q : α → Prop) (l : List α) : Prop :=
  ∃ before x after, l = before ++ x :: after ∧ p x ∧ ∀ y ∈ after, ¬q y

theorem lastOf_nil : ¬LastOf p q [] := by
  rintro ⟨before, x, after, split, -⟩
  cases before <;> cases split

theorem lastOf_cons : LastOf p q (x :: l) ↔ LastOf p q l ∨ p x ∧ ∀ y ∈ l, ¬q y := by
  constructor
  · rintro ⟨before, y, after, split, hy, last⟩
    cases before with
    | nil =>
        obtain ⟨rfl, rfl⟩ := List.cons.inj split
        exact .inr ⟨hy, last⟩
    | cons z before => exact .inl ⟨before, y, after, (List.cons.inj split).2, hy, last⟩
  · rintro (⟨before, y, after, rfl, hy, last⟩ | ⟨hx, last⟩)
    · exact ⟨x :: before, y, after, rfl, hy, last⟩
    · exact ⟨[], x, l, rfl, hx, last⟩

theorem lastOf_singleton : LastOf p q [x] ↔ p x := by
  simp [lastOf_cons, lastOf_nil]

theorem lastOf_append : LastOf p q (before ++ after) ↔
    LastOf p q after ∨ LastOf p q before ∧ ∀ y ∈ after, ¬q y := by
  induction before with
  | nil => simp [lastOf_nil]
  | cons x before ih =>
      simp only [List.cons_append, lastOf_cons, ih, List.forall_mem_append, or_and_right, or_assoc,
        and_assoc]

/-- There is only one last element. -/
theorem LastOf.both {p' : α → Prop} (h : LastOf p q l) (h' : LastOf p' q l) (hp : ∀ y, p y → q y)
    (hp' : ∀ y, p' y → q y) : ∃ y, p y ∧ p' y := by
  induction l with
  | nil => exact absurd h lastOf_nil
  | cons x l ih =>
      have absent {r : α → Prop} (hr : ∀ y, r y → q y) (none : ∀ y ∈ l, ¬q y) : ¬LastOf r q l := by
        rintro ⟨before, y, after, rfl, hy, -⟩
        exact none y (by simp) (hr y hy)
      rw [lastOf_cons] at h h'
      obtain h | ⟨hx, none⟩ := h
      · obtain h' | ⟨-, none'⟩ := h'
        · exact ih h h'
        · exact absurd h (absent hp none')
      · obtain h' | ⟨hx', -⟩ := h'
        · exact absurd h' (absent hp' none)
        · exact ⟨x, hx, hx'⟩

end Lists

end DoorControl
