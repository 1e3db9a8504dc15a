/- Texts around their words: blanks at the ends of a text, what it begins with, and the words in it. -/
import DoorControl.Text.Blank
import Mathlib.Data.List.Infix
import Mathlib.Data.List.TakeWhile

namespace DoorControl.Text

variable {s : List Char}

theorem dropWhile_blank_eq_self (hs : ∀ c ∈ s, isBlank c = false) : s.dropWhile isBlank = s := by
  cases s with
  | nil => rfl
  | cons c cs => rw [List.dropWhile_cons_of_neg (by simp [hs c])]

theorem trim_surrounded {before after : List Char} (hb : ∀ c ∈ before, isBlank c = true)
    (ha : ∀ c ∈ after, isBlank c = true) (hs : ∀ c ∈ s, isBlank c = false) :
    trim (before ++ s ++ after) = s := by
  have left : dropBlanks (before ++ s ++ after) = s ++ after ∨ s = [] := by
    rw [dropBlanks, List.append_assoc, List.dropWhile_append_of_pos hb]
    cases s with
    | nil => exact .inr rfl
    | cons c cs => exact .inl (List.dropWhile_cons_of_neg (by simp [hs c]))
  obtain left | rfl := left
  · rw [trim, left, dropBlanksRight, List.reverse_append,
      List.dropWhile_append_of_pos (by simpa using ha), dropWhile_blank_eq_self (by simpa using hs),
      List.reverse_reverse]
  · have none : (after ++ []).dropWhile isBlank = [] := List.dropWhile_append_of_pos ha
    rw [trim, dropBlanks, List.append_nil, List.dropWhile_append_of_pos hb, ← List.append_nil after,
      none]
    rfl

theorem trim_eq_self (hs : ∀ c ∈ s, isBlank c = false) : trim s = s := by
  simpa using @trim_surrounded s [] [] (by simp) (by simp) hs

theorem exists_blanks_after (s : List Char) :
    ∃ after, s = dropBlanksRight s ++ after ∧ ∀ c ∈ after, isBlank c = true := by
  refine ⟨(s.reverse.takeWhile isBlank).reverse, ?_, fun c mem => ?_⟩
  · rw [dropBlanksRight, ← List.reverse_append, List.takeWhile_append_dropWhile, List.reverse_reverse]
  · exact List.mem_takeWhile_imp (List.mem_reverse.mp mem)

/-- What trimming takes off are blanks at both ends. -/
theorem exists_blanks_around_trim (s : List Char) : ∃ before after,
    s = before ++ trim s ++ after ∧ ∀ c ∈ before ++ after, isBlank c = true := by
  obtain ⟨after, right, blanks⟩ := exists_blanks_after (dropBlanks s)
  refine ⟨s.takeWhile isBlank, after, ?_, List.forall_mem_append.mpr ⟨fun c mem => ?_, blanks⟩⟩
  · rw [List.append_assoc, trim, ← right]
    exact List.takeWhile_append_dropWhile.symm
  · exact List.mem_takeWhile_imp mem

/-- A text that begins with something other than blanks begins with it after trimming. -/
theorem trim_lead {gap lead : List Char} (blanks : ∀ c ∈ gap, isBlank c = true) (nonempty : lead ≠ [])
    (visible : ∀ c ∈ lead, isBlank c = false) (s : List Char) :
    trim (gap ++ lead ++ s) = lead ++ dropBlanksRight s := by
  have left : dropBlanks (gap ++ lead ++ s) = lead ++ s := by
    obtain ⟨c, cs, rfl⟩ := List.exists_cons_of_ne_nil nonempty
    rw [dropBlanks, List.append_assoc, List.dropWhile_append_of_pos blanks]
    exact List.dropWhile_cons_of_neg (by simp [visible c])
  rw [trim, left, dropBlanksRight, dropBlanksRight, List.reverse_append, List.dropWhile_append]
  split
  · next none =>
    rw [List.isEmpty_iff.mp none, dropWhile_blank_eq_self (by simpa using visible)]
    simp
  · simp

theorem after?_eq_some_iff {lead s rest : List Char} : after? lead s = some rest ↔ s = lead ++ rest := by
  induction lead generalizing s with
  | nil => simp [after?, eq_comm]
  | cons l ls ih =>
      cases s with
      | nil => simp [after?]
      | cons c cs =>
          rw [after?, List.cons_append, List.cons.injEq]
          by_cases h : l = c
          · simp [h, ih]
          · simp [h, Ne.symm h]

theorem after?_isSome_iff {lead s : List Char} : (after? lead s).isSome ↔ lead <+: s := by
  simp only [Option.isSome_iff_exists, after?_eq_some_iff]
  exact ⟨fun ⟨rest, h⟩ => ⟨rest, h.symm⟩, fun ⟨rest, h⟩ => ⟨rest, h.symm⟩⟩

theorem hasPart_iff {part s : List Char} : hasPart part s = true ↔ part <:+: s := by
  induction s with
  | nil => simp [hasPart]
  | cons c cs ih => rw [hasPart, Bool.or_eq_true, after?_isSome_iff, ih, List.infix_cons_iff]

/-- A text that consists of words, with blanks between them and at both ends. -/
inductive Spaced : List (List Char) → List Char → Prop
  | blank {gap : List Char} (blanks : ∀ c ∈ gap, isBlank c = true) : Spaced [] gap
  | word {gap word rest : List Char} {words : List (List Char)} (blanks : ∀ c ∈ gap, isBlank c = true)
      (nonempty : word ≠ []) (visible : ∀ c ∈ word, isBlank c = false)
      (ends : ∀ c ∈ rest.head?, isBlank c = true) (h : Spaced words rest) :
      Spaced (word :: words) (gap ++ word ++ rest)

variable {words : List (List Char)} {word gap rest : List Char}

theorem Spaced.after_blanks (h : Spaced words s) (blanks : ∀ c ∈ gap, isBlank c = true) :
    Spaced words (gap ++ s) := by
  cases h with
  | blank blanks' => exact .blank (List.forall_mem_append.mpr ⟨blanks, blanks'⟩)
  | word blanks' nonempty visible ends h =>
      rw [← List.append_assoc, ← List.append_assoc]
      exact .word (List.forall_mem_append.mpr ⟨blanks, blanks'⟩) nonempty visible ends h

theorem Spaced.first (nonempty : word ≠ []) (visible : ∀ c ∈ word, isBlank c = false)
    (ends : ∀ c ∈ rest.head?, isBlank c = true) (h : Spaced words rest) :
    Spaced (word :: words) (word ++ rest) :=
  .word (List.forall_mem_nil _) nonempty visible ends h

theorem wordsFrom_blanks (blanks : ∀ c ∈ gap, isBlank c = true) (s : List Char) :
    wordsFrom [] (gap ++ s) = wordsFrom [] s := by
  induction gap with
  | nil => rfl
  | cons c cs ih =>
      obtain ⟨hc, hcs⟩ := List.forall_mem_cons.mp blanks
      rw [List.cons_append, wordsFrom, if_pos hc]
      exact ih hcs

theorem wordsFrom_visible (visible : ∀ c ∈ word, isBlank c = false) (begun s : List Char) :
    wordsFrom begun (word ++ s) = wordsFrom (begun ++ word) s := by
  induction word generalizing begun with
  | nil => simp
  | cons c cs ih =>
      obtain ⟨hc, hcs⟩ := List.forall_mem_cons.mp visible
      rw [List.cons_append, wordsFrom, if_neg (by simp [hc]), ih hcs, List.append_assoc]
      rfl

theorem wordsFrom_end (nonempty : word ≠ []) (ends : ∀ c ∈ rest.head?, isBlank c = true) :
    wordsFrom word rest = word :: wordsFrom [] rest := by
  cases rest with
  | nil => simp [wordsFrom, nonempty]
  | cons c cs =>
      have blank := ends c rfl
      rw [wordsFrom, if_pos blank, if_neg (by simpa using nonempty), wordsFrom, if_pos blank]
      rfl

theorem spaced_wordsFrom {begun : List Char} (visible : ∀ c ∈ begun, isBlank c = false) :
    Spaced (wordsFrom begun s) (begun ++ s) := by
  -- `begun` is the word that has not ended yet; if it is empty, the last character was a blank.
  induction s generalizing begun with
  | nil =>
      rw [wordsFrom]
      split
      · next none =>
        rw [List.isEmpty_iff.mp none]
        exact .blank (List.forall_mem_nil _)
      · next some' =>
        have nonempty : begun ≠ [] := fun none => some' (List.isEmpty_iff.mpr none)
        exact .first nonempty visible (by simp) (.blank (List.forall_mem_nil _))
  | cons c cs ih =>
      rw [wordsFrom]
      split
      · next blank =>
        have after : Spaced (wordsFrom [] cs) ([c] ++ cs) :=
          (ih (List.forall_mem_nil _)).after_blanks (by simpa using blank)
        split
        · next none =>
          rw [List.isEmpty_iff.mp none]
          exact after
        · next some' =>
          have nonempty : begun ≠ [] := fun none => some' (List.isEmpty_iff.mpr none)
          exact .first nonempty visible (by simpa using blank) after
      · next visible' =>
        have longer : ∀ c' ∈ begun ++ [c], isBlank c' = false :=
          List.forall_mem_append.mpr ⟨visible, List.forall_mem_singleton.mpr (by simpa using visible')⟩
        simpa using ih longer

/-- The words of a text are those that it consists of. -/
theorem wordsFrom_eq_iff : wordsFrom [] s = words ↔ Spaced words s := by
  constructor
  · rintro rfl
    exact spaced_wordsFrom (List.forall_mem_nil _)
  · intro h
    induction h with
    | blank blanks => simpa [wordsFrom] using wordsFrom_blanks blanks []
    | @word gap word rest words blanks nonempty visible ends _ ih =>
        rw [List.append_assoc, wordsFrom_blanks blanks, wordsFrom_visible visible, List.nil_append,
          wordsFrom_end nonempty ends, ih]

theorem words_eq_iff {text : String} {words : List String} :
    Text.words text = words ↔ Spaced (words.map String.toList) text.toList := by
  rw [← wordsFrom_eq_iff, Text.words]
  constructor
  · rintro rfl
    simp
  · intro h
    simp [h]

theorem Spaced.before_blanks (h : Spaced words s) (blanks : ∀ c ∈ gap, isBlank c = true) :
    Spaced words (s ++ gap) := by
  induction h with
  | blank blanks' => exact .blank (List.forall_mem_append.mpr ⟨blanks', blanks⟩)
  | @word gap' word rest words blanks' nonempty visible ends _ ih =>
      rw [List.append_assoc]
      refine .word blanks' nonempty visible (fun c first => ?_) ih
      cases rest with
      | nil => exact blanks c (List.mem_of_mem_head? first)
      | cons d ds => exact ends c first

/-- Blanks at the ends of a text change nothing about its words. -/
theorem Spaced.surrounded_iff {before after : List Char} (left : ∀ c ∈ before, isBlank c = true)
    (right : ∀ c ∈ after, isBlank c = true) : Spaced words (before ++ s ++ after) ↔ Spaced words s := by
  have widened {words : List (List Char)} (h : Spaced words s) : Spaced words (before ++ s ++ after) := by
    rw [List.append_assoc]
    exact (h.before_blanks right).after_blanks left
  refine ⟨fun h => ?_, widened⟩
  have same := wordsFrom_eq_iff.mpr (widened (wordsFrom_eq_iff.mp rfl))
  rwa [← wordsFrom_eq_iff, ← same, wordsFrom_eq_iff]

theorem Spaced.trim_iff : Spaced words (trim s) ↔ Spaced words s := by
  obtain ⟨before, after, split, blanks⟩ := exists_blanks_around_trim s
  obtain ⟨left, right⟩ := List.forall_mem_append.mp blanks
  rw [← surrounded_iff left right, ← split]

theorem Spaced.dropBlanksRight_iff : Spaced words (dropBlanksRight s) ↔ Spaced words s := by
  obtain ⟨after, split, blanks⟩ := exists_blanks_after s
  rw [← surrounded_iff (List.forall_mem_nil _) blanks, List.nil_append, ← split]

theorem Spaced.head (h : Spaced (word :: words) s) :
    ∀ c ∈ s.head?, isBlank c = true ∨ c ∈ word.head? := by
  cases h with
  | @word gap _ rest _ blanks nonempty visible ends h =>
      intro c first
      cases gap with
      | nil =>
          obtain ⟨d, ds, rfl⟩ := List.exists_cons_of_ne_nil nonempty
          exact .inr first
      | cons d ds => exact .inl (blanks c (by simp_all))

/-- Words with one blank between two of them. -/
theorem spaced_intercalate (h : ∀ word ∈ words, word ≠ [] ∧ ∀ c ∈ word, isBlank c = false) :
    Spaced words ([' '].intercalate words) := by
  induction words with
  | nil => exact .blank (List.forall_mem_nil _)
  | cons word words ih =>
      obtain ⟨⟨nonempty, visible⟩, others⟩ := List.forall_mem_cons.mp h
      cases words with
      | nil => simpa using Spaced.first nonempty visible (by simp) (.blank (List.forall_mem_nil _))
      | cons next words =>
          rw [List.intercalate_cons_cons]
          have rest := (ih others).after_blanks (List.forall_mem_singleton.mpr (rfl : isBlank ' ' = true))
          simpa using Spaced.first nonempty visible (by simp; rfl) rest

end DoorControl.Text
