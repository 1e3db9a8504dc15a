/- What an item carries of a text: the longest beginning that fits, which a search back from the limit finds too. -/
import DoorControl.Outbox.Item
import Mathlib.Data.String.Basic

namespace DoorControl.Outbox

open String (utf8Len)

section Beginnings

variable {room : Nat} {l cs : List Char}

theorem fit_isPrefix (room : Nat) (cs : List Char) : fit room cs <+: cs := by
  induction cs generalizing room with
  | nil => exact List.nil_prefix
  | cons c cs ih =>
      rw [fit]
      split
      · exact List.prefix_cons_iff.mpr (.inr ⟨_, rfl, ih _⟩)
      · exact List.nil_prefix

theorem utf8Len_fit_le (room : Nat) (cs : List Char) : utf8Len (fit room cs) ≤ room := by
  induction cs generalizing room with
  | nil => exact Nat.zero_le room
  | cons c cs ih =>
      rw [fit]
      split
      · next fits =>
        have rest := ih (room - c.utf8Size)
        rw [String.utf8Len_cons]
        omega
      · exact Nat.zero_le room

theorem prefix_fit (begins : l <+: cs) (fits : utf8Len l ≤ room) : l <+: fit room cs := by
  induction cs generalizing room l with
  | nil => exact begins
  | cons c cs ih =>
      rcases List.prefix_cons_iff.mp begins with rfl | ⟨l, rfl, further⟩
      · exact List.nil_prefix
      · rw [String.utf8Len_cons] at fits
        rw [fit, if_pos (by omega)]
        exact (List.prefix_cons_inj c).mpr (ih further (by omega))

theorem fit_eq_self_iff : fit room cs = cs ↔ utf8Len cs ≤ room := by
  constructor
  · intro whole
    rw [← whole]
    exact utf8Len_fit_le room cs
  · intro fits
    exact (fit_isPrefix room cs).eq_of_length_le (prefix_fit (List.prefix_refl cs) fits).length_le

/-- What is cut off begins with a character that does not fit, and none takes up more than four bytes. -/
theorem room_le_of_cut (cut : room < utf8Len cs) : room ≤ utf8Len (fit room cs) + 3 := by
  obtain ⟨rest, whole⟩ := fit_isPrefix room cs
  rcases rest with _ | ⟨c, rest⟩
  · rw [List.append_nil, fit_eq_self_iff] at whole
    omega
  · have size := c.utf8Size_le_four
    have more : ¬utf8Len (fit room cs ++ [c]) ≤ room := by
      intro fits
      have begins : fit room cs ++ [c] <+: cs := ⟨rest, by rw [List.append_assoc]; exact whole⟩
      have longer := (prefix_fit begins fits).length_le
      rw [List.length_append, List.length_singleton] at longer
      omega
    rw [String.utf8Len_append, String.utf8Len_cons, String.utf8Len_nil] at more
    omega

end Beginnings

section Search

variable {text part : String} {max offset stop : Nat}

/-- The place between two characters that a search from an offset in bytes backwards comes to first. There is none if
the search leaves the text. -/
def boundaryBefore? (text : String) : (offset : Nat) → Option Nat
  | 0 => if String.Pos.Raw.isValid text ⟨0⟩ then some 0 else none
  | offset + 1 =>
      if String.Pos.Raw.isValid text ⟨offset + 1⟩ then some (offset + 1) else boundaryBefore? text offset

/-- A text cut in its bytes, if what is left is one. -/
def truncated? (text : String) (max : Nat) : Option String :=
  if max < text.utf8ByteSize then
    (boundaryBefore? text max).bind fun stop => String.fromUTF8? (text.toByteArray.extract 0 stop)
  else some text

/-- The longest part from the beginning of a text to a place between two characters that takes up `max` bytes at most. -/
structure Longest (text : String) (max : Nat) (part : String) : Prop where
  begins : ∃ rest, text = part ++ rest
  fits : part.utf8ByteSize ≤ max
  longest : ∀ offset ≤ max, String.Pos.Raw.IsValid text ⟨offset⟩ → offset ≤ part.utf8ByteSize

theorem boundaryBefore?_eq_some_iff : boundaryBefore? text offset = some stop ↔
    String.Pos.Raw.IsValid text ⟨stop⟩ ∧ stop ≤ offset ∧
      ∀ k ≤ offset, String.Pos.Raw.IsValid text ⟨k⟩ → k ≤ stop := by
  induction offset with
  | zero =>
      have start : String.Pos.Raw.isValid text ⟨0⟩ = true :=
        String.Pos.Raw.isValid_eq_true_iff.mpr String.Pos.Raw.isValid_zero
      rw [boundaryBefore?, if_pos start, Option.some.injEq]
      constructor
      · rintro rfl
        exact ⟨String.Pos.Raw.isValid_zero, Nat.le_refl 0, fun k below _ => below⟩
      · rintro ⟨-, below, -⟩
        exact (Nat.le_zero.mp below).symm
  | succ offset ih =>
      rw [boundaryBefore?]
      by_cases valid : String.Pos.Raw.IsValid text ⟨offset + 1⟩
      · rw [if_pos (String.Pos.Raw.isValid_eq_true_iff.mpr valid), Option.some.injEq]
        constructor
        · rintro rfl
          exact ⟨valid, Nat.le_refl _, fun k below _ => below⟩
        · rintro ⟨-, below, last⟩
          exact Nat.le_antisymm (last _ (Nat.le_refl _) valid) below
      · rw [if_neg (by rwa [String.Pos.Raw.isValid_eq_true_iff]), ih]
        constructor
        · rintro ⟨there, below, last⟩
          refine ⟨there, Nat.le_succ_of_le below, ?_⟩
          intro k inside valid'
          rcases Nat.le_succ_iff.mp inside with inside | rfl
          · exact last k inside valid'
          · exact absurd valid' valid
        · rintro ⟨there, below, last⟩
          refine ⟨there, ?_, fun k inside => last k (Nat.le_succ_of_le inside)⟩
          rcases Nat.le_succ_iff.mp below with below | rfl
          · exact below
          · exact absurd there valid

example : boundaryBefore? "ab𝄞" 5 = some 2 := by decide

theorem Longest.valid (h : Longest text max part) : String.Pos.Raw.IsValid text ⟨part.utf8ByteSize⟩ := by
  obtain ⟨rest, whole⟩ := h.begins
  exact String.Pos.Raw.isValid_iff_exists_append.mpr ⟨part, rest, whole, rfl⟩

theorem Longest.found (h : Longest text max part) : boundaryBefore? text max = some part.utf8ByteSize :=
  boundaryBefore?_eq_some_iff.mpr ⟨h.valid, h.fits, h.longest⟩

theorem Longest.bytes (h : Longest text max part) :
    text.toByteArray.extract 0 part.utf8ByteSize = part.toByteArray := by
  obtain ⟨rest, rfl⟩ := h.begins
  rw [String.toByteArray_append, ← String.size_toByteArray]
  exact ByteArray.extract_append_eq_left rfl

theorem Longest.truncated (h : Longest text max part) (cut : max < text.utf8ByteSize) :
    truncated? text max = some part := by
  rw [truncated?, if_pos cut, h.found, Option.bind_some, h.bytes]
  exact dif_pos part.isValidUTF8

theorem longest_fit (text : String) (max : Nat) : Longest text max (String.ofList (fit max text.toList)) where
  begins := by
    obtain ⟨rest, whole⟩ := fit_isPrefix max text.toList
    exact ⟨String.ofList rest, by rw [← String.ofList_append, whole, String.ofList_toList]⟩
  fits := by
    rw [String.utf8ByteSize_ofList]
    exact utf8Len_fit_le max text.toList
  longest offset inside valid := by
    obtain ⟨count, same⟩ := String.Pos.Raw.isValid_iff_exists_take_toList.mp valid
    obtain rfl : offset = utf8Len (text.toList.take count) := same.trans (String.utf8ByteSize_ofList _)
    rw [String.utf8ByteSize_ofList]
    exact String.utf8Len_le_of_prefix (prefix_fit (List.take_prefix count text.toList) inside)

end Search

/-- An item carries the longest beginning of its text between two characters that takes up no more than its limit in
bytes. A search back from the limit finds the end of that beginning in the text, three steps away at most, and what
it leaves of the bytes is a text. Nothing is cut off it a second time. -/
theorem item_carries_longest_fitting_text (kind : ItemKind) (text : String) (id : Option Int) (seconds : Int) :
    Longest text maxItemText (Item.new kind text id seconds).text ∧
      truncated? text maxItemText = some (Item.new kind text id seconds).text ∧
      (maxItemText < text.utf8ByteSize → ∃ steps ≤ 3,
        boundaryBefore? text maxItemText = some (maxItemText - steps)) ∧
      Item.new kind (Item.new kind text id seconds).text id seconds = Item.new kind text id seconds := by
  have longest := longest_fit text maxItemText
  refine ⟨longest, ?_, ?_, ?_⟩
  · by_cases cut : maxItemText < text.utf8ByteSize
    · exact longest.truncated cut
    · have whole : fit maxItemText text.toList = text.toList :=
        fit_eq_self_iff.mpr (by rw [String.utf8Len_toList]; omega)
      rw [truncated?, if_neg cut, Item.new, whole, String.ofList_toList]
  · intro cut
    have near : maxItemText ≤ utf8Len (fit maxItemText text.toList) + 3 :=
      room_le_of_cut (by rwa [String.utf8Len_toList])
    have fits := utf8Len_fit_le maxItemText text.toList
    refine ⟨maxItemText - utf8Len (fit maxItemText text.toList), by omega, ?_⟩
    rw [longest.found, String.utf8ByteSize_ofList]
    congr 1
    omega
  · have again : fit maxItemText (fit maxItemText text.toList) = fit maxItemText text.toList :=
      fit_eq_self_iff.mpr (utf8Len_fit_le _ _)
    rw [Item.new, Item.new, String.toList_ofList, again]

end DoorControl.Outbox
