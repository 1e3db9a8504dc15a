/- A byte stream taken in by chunks: the lines that a chunk completes, and what is held back of the next. -/
import DoorControl.Proofs.Serial.Lines
import DoorControl.Proofs.Serial.Sending

namespace DoorControl.Serial

/-- What comes behind the last line end of a byte stream, `begun` having been received before it. -/
def unfinished (begun : List UInt8) : List UInt8 → List UInt8
  | [] => begun
  | b :: bs => if b = newline then unfinished [] bs else unfinished (begun ++ [b]) bs

variable {begun bs line rest : List UInt8}

theorem unfinished_append (begun bs cs : List UInt8) :
    unfinished begun (bs ++ cs) = unfinished (unfinished begun bs) cs := by
  induction bs generalizing begun with
  | nil => rfl
  | cons b bs ih =>
      rw [List.cons_append, unfinished, unfinished]
      split <;> exact ih _

theorem wholeLines_unfinished (begun bs cs : List UInt8) :
    wholeLines begun (bs ++ cs) = wholeLines begun bs ++ wholeLines (unfinished begun bs) cs := by
  induction bs generalizing begun with
  | nil => rfl
  | cons b bs ih =>
      rw [List.cons_append, wholeLines, wholeLines, unfinished]
      split
      · exact congrArg (begun :: ·) (ih [])
      · exact ih _

theorem unfinished_open (h : newline ∉ bs) (begun : List UInt8) :
    unfinished begun bs = begun ++ bs := by
  induction bs generalizing begun with
  | nil => rw [List.append_nil]; rfl
  | cons b bs ih =>
      obtain ⟨hb, hbs⟩ : ¬newline = b ∧ newline ∉ bs := by simpa using h
      rw [unfinished, if_neg (Ne.symm hb), ih hbs, List.append_assoc]
      rfl

theorem wholeLines_open (h : newline ∉ bs) (begun : List UInt8) : wholeLines begun bs = [] := by
  have all := wholeLines_append h begun []
  rwa [List.append_nil] at all

theorem unfinished_line (h : newline ∉ line) (begun rest : List UInt8) :
    unfinished begun (line ++ newline :: rest) = unfinished [] rest := by
  rw [unfinished_append, unfinished_open h]
  rfl

theorem wholeLines_line (h : newline ∉ line) (begun rest : List UInt8) :
    wholeLines begun (line ++ newline :: rest) = (begun ++ line) :: wholeLines [] rest := by
  rw [wholeLines_append h]
  rfl

theorem newline_notMem_unfinished (h : newline ∉ begun) : newline ∉ unfinished begun bs := by
  induction bs generalizing begun with
  | nil => exact h
  | cons b bs ih =>
      rw [unfinished]
      split
      · exact ih List.not_mem_nil
      · next hb => exact ih (by simp [h, Ne.symm hb])

theorem splitLine?_eq_none_iff : splitLine? bs = none ↔ newline ∉ bs := by
  constructor
  · intro none mem
    obtain ⟨line, rest, rfl, open'⟩ := List.eq_append_cons_of_mem mem
    rw [splitLine?_append open'] at none
    cases none
  · intro open'
    cases split : splitLine? bs with
    | none => rfl
    | some found =>
        obtain ⟨-, eq⟩ := splitLine?_some split
        exact absurd (eq ▸ by simp) open'

namespace LineBuffer

variable {b : LineBuffer} {chunk : List UInt8}

/-- All whole lines are taken, and the rest is kept. -/
theorem drain_eq (b : LineBuffer) :
    b.drain = ((wholeLines [] b.bytes).map lineText, ⟨unfinished [] b.bytes⟩) := by
  have htake (n : Nat) (b : LineBuffer) (enough : b.bytes.length ≤ n) :
      takeLines n b = ((wholeLines [] b.bytes).map lineText, ⟨unfinished [] b.bytes⟩) := by
    induction n generalizing b with
    | zero =>
        obtain ⟨bytes⟩ := b
        obtain rfl : bytes = [] := List.length_eq_zero_iff.mp (Nat.le_zero.mp enough)
        rfl
    | succ n ih =>
        unfold takeLines
        cases split : splitLine? b.bytes with
        | none =>
            have open' := splitLine?_eq_none_iff.mp split
            rw [next?, split, wholeLines_open open', unfinished_open open']
            rfl
        | some found =>
            obtain ⟨line, rest⟩ := found
            obtain ⟨open', eq⟩ := splitLine?_some split
            have fewer : rest.length ≤ n := by
              rw [eq, List.length_append, List.length_cons] at enough
              omega
            rw [next?, split, eq, wholeLines_line open', unfinished_line open']
            simp only [Option.map_some, ih ⟨rest⟩ fewer]
            rfl
  exact htake _ b (Nat.le_refl _)

/-- A chunk that is not dropped goes on with what is held back. -/
theorem drain_feed (held : newline ∉ b.bytes)
    (kept : newline ∈ chunk ∨ (b.bytes ++ chunk).length ≤ maxLineLength) :
    (b.feed chunk).drain =
      ((wholeLines b.bytes chunk).map lineText, ⟨unfinished b.bytes chunk⟩) := by
  have fed : b.feed chunk = ⟨b.bytes ++ chunk⟩ := by
    unfold feed
    dsimp only
    rw [if_neg]
    rintro ⟨long, open'⟩
    obtain ended | short := kept
    · exact open' (List.mem_append_right _ ended)
    · omega
  rw [fed, drain_eq]
  dsimp only
  rw [wholeLines_append held, unfinished_append, unfinished_open held, List.nil_append]

/-- Without a line end nothing is taken, whether the input is dropped or not. -/
theorem drain_feed_open (held : newline ∉ b.bytes) (open' : newline ∉ chunk) :
    (b.feed chunk).drain.1 = [] ∧ newline ∉ (b.feed chunk).drain.2.bytes := by
  have fed : newline ∉ (b.feed chunk).bytes := by
    unfold feed
    dsimp only
    split
    · exact List.not_mem_nil
    · simp [held, open']
  rw [drain_eq]
  refine ⟨?_, newline_notMem_unfinished List.not_mem_nil⟩
  rw [wholeLines_open fed]
  rfl

end LineBuffer

end DoorControl.Serial
