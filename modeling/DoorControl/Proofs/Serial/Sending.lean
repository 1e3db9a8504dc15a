/- Command lines over a port that may fail in the middle of one, and the lines that are received. -/
import DoorControl.Serial.Link
import DoorControl.Serial.Script

namespace DoorControl.Serial

open Text (Utf8.encode)

/-- The whole lines of a byte stream, of the first of which `begun` has been received before. -/
def wholeLines (begun : List UInt8) : List UInt8 → List (List UInt8)
  | [] => []
  | b :: bs => if b = newline then begun :: wholeLines [] bs else wholeLines (begun ++ [b]) bs

theorem wholeLines_append {part : List UInt8} (h : newline ∉ part) (begun rest : List UInt8) :
    wholeLines begun (part ++ rest) = wholeLines (begun ++ part) rest := by
  induction part generalizing begun with
  | nil => rw [List.append_nil, List.nil_append]
  | cons b bs ih =>
      obtain ⟨hb, hbs⟩ : ¬newline = b ∧ newline ∉ bs := by simpa using h
      rw [List.cons_append, wholeLines, if_neg (Ne.symm hb), ih hbs, List.append_assoc]
      rfl

theorem ScriptedPort.write_budget {n : Nat} (bytes : List UInt8) (p : ScriptedPort)
    (h : p.budget = some n) : Port.write bytes p =
      (if bytes.length ≤ n then .ok () else .error writeFault,
        { p with wire := p.wire ++ bytes.take n, budget := some (n - bytes.length) }) := by
  change ScriptedPort.write bytes p = _
  unfold ScriptedPort.write
  rw [h]
  dsimp only
  split <;> rfl

/-- An attempt to send a command. -/
structure Attempt where
  command : String
  /-- After so many bytes the port fails; without a number it takes them all. -/
  budget : Option Nat
  oneLine : newline ∉ Utf8.encode command

namespace Attempt

def line (a : Attempt) : List UInt8 := Utf8.encode a.command

/-- The bytes that the port takes. -/
def taken (a : Attempt) : List UInt8 :=
  match a.budget with
  | none => a.line ++ [newline]
  | some n => (a.line ++ [newline]).take n

/-- Whether the port takes the line end too. -/
def completes (a : Attempt) : Bool :=
  match a.budget with
  | none => true
  | some n => a.line.length < n

def perform (a : Attempt) (l : Link ScriptedPort) : Except PortFault Unit × Link ScriptedPort :=
  { l with port := { l.port with budget := a.budget } }.send a.command

variable {a : Attempt}

theorem taken_complete (h : a.completes = true) : a.taken = a.line ++ [newline] := by
  unfold completes at h
  unfold taken
  cases hb : a.budget with
  | none => rfl
  | some n =>
      have hn : a.line.length < n := by simpa [hb] using h
      exact List.take_of_length_le (by simp; omega)

/-- What a failed attempt leaves on the wire ends no line. -/
theorem taken_incomplete (h : a.completes = false) : newline ∉ a.taken := by
  unfold completes at h
  unfold taken
  cases hb : a.budget with
  | none => simp [hb] at h
  | some n =>
      have hn : n ≤ a.line.length := by simpa [hb] using h
      intro hmem
      dsimp only at hmem
      rw [List.take_append_of_le_length hn] at hmem
      exact a.oneLine (List.mem_of_mem_take hmem)

theorem perform_none (hb : a.budget = none) (l : Link ScriptedPort) :
    (a.perform l).1 = .ok () ∧ (a.perform l).2.port.wire = l.port.wire ++ (a.line ++ [newline]) := by
  unfold perform Link.send
  rw [hb]
  exact ⟨rfl, List.append_assoc _ _ _⟩

/-- The line end gets what the command has left of the budget. -/
theorem perform_some {n : Nat} (hb : a.budget = some n) (l : Link ScriptedPort) :
    ((a.perform l).1 = .ok () ↔ a.line.length < n) ∧
      (a.perform l).2.port.wire = l.port.wire ++ (a.line ++ [newline]).take n := by
  unfold perform Link.send
  rw [hb, List.take_append, ← List.append_assoc]
  have hcommand := ScriptedPort.write_budget a.line { l.port with budget := some n } rfl
  change Port.write (Utf8.encode a.command) _ = _ at hcommand
  rw [hcommand]
  by_cases hfits : a.line.length ≤ n
  · rw [if_pos hfits]
    dsimp only
    rw [ScriptedPort.write_budget [newline] _ rfl]
    refine ⟨?_, rfl⟩
    split
    · next hend => exact ⟨fun _ => by simp at hend; omega, fun _ => rfl⟩
    · next hend => exact ⟨nofun, fun h => absurd h (by simp at hend; omega)⟩
  · have hnone : n - a.line.length = 0 := by omega
    rw [if_neg hfits, hnone, List.take_zero, List.append_nil]
    exact ⟨⟨nofun, fun h => absurd h (by omega)⟩, rfl⟩

theorem perform_ok_iff (a : Attempt) (l : Link ScriptedPort) :
    (a.perform l).1 = .ok () ↔ a.completes = true := by
  unfold completes
  cases hb : a.budget with
  | none => simpa using (perform_none hb l).1
  | some n => simpa using (perform_some hb l).1

theorem perform_wire (a : Attempt) (l : Link ScriptedPort) :
    (a.perform l).2.port.wire = l.port.wire ++ a.taken := by
  unfold taken
  cases hb : a.budget with
  | none => exact (perform_none hb l).2
  | some n => exact (perform_some hb l).2

end Attempt

/-- A link after a series of attempts. -/
def attempted (attempts : List Attempt) : Link ScriptedPort :=
  attempts.foldl (fun l a => (a.perform l).2) { port := {} }

theorem attempted_wire (attempts : List Attempt) :
    (attempted attempts).port.wire = attempts.flatMap Attempt.taken := by
  have hrun (l : Link ScriptedPort) :
      (attempts.foldl (fun l a => (a.perform l).2) l).port.wire =
        l.port.wire ++ attempts.flatMap Attempt.taken := by
    induction attempts generalizing l with
    | nil => simp
    | cons a rest ih => rw [List.foldl_cons, ih, Attempt.perform_wire, List.flatMap_cons,
        List.append_assoc]
  exact (hrun _).trans (List.nil_append _)

/-- The attempts that complete, each with what the failed ones before it have left on the wire. -/
def completed (left : List UInt8) : List Attempt → List (List UInt8 × Attempt)
  | [] => []
  | a :: rest =>
      if a.completes then (left, a) :: completed [] rest else completed (left ++ a.taken) rest

theorem wholeLines_taken (left : List UInt8) (attempts : List Attempt) :
    wholeLines left (attempts.flatMap Attempt.taken) =
      (completed left attempts).map fun (left, a) => left ++ a.line := by
  induction attempts generalizing left with
  | nil => rfl
  | cons a rest ih =>
      rw [List.flatMap_cons, completed]
      cases hc : a.completes with
      | true =>
          have hline : newline ∉ a.line := a.oneLine
          rw [Attempt.taken_complete hc, List.append_assoc, wholeLines_append hline, if_pos rfl,
            List.map_cons, ← ih]
          rfl
      | false =>
          rw [wholeLines_append (Attempt.taken_incomplete hc), ih]
          rfl

theorem completed_snd (left : List UInt8) (attempts : List Attempt) :
    (completed left attempts).map Prod.snd = attempts.filter Attempt.completes := by
  induction attempts generalizing left with
  | nil => rfl
  | cons a rest ih =>
      rw [completed]
      cases hc : a.completes with
      | true => simp [hc, ih]
      | false => simp [hc, ih]

/-- Every line received is what failed attempts have left and the command of the one that ended the line.
So all lines are commands exactly if all these are, and each is the command of its own attempt exactly if
no attempt completes with anything left before it. Two bytes of an `unlock` turn a `lock` into one. -/
theorem received_lines (attempts : List Attempt) :
    let received := wholeLines [] (attempted attempts).port.wire
    (∀ a ∈ attempts, ∀ l, (a.perform l).1 = .ok () ↔ a.completes = true) ∧
    received = (completed [] attempts).map (fun (left, a) => left ++ a.line) ∧
    ((∀ line ∈ received, ∃ a ∈ attempts, line = a.line) ↔
      ∀ left a, (left, a) ∈ completed [] attempts → ∃ b ∈ attempts, left ++ a.line = b.line) ∧
    (received = (attempts.filter Attempt.completes).map Attempt.line ↔
      ∀ left a, (left, a) ∈ completed [] attempts → left = []) ∧
    (∀ left a, (left, a) ∈ completed [] attempts → a.command = "lock" →
      (left ++ a.line = Utf8.encode "unlock" ↔ left = Utf8.encode "un")) := by
  intro received
  have hreceived : received = (completed [] attempts).map (fun (left, a) => left ++ a.line) :=
    (congrArg (wholeLines []) (attempted_wire attempts)).trans (wholeLines_taken [] attempts)
  refine ⟨fun a _ l => a.perform_ok_iff l, hreceived, ?_, ?_, ?_⟩
  · simp only [hreceived, List.mem_map, Prod.exists]
    constructor
    · intro h left a hmem
      exact h _ ⟨left, a, hmem, rfl⟩
    · rintro h _ ⟨left, a, hmem, rfl⟩
      exact h left a hmem
  · rw [hreceived, ← completed_snd [] attempts, List.map_map, List.map_inj_left]
    simp
  · intro left a _ hlock
    have hunlock : Utf8.encode "unlock" = Utf8.encode "un" ++ a.line := by
      rw [Attempt.line, hlock]
      decide
    rw [hunlock, List.append_cancel_right_eq]

/-- An `unlock` of which the port takes `n` bytes, and then a `lock` that it takes to the end. -/
def lockAfterUnlock (n : Nat) : List Attempt :=
  [⟨"unlock", some n, by decide⟩, ⟨"lock", none, by decide⟩]

/-- An `unlock` that has failed before its first byte leaves the `lock` after it whole. -/
theorem lock_received_whole :
    let received := wholeLines [] (attempted (lockAfterUnlock 0)).port.wire
    received = [Utf8.encode "lock"] ∧ ∀ line ∈ received, ∃ a ∈ lockAfterUnlock 0, line = a.line := by
  intro received
  obtain ⟨-, -, commands, own, -⟩ := received_lines (lockAfterUnlock 0)
  have clean : ∀ left a, (left, a) ∈ completed [] (lockAfterUnlock 0) → left = [] := by
    rintro left a (_ | ⟨_, ⟨⟩⟩)
    rfl
  refine ⟨own.mpr clean, commands.mpr ?_⟩
  intro left a h
  refine ⟨a, ?_, congrArg (· ++ a.line) (clean left a h)⟩
  have hsent : a ∈ (completed [] (lockAfterUnlock 0)).map Prod.snd := List.mem_map_of_mem h
  rw [completed_snd] at hsent
  exact (List.mem_filter.mp hsent).1

/-- A `lock` after an `unlock` that has failed within the command is received as `unlock`, or as no
command at all. -/
theorem lock_received_as_unlock :
    wholeLines [] (attempted (lockAfterUnlock 2)).port.wire = [Utf8.encode "unlock"] ∧
      wholeLines [] (attempted (lockAfterUnlock 3)).port.wire = [Utf8.encode "unllock"] ∧
      ¬∃ a ∈ lockAfterUnlock 3, Utf8.encode "unllock" = a.line := by
  refine ⟨by decide, by decide, ?_⟩
  rintro ⟨a, hmem, hline⟩
  rcases hmem with _ | ⟨_, _ | ⟨_, ⟨⟩⟩⟩
  · exact absurd hline (by decide)
  · exact absurd hline (by decide)

end DoorControl.Serial
