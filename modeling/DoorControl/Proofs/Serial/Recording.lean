/- The bytes that a port takes, over all that a link does with the port. -/
import DoorControl.Serial.Bench
import DoorControl.Serial.Link

namespace DoorControl.Serial

open Text (Utf8.encode)

variable {P : Type} [Port P] {wire : P → List UInt8}

/-- A record of the bytes that a port takes: all of a write, or some of the first if it fails. -/
structure Records (wire : P → List UInt8) : Prop where
  read : ∀ p, wire (Port.read p).2 = wire p
  write : ∀ bytes p, ∃ taken, wire (Port.write bytes p).2 = wire p ++ taken ∧ taken <+: bytes ∧
    ((Port.write bytes p).1 = .ok () → taken = bytes)

def commandLine (command : String) : List UInt8 := Utf8.encode command ++ [newline]

/-- What reads leave alone is left alone by several. -/
theorem Link.readChunks_eq {α : Type} (f : P → α) (read : ∀ p, f (Port.read p).2 = f p) (n : Nat) (p : P) :
    f (Link.readChunks n p).2 = f p := by
  induction n generalizing p with
  | zero => rfl
  | succ n ih =>
      have kept := read p
      unfold Link.readChunks
      cases got : Port.read p with
      | mk result p' =>
          rw [got] at kept
          cases result with
          | error f => dsimp only; split <;> exact kept
          | ok bytes =>
              dsimp only
              split
              · exact kept
              · have more := (ih p').trans kept
                cases rest : Link.readChunks n p' with
                | mk result p'' =>
                    rw [rest] at more
                    cases result <;> exact more

namespace Records

variable (h : Records wire)
include h

theorem readChunks (n : Nat) (p : P) : wire (Link.readChunks n p).2 = wire p :=
  Link.readChunks_eq wire h.read n p

theorem awaitReply (command : String) (timeout n : Nat) (l : Link P) :
    wire (Link.awaitReply command timeout n l).2.port = wire l.port := by
  induction n generalizing l with
  | zero =>
      unfold Link.awaitReply
      split <;> rfl
  | succ n ih =>
      have kept := h.read l.port
      unfold Link.awaitReply
      split
      · rfl
      · dsimp only
        split
        · next read =>
          rw [read] at kept
          split
          · exact (ih _).trans kept
          · exact kept
        · next read =>
          rw [read] at kept
          exact (ih _).trans kept
        · next read =>
          rw [read] at kept
          exact (ih _).trans kept

theorem send (command : String) (l : Link P) : ∃ taken,
    wire (Link.send command l).2.port = wire l.port ++ taken ∧ taken <+: commandLine command ∧
      ((Link.send command l).1 = .ok () → taken = commandLine command) := by
  obtain ⟨word, grown, part, whole⟩ := h.write (Utf8.encode command) l.port
  unfold Link.send
  cases written : Port.write (Utf8.encode command) l.port with
  | mk result p =>
      rw [written] at grown whole
      cases result with
      | error f => exact ⟨word, grown, part.trans (List.prefix_append _ _), nofun⟩
      | ok =>
          obtain rfl : word = Utf8.encode command := whole rfl
          obtain ⟨ending, grown', part', whole'⟩ := h.write [newline] p
          refine ⟨Utf8.encode command ++ ending, ?_, ?_, ?_⟩
          · dsimp only at grown ⊢
            rw [grown', grown, List.append_assoc]
          · exact (List.prefix_append_right_inj _).mpr part'
          · intro ok
            rw [whole' ok]
            rfl

/-- An exchange with a reply has written its whole command line, and any other some of it at most. -/
theorem exchange (command : String) (timeout : Nat) (l : Link P) : ∃ taken,
    wire (l.exchange command timeout).2.port = wire l.port ++ taken ∧
      taken <+: commandLine command ∧
      ((∃ reply, (l.exchange command timeout).1 = .ok reply) → taken = commandLine command) := by
  have dropped : wire l.readAvailable.2.port = wire l.port :=
    h.readChunks (Port.burst l.port + 1) l.port
  unfold Link.exchange
  cases read : l.readAvailable with
  | mk result l₁ =>
      rw [read] at dropped
      cases result with
      | error f => exact ⟨[], by simpa using dropped, List.nil_prefix, nofun⟩
      | ok =>
          obtain ⟨taken, grown, part, whole⟩ := h.send command { l₁ with lines := {} }
          dsimp only at grown ⊢
          rw [dropped] at grown
          cases sent : Link.send command { l₁ with lines := {} } with
          | mk result l₂ =>
              rw [sent] at grown whole
              cases result with
              | error f => exact ⟨taken, grown, part, nofun⟩
              | ok => exact ⟨taken, (h.awaitReply command timeout _ l₂).trans grown, part, fun _ => whole rfl⟩

end Records

namespace Bench

theorem hear_wire (p : Bench) (bytes : List UInt8) : (bytes.foldl hear p).wire = p.wire := by
  induction bytes generalizing p with
  | nil => rfl
  | cons b bs ih =>
      refine (ih (p.hear b)).trans ?_
      unfold hear
      split <;> rfl

theorem records : Records Bench.wire where
  read p := by
    change (readUpTo readChunk p).2.wire = p.wire
    unfold readUpTo
    split
    · split <;> rfl
    · rfl
  write bytes p := by
    change ∃ taken, (if bytes.isEmpty then (.ok (), p) else write bytes p : Except PortFault Unit × Bench).2.wire =
      p.wire ++ taken ∧ taken <+: bytes ∧ ((if bytes.isEmpty then (.ok (), p) else write bytes p :
        Except PortFault Unit × Bench).1 = .ok () → taken = bytes)
    split
    · next empty =>
      obtain rfl := List.isEmpty_iff.mp empty
      exact ⟨[], by simp⟩
    · unfold write
      split
      · split
        · exact ⟨[], by simp⟩
        · exact ⟨bytes, hear_wire _ bytes, List.prefix_refl _, fun _ => rfl⟩
      · exact ⟨[], by simp⟩

end Bench

end DoorControl.Serial
