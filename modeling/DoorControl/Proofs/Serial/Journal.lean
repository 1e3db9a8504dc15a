/- What a port is told, write by write, and the commands that the writes make up. -/
import DoorControl.Proofs.Serial.Recording

namespace DoorControl.Serial

open Text (Utf8.encode)

/-- A write, and whether it has succeeded. -/
structure Note where
  bytes : List UInt8
  ok : Bool
  deriving DecidableEq

/-- A command as it is sent, and whether that has succeeded, line end and all. -/
structure Sending where
  command : List UInt8
  whole : Bool
  deriving DecidableEq

/-- The commands that writes make up. The line end of a command is a write of its own, which is left out if the
command itself cannot be written. -/
def sendingsOf : List Note → List Sending
  | [] => []
  | ⟨bytes, false⟩ :: rest => ⟨bytes, false⟩ :: sendingsOf rest
  | [⟨bytes, true⟩] => [⟨bytes, false⟩]
  | ⟨bytes, true⟩ :: ending :: rest => ⟨bytes, ending.ok⟩ :: sendingsOf rest

section Journals

variable {P : Type} {notes : P → List Note}

/-- The commands sent while a port changes. -/
def sentBetween (notes : P → List Note) (before after : P) : List Sending :=
  sendingsOf ((notes after).drop (notes before).length)

/-- What is written while a port changes makes up these commands, whatever follows. -/
def Adds (notes : P → List Note) (before after : P) (sendings : List Sending) : Prop :=
  ∃ added, notes after = notes before ++ added ∧
    ∀ rest, sendingsOf (added ++ rest) = sendings ++ sendingsOf rest

namespace Adds

variable {p p' p'' : P} {sendings later : List Sending}

theorem nothing (same : notes p' = notes p) : Adds notes p p' [] :=
  ⟨[], by rw [same, List.append_nil], fun _ => rfl⟩

theorem trans (h : Adds notes p p' sendings) (rest : Adds notes p' p'' later) :
    Adds notes p p'' (sendings ++ later) := by
  obtain ⟨added, grown, makes⟩ := h
  obtain ⟨added', grown', makes'⟩ := rest
  refine ⟨added ++ added', ?_, ?_⟩
  · rw [grown', grown, List.append_assoc]
  · intro rest
    rw [List.append_assoc, makes, makes', List.append_assoc]

theorem sentBetween_eq (h : Adds notes p p' sendings) : sentBetween notes p p' = sendings := by
  obtain ⟨added, grown, makes⟩ := h
  have whole := makes []
  rw [List.append_nil, sendingsOf, List.append_nil] at whole
  rw [sentBetween, grown, List.drop_left, whole]

end Adds

variable [Port P]

/-- A record of all writes to a port. -/
structure Journals (notes : P → List Note) : Prop where
  read : ∀ p, notes (Port.read p).2 = notes p
  write : ∀ bytes p,
    notes (Port.write bytes p).2 = notes p ++ [⟨bytes, (Port.write bytes p).1.isOk⟩]

namespace Journals

variable (h : Journals notes)
include h

theorem send (command : String) (l : Link P) :
    Adds notes l.port (l.send command).2.port [⟨Utf8.encode command, (l.send command).1.isOk⟩] := by
  have word := h.write (Utf8.encode command) l.port
  unfold Link.send
  cases written : Port.write (Utf8.encode command) l.port with
  | mk result p =>
      rw [written] at word
      cases result with
      | error f => exact ⟨_, word, fun _ => rfl⟩
      | ok =>
          have ending := h.write [newline] p
          rw [word, List.append_assoc] at ending
          exact ⟨_, ending, fun _ => rfl⟩

theorem readAvailable (l : Link P) : notes l.readAvailable.2.port = notes l.port :=
  Link.readChunks_eq notes h.read (Port.burst l.port + 1) l.port

end Journals

end Journals

/-- A port of any kind with a journal. -/
structure Noted (P : Type) where
  port : P
  notes : List Note := []

namespace Noted

variable {P : Type} [Port P]

instance : Port (Noted P) where
  read p :=
    let (result, port) := Port.read p.port
    (result, { p with port })
  write bytes p :=
    let (result, port) := Port.write bytes p.port
    (result, { port, notes := p.notes ++ [⟨bytes, result.isOk⟩] })
  now p := Port.now p.port
  readsBefore p := Port.readsBefore p.port
  burst p := Port.burst p.port

theorem journals : Journals (P := Noted P) notes where
  read _ := rfl
  write _ _ := rfl

end Noted

end DoorControl.Serial
