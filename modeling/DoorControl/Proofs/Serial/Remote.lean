/- A device at the other end of the line that answers every command line with one reply line, whenever it
likes and in any pieces. -/
import DoorControl.Proofs.Serial.Lines
import DoorControl.Serial.Link

namespace DoorControl.Serial

/-- How a device and the line to it behave. -/
structure Device where
  /-- The answer to a command line, given the lines heard before. -/
  answer : List (List UInt8) → List UInt8 → ReplyLine
  /-- How many of the lines still on their way come before the answer to the command with this number. -/
  lead : Nat → Nat
  /-- What the read with this number gives: so many of the bytes on their way, or a failure. -/
  reading : Nat → Except PortFault Nat
  /-- The time after so many reads. -/
  clock : Nat → Nat
  /-- After so many reads, how many more end before the given time. -/
  patience : Nat → Nat → Nat

/-- The state of the line to a device. -/
structure Remote (d : Device) where
  /-- Answers that have not been read, or not to their end. -/
  waiting : List ReplyLine := []
  /-- The command line being written. -/
  line : List UInt8 := []
  /-- The command lines heard so far. -/
  heard : List (List UInt8) := []
  /-- The reads so far. -/
  reads : Nat := 0

/-- The first `n` bytes of lines, and the lines after them. -/
def deliver : Nat → List ReplyLine → List UInt8 × List ReplyLine
  | _, [] => ([], [])
  | n, line :: rest =>
      if n ≤ line.raw.length then (line.raw.take n, line.drop n :: rest)
      else
        let (bytes, rest) := deliver (n - line.raw.length - 1) rest
        (line.raw ++ newline :: bytes, rest)

namespace Remote

variable {d : Device}

def read (r : Remote d) : Except PortFault (List UInt8) × Remote d :=
  let r' := { r with reads := r.reads + 1 }
  match d.reading r.reads with
  | .error f => (.error f, r')
  | .ok n =>
      let (bytes, waiting) := deliver (min n readChunk) r.waiting
      (.ok bytes, { r' with waiting })

/-- The answer to `command`, should the device hear it next. -/
def answerTo (r : Remote d) (command : List UInt8) : ReplyLine := d.answer r.heard command

/-- The lines on their way that come before the answer to the next command, and those after it. -/
def ahead (r : Remote d) : List ReplyLine := r.waiting.take (d.lead r.heard.length)

def behind (r : Remote d) : List ReplyLine := r.waiting.drop (d.lead r.heard.length)

/-- The device hears a command line and puts its answer on the way. -/
def hear (command : List UInt8) (r : Remote d) : Remote d :=
  { r with
    waiting := r.ahead ++ r.answerTo command :: r.behind
    line := []
    heard := r.heard ++ [command] }

def writeByte (r : Remote d) (b : UInt8) : Remote d :=
  if b = newline then r.hear r.line else { r with line := r.line ++ [b] }

instance : Port (Remote d) where
  read := read
  write bytes r := (.ok (), bytes.foldl writeByte r)
  now r := d.clock r.reads
  readsBefore r deadline := d.patience r.reads deadline
  burst r := (ReplyLine.stream r.waiting).length

end Remote

open ReplyLine

theorem deliver_stream (n : Nat) (lines : List ReplyLine) :
    (deliver n lines).1 ++ stream (deliver n lines).2 = stream lines := by
  induction lines generalizing n with
  | nil => simp [deliver, stream]
  | cons line rest ih =>
      unfold deliver
      split
      · simp [stream, ReplyLine.drop, ← List.append_assoc]
      · simpa [stream] using ih (n - line.raw.length - 1)

namespace Remote

variable {d : Device} {r r' : Remote d} {bytes : List UInt8} {f : PortFault}

/-- Reads lead from `r` to `r'`. -/
structure Later (r r' : Remote d) : Prop where
  line : r'.line = r.line
  heard : r'.heard = r.heard
  stream : ∃ bytes, bytes ++ stream r'.waiting = stream r.waiting

theorem Later.refl (r : Remote d) : Later r r := ⟨rfl, rfl, [], rfl⟩

theorem Later.trans {r r' r'' : Remote d} (h : Later r r') (h' : Later r' r'') : Later r r'' := by
  obtain ⟨first, hfirst⟩ := h.stream
  obtain ⟨second, hsecond⟩ := h'.stream
  refine ⟨h'.line.trans h.line, h'.heard.trans h.heard, first ++ second, ?_⟩
  rw [List.append_assoc, hsecond, hfirst]

theorem Later.waiting_eq_nil (h : Later r r') (hr : r.waiting = []) : r'.waiting = [] := by
  obtain ⟨bytes, hbytes⟩ := h.stream
  rw [hr] at hbytes
  exact stream_eq_nil.mp (List.append_eq_nil_iff.mp hbytes).2

theorem read_ok (h : Port.read r = (.ok bytes, r')) :
    r'.line = r.line ∧ r'.heard = r.heard ∧ bytes ++ stream r'.waiting = stream r.waiting := by
  change r.read = _ at h
  unfold read at h
  cases hr : d.reading r.reads with
  | error f => simp [hr] at h
  | ok n =>
      simp only [hr, Prod.mk.injEq, Except.ok.injEq] at h
      obtain ⟨rfl, rfl⟩ := h
      exact ⟨rfl, rfl, deliver_stream _ _⟩

theorem read_error (h : Port.read r = (.error f, r')) :
    r'.line = r.line ∧ r'.heard = r.heard ∧ r'.waiting = r.waiting := by
  change r.read = _ at h
  unfold read at h
  cases hr : d.reading r.reads with
  | error g =>
      simp only [hr, Prod.mk.injEq] at h
      obtain ⟨-, rfl⟩ := h
      exact ⟨rfl, rfl, rfl⟩
  | ok n => simp [hr] at h

theorem read_later (r : Remote d) : Later r (Port.read r).2 := by
  cases h : Port.read r with
  | mk result r' =>
      cases result with
      | error f =>
          obtain ⟨hline, hheard, hwaiting⟩ := read_error h
          exact ⟨hline, hheard, [], congrArg stream hwaiting⟩
      | ok bytes =>
          obtain ⟨hline, hheard, hstream⟩ := read_ok h
          exact ⟨hline, hheard, bytes, hstream⟩

theorem writeBytes (h : newline ∉ bytes) :
    bytes.foldl writeByte r = { r with line := r.line ++ bytes } := by
  induction bytes generalizing r with
  | nil => simp
  | cons b bs ih =>
      obtain ⟨hb, hbs⟩ : ¬newline = b ∧ newline ∉ bs := by simpa using h
      rw [List.foldl_cons, ih hbs]
      simp [writeByte, Ne.symm hb]

end Remote

end DoorControl.Serial
