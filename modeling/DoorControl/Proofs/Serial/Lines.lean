/- Reply lines in a byte stream: however the stream is cut, the buffer finds the same first reply. -/
import DoorControl.Serial.LineBuffer

namespace DoorControl.Serial

theorem splitLine?_append {line : List UInt8} (h : newline ∉ line) (rest : List UInt8) :
    splitLine? (line ++ newline :: rest) = some (line, rest) := by
  induction line with
  | nil => simp [splitLine?]
  | cons b bs ih =>
      obtain ⟨hb, hbs⟩ : ¬newline = b ∧ newline ∉ bs := by simpa using h
      simp [splitLine?, Ne.symm hb, ih hbs]

theorem splitLine?_some {s line rest : List UInt8} (h : splitLine? s = some (line, rest)) :
    newline ∉ line ∧ s = line ++ newline :: rest := by
  induction s generalizing line with
  | nil => simp [splitLine?] at h
  | cons b bs ih =>
      by_cases hb : b = newline
      · obtain ⟨rfl, rfl⟩ : [] = line ∧ bs = rest := by simpa [splitLine?, hb] using h
        exact ⟨List.not_mem_nil, congrArg (· :: bs) hb⟩
      · obtain ⟨line, hs, rfl⟩ : ∃ l, splitLine? bs = some (l, rest) ∧ b :: l = line := by
          simpa [splitLine?, hb] using h
        obtain ⟨hl, hbs⟩ := ih hs
        exact ⟨by simp [Ne.symm hb, hl], congrArg (b :: ·) hbs⟩

/-- A line that a device sends, or the end of one, without its line end. -/
structure ReplyLine where
  raw : List UInt8
  oneLine : newline ∉ raw
  short : raw.length ≤ maxLineLength

namespace ReplyLine

/-- What is left of a line of which some bytes have come in. -/
def drop (n : Nat) (line : ReplyLine) : ReplyLine where
  raw := line.raw.drop n
  oneLine h := line.oneLine (List.mem_of_mem_drop h)
  short := by simpa using Nat.le_trans (Nat.sub_le _ n) line.short

/-- The text of the line to someone who waits for the reply to `command`, unless the line is no reply
to them: an empty one, an echo or a debug message. -/
def replyTo? (command : String) (line : ReplyLine) : Option String :=
  match LineKind.of (lineText line.raw) command with
  | .reply text => some text
  | .empty | .debug _ | .echo => none

/-- The bytes of lines, each with its line end. -/
def stream : List ReplyLine → List UInt8
  | [] => []
  | line :: rest => line.raw ++ newline :: stream rest

def firstReply? (command : String) (lines : List ReplyLine) : Option String :=
  lines.findSome? (replyTo? command)

/-- A line gives the first reply exactly if it is one and no line before it gives another. -/
theorem replyTo?_eq_iff {command reply : String} {ahead behind : List ReplyLine} {line : ReplyLine}
    (h : firstReply? command (ahead ++ line :: behind) = some reply) :
    line.replyTo? command = some reply ↔ (line.replyTo? command).isSome ∧
      ∀ other, firstReply? command ahead = some other → line.replyTo? command = some other := by
  unfold firstReply? at h ⊢
  rw [List.findSome?_append, List.findSome?_cons] at h
  cases hline : line.replyTo? command with
  | none => simp
  | some text =>
      rw [hline] at h
      cases hahead : ahead.findSome? (replyTo? command) with
      | none => simpa [hahead] using h
      | some other =>
          obtain rfl : other = reply := by simpa [hahead] using h
          simp

theorem stream_eq_nil {lines : List ReplyLine} : stream lines = [] ↔ lines = [] := by
  cases lines <;> simp [stream]

/-- The first line of a stream is its first whole line, wherever the bytes are cut. -/
theorem stream_split {lines : List ReplyLine} {bytes line rest later : List UInt8}
    (h : bytes ++ later = stream lines) (hs : splitLine? bytes = some (line, rest)) :
    ∃ first others, lines = first :: others ∧ first.raw = line ∧ rest ++ later = stream others := by
  obtain ⟨hline, rfl⟩ := splitLine?_some hs
  cases lines with
  | nil => simp [stream] at h
  | cons first others =>
      have hfirst := splitLine?_append first.oneLine (stream others)
      have hbytes := splitLine?_append hline (rest ++ later)
      rw [show first.raw ++ newline :: stream others = line ++ newline :: (rest ++ later) by
        simpa [stream] using h.symm, hbytes] at hfirst
      obtain ⟨rfl, hrest⟩ : line = first.raw ∧ rest ++ later = stream others := by
        simpa using hfirst
      exact ⟨first, others, rfl, rfl, hrest⟩

/-- The beginning of a line is no longer than a line may be. -/
theorem stream_begin {lines : List ReplyLine} {bytes later : List UInt8}
    (h : bytes ++ later = stream lines) (hb : newline ∉ bytes) : bytes.length ≤ maxLineLength := by
  cases lines with
  | nil =>
      have : bytes = [] := (List.append_eq_nil_iff.mp h).1
      simp [this]
  | cons first others =>
      refine Nat.le_trans (Nat.le_of_not_lt fun hlong => ?_) first.short
      have hend : (bytes ++ later)[first.raw.length]? = some newline := by
        simp [h, stream]
      rw [List.getElem?_append_left hlong] at hend
      exact hb (List.mem_of_getElem? hend)

end ReplyLine

namespace LineBuffer

open ReplyLine

variable {command reply : String} {lines : List ReplyLine} {b b' : LineBuffer} {later : List UInt8}

/-- Nothing of such lines is dropped for its length. -/
theorem feed_bytes {chunk : List UInt8} (h : b.bytes ++ chunk ++ later = stream lines) :
    (b.feed chunk).bytes = b.bytes ++ chunk := by
  unfold feed
  dsimp only
  split
  · next hlong => exact absurd (stream_begin h hlong.2) (by omega)
  · rfl

theorem next?_eq_some_iff {text : String} :
    b.next? = some (text, b') ↔ ∃ raw, splitLine? b.bytes = some (raw, b'.bytes) ∧ lineText raw = text := by
  obtain ⟨rest⟩ := b'
  simp [next?]

theorem next?_some {text : String} (hn : b.next? = some (text, b'))
    (h : b.bytes ++ later = stream lines) :
    ∃ first others, lines = first :: others ∧ text = lineText first.raw ∧
      b'.bytes ++ later = stream others := by
  obtain ⟨raw, hs, rfl⟩ := next?_eq_some_iff.mp hn
  obtain ⟨first, others, rfl, rfl, hrest⟩ := stream_split h hs
  exact ⟨first, others, rfl, rfl, hrest⟩

/-- A reply taken from the buffer is the first one in the stream. -/
theorem takeReplyWithin_some {n : Nat} (ht : takeReplyWithin command n b = (some reply, b'))
    (h : b.bytes ++ later = stream lines) :
    firstReply? command lines = some reply ∧
      ∃ rest, rest.length < lines.length ∧ b'.bytes ++ later = stream rest := by
  induction n generalizing b lines with
  | zero => simp [takeReplyWithin] at ht
  | succ n ih =>
      unfold takeReplyWithin at ht
      cases hn : b.next? with
      | none => simp [hn] at ht
      | some found =>
          obtain ⟨text, b₁⟩ := found
          obtain ⟨first, others, rfl, rfl, hrest⟩ := next?_some hn h
          rw [hn] at ht
          cases hk : LineKind.of (lineText first.raw) command with
          | reply text =>
              simp only [hk, Prod.mk.injEq, Option.some.injEq] at ht
              obtain ⟨rfl, rfl⟩ := ht
              exact ⟨by simp [firstReply?, replyTo?, hk], others, Nat.lt_succ_self _, hrest⟩
          | _ =>
              simp only [hk] at ht
              obtain ⟨hreply, rest, hlength, hbytes⟩ := ih ht hrest
              refine ⟨?_, rest, Nat.lt_succ_of_lt hlength, hbytes⟩
              simpa [firstReply?, replyTo?, hk] using hreply

/-- Without a reply in the buffer the first one is still to come. -/
theorem takeReplyWithin_none {n : Nat} (ht : takeReplyWithin command n b = (none, b'))
    (h : b.bytes ++ later = stream lines) :
    ∃ rest, rest.length ≤ lines.length ∧
      firstReply? command rest = firstReply? command lines ∧ b'.bytes ++ later = stream rest := by
  induction n generalizing b lines with
  | zero =>
      obtain rfl : b = b' := by simpa [takeReplyWithin] using ht
      exact ⟨lines, Nat.le_refl _, rfl, h⟩
  | succ n ih =>
      unfold takeReplyWithin at ht
      cases hn : b.next? with
      | none =>
          obtain rfl : b = b' := by simpa [hn] using ht
          exact ⟨lines, Nat.le_refl _, rfl, h⟩
      | some found =>
          obtain ⟨text, b₁⟩ := found
          obtain ⟨first, others, rfl, rfl, hrest⟩ := next?_some hn h
          rw [hn] at ht
          cases hk : LineKind.of (lineText first.raw) command with
          | reply text => simp [hk] at ht
          | _ =>
              simp only [hk] at ht
              obtain ⟨rest, hlength, hreply, hbytes⟩ := ih ht hrest
              refine ⟨rest, Nat.le_succ_of_le hlength, ?_, hbytes⟩
              simpa [firstReply?, replyTo?, hk] using hreply

end LineBuffer

end DoorControl.Serial
