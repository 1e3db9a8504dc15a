/- The reply that an exchange returns: the first line that is one among those that come in behind the command,
whatever the chunks are in which they come. -/
import DoorControl.Proofs.Serial.Assembly
import DoorControl.Proofs.Text.Hexadecimal
import DoorControl.Serial.Link
import DoorControl.Serial.Script

namespace DoorControl.Serial

/-- A line that answers a command: a text that is neither debug output nor the command itself. -/
def Replies (command : String) (raw : List UInt8) (reply : String) : Prop :=
  ∃ line, ReadsAs raw line ∧ reply = Text.trimmed line ∧ reply ≠ "" ∧
    ¬"DEBUG".toList <+: reply.toList ∧ reply ≠ Text.trimmed command

/-- The reply in the bytes of a line. -/
def replyIn? (command : String) (raw : List UInt8) : Option String :=
  match LineKind.of (lineText raw) command with
  | .reply text => some text
  | .empty | .debug _ | .echo => none

section Replies

variable {command reply line : String} {raw : List UInt8}

theorem kind_eq_reply_iff : LineKind.of line command = .reply reply ↔ reply = Text.trimmed line ∧
    reply ≠ "" ∧ ¬"DEBUG".toList <+: reply.toList ∧ reply ≠ Text.trimmed command := by
  unfold LineKind.of Text.trimmed
  generalize Text.trim line.toList = text
  generalize Text.trim command.toList = sent
  simp only [Text.after?_isSome_iff, List.isEmpty_iff]
  constructor
  · intro kind
    split at kind
    · cases kind
    · next some' =>
      split at kind
      · cases kind
      · next plain =>
        split at kind
        · cases kind
        · next other =>
          cases kind
          exact ⟨rfl, by simpa using some', by simpa using plain, by simpa [String.ofList_inj] using other⟩
  · rintro ⟨rfl, some', plain, other⟩
    rw [if_neg (by simpa using some'), if_neg (by simpa using plain),
      if_neg (by simpa [String.ofList_inj] using other)]

theorem replyIn?_eq_some_iff : replyIn? command raw = some reply ↔ Replies command raw reply := by
  have kind : replyIn? command raw = some reply ↔ LineKind.of (lineText raw) command = .reply reply := by
    unfold replyIn?
    split <;> simp_all
  rw [kind, kind_eq_reply_iff]
  constructor
  · intro h
    exact ⟨lineText raw, readsAs_iff.mpr rfl, h⟩
  · rintro ⟨line, reads, h⟩
    rwa [readsAs_iff.mp reads]

end Replies

namespace LineBuffer

variable {command : String} {b : LineBuffer}

/-- The first reply among the lines that wait is taken. Without one they are all gone. -/
theorem takeReply_eq (command : String) (b : LineBuffer) :
    (b.takeReply command).1 = b.waiting.findSome? (replyIn? command) ∧
      (b.waiting.findSome? (replyIn? command) = none → (b.takeReply command).2 = ⟨b.begun⟩) := by
  -- Every line that is taken shortens the buffer, so that there are enough attempts for all of them.
  have take (n : Nat) (b : LineBuffer) (enough : b.bytes.length ≤ n) :
      (takeReplyWithin command n b).1 = b.waiting.findSome? (replyIn? command) ∧
        (b.waiting.findSome? (replyIn? command) = none → (takeReplyWithin command n b).2 = ⟨b.begun⟩) := by
    induction n generalizing b with
    | zero =>
        obtain ⟨bytes⟩ := b
        obtain rfl : bytes = [] := List.length_eq_zero_iff.mp (Nat.le_zero.mp enough)
        exact ⟨rfl, fun _ => rfl⟩
    | succ n ih =>
        unfold takeReplyWithin
        cases next : b.next? with
        | none =>
            have held : newline ∉ b.bytes := splitLine?_eq_none_iff.mp (by simpa [next?] using next)
            rw [waiting_eq_nil_iff.mpr held, begun_eq_self held]
            exact ⟨rfl, fun _ => rfl⟩
        | some found =>
            obtain ⟨line, b'⟩ := found
            obtain ⟨raw, split, rfl, waits, begun⟩ := next?_eq_some next
            have fewer : b'.bytes.length ≤ n := by
              rw [(splitLine?_some split).2, List.length_append, List.length_cons] at enough
              omega
            dsimp only
            rw [waits, List.findSome?_cons]
            cases kind : LineKind.of (lineText raw) command with
            | reply text =>
                have here : replyIn? command raw = some text := by rw [replyIn?, kind]
                rw [here]
                exact ⟨rfl, fun absent => by cases absent⟩
            | empty | debug | echo =>
                have here : replyIn? command raw = none := by rw [replyIn?, kind]
                rw [here, ← begun]
                exact ih b' fewer
  exact take _ b (Nat.le_refl _)

end LineBuffer

abbrev Reading := Except PortFault (List UInt8)

def readings {P : Type} [Port P] : Nat → P → List Reading
  | 0, _ => []
  | n + 1, p => (Port.read p).1 :: readings n (Port.read p).2

/-- The bytes that come in before a read fails. -/
def arrived : List Reading → List UInt8
  | [] => []
  | .ok bytes :: rs => bytes ++ arrived rs
  | .error f :: rs => if f.isIdle then arrived rs else []

/-- How waiting for a reply that does not come ends. -/
def noReply (command : String) (timeout : Nat) : List Reading → DeviceError
  | [] => .timeout command timeout
  | .ok _ :: rs => noReply command timeout rs
  | .error f :: rs => if f.isIdle then noReply command timeout rs else .port f

/-- What the reads lead to while a line has begun that is not whole yet. -/
def respond (command : String) (timeout : Nat) : (begun : List UInt8) → List Reading → Except DeviceError String
  | _, [] => .error (.timeout command timeout)
  | begun, .error f :: rs => if f.isIdle then respond command timeout begun rs else .error (.port f)
  | begun, .ok [] :: rs => respond command timeout begun rs
  | begun, .ok (b :: bs) :: rs => match (wholeLines begun (b :: bs)).findSome? (replyIn? command) with
      | some reply => .ok reply
      | none => respond command timeout (LineBuffer.feed ⟨begun⟩ (b :: bs)).begun rs

variable {command reply : String} {timeout : Nat} {begun lost raw : List UInt8} {rs : List Reading}

section Link

variable {P : Type} [Port P]

/-- Waiting takes the lines that are there, and then those that the reads complete. -/
theorem awaitReply_eq (command : String) (timeout n : Nat) (l : Link P) :
    (Link.awaitReply command timeout n l).1 = match l.lines.waiting.findSome? (replyIn? command) with
      | some reply => .ok reply
      | none => respond command timeout l.lines.begun (readings n l.port) := by
  induction n generalizing l with
  | zero =>
      obtain ⟨found, -⟩ := l.lines.takeReply_eq command
      unfold Link.awaitReply
      rw [← found]
      cases l.lines.takeReply command with
      | mk found lines => cases found <;> rfl
  | succ n ih =>
      obtain ⟨found, left⟩ := l.lines.takeReply_eq command
      unfold Link.awaitReply
      cases taken : l.lines.takeReply command with
      | mk found' lines =>
          rw [taken] at found left
          dsimp only at found
          rw [← found]
          cases found' with
          | some reply => rfl
          | none =>
              obtain rfl : lines = ⟨l.lines.begun⟩ := left found.symm
              have begun : (⟨l.lines.begun⟩ : LineBuffer).begun = l.lines.begun :=
                LineBuffer.begun_eq_self l.lines.newline_notMem_begun
              have held : (⟨l.lines.begun⟩ : LineBuffer).waiting = [] :=
                LineBuffer.waiting_eq_nil_iff.mpr l.lines.newline_notMem_begun
              dsimp only
              rw [readings]
              cases read : Port.read l.port with
              | mk result p =>
                  match result with
                  | .error f =>
                      dsimp only
                      rw [respond]
                      split
                      · rw [ih, held, begun]
                        rfl
                      · rfl
                  | .ok [] =>
                      dsimp only
                      rw [respond, ih, held, begun]
                      rfl
                  | .ok (b :: bs) =>
                      dsimp only
                      rw [respond, ih, LineBuffer.waiting_feed, held, begun]
                      rfl

end Link

section Origin

/-- Nothing has been lost of a line, or more than a line can have. -/
def Dropped (lost : List UInt8) : Prop := lost = [] ∨ maxLineLength < lost.length

/-- After a chunk, the buffer holds what has come in of a line, apart from what has been dropped of it. -/
theorem begun_after_feed (lost : List UInt8) (open' : newline ∉ begun) (chunk : List UInt8)
    (dropped : Dropped lost) : ∃ lost', Dropped lost' ∧
      unfinished (lost ++ begun) chunk = lost' ++ (LineBuffer.feed ⟨begun⟩ chunk).begun := by
  have held : (⟨begun⟩ : LineBuffer).begun = begun := LineBuffer.begun_eq_self open'
  rw [LineBuffer.begun_feed, held]
  split
  · next long =>
    have ended : newline ∉ chunk := fun mem => long.2 (List.mem_append_right _ mem)
    refine ⟨lost ++ begun ++ chunk, .inr ?_, by rw [unfinished_open ended]; simp⟩
    rw [List.append_assoc, List.length_append]
    exact Nat.lt_add_left _ long.1
  · by_cases ended : newline ∈ chunk
    · exact ⟨[], .inl rfl, by rw [unfinished_ended ended, unfinished_ended ended begun]; rfl⟩
    · exact ⟨lost, dropped, by rw [unfinished_open ended, unfinished_open ended, List.append_assoc]⟩

/-- A reply comes from what has arrived: it is a line of it, or the end of one of which too much has come in to be
kept. -/
theorem respond_ok (dropped : Dropped lost) (open' : newline ∉ begun)
    (h : respond command timeout begun rs = .ok reply) : ∃ lost' raw,
      lost' ++ raw ∈ wholeLines (lost ++ begun) (arrived rs) ∧ Dropped lost' ∧ Replies command raw reply := by
  -- Of the line that has come in so far, `lost ++ begun`, only `begun` is held.
  induction rs generalizing begun lost with
  | nil => cases h
  | cons r rs ih =>
      match r with
      | .error f =>
          rw [respond] at h
          rw [arrived]
          split at h
          · next idle =>
            rw [if_pos idle]
            exact ih dropped open' h
          · cases h
      | .ok [] =>
          rw [respond] at h
          exact ih dropped open' h
      | .ok (b :: bs) =>
          rw [respond] at h
          rw [arrived, wholeLines_unfinished]
          split at h
          · next found =>
            cases h
            obtain ⟨raw, mem, replies⟩ := List.exists_of_findSome?_eq_some found
            rw [replyIn?_eq_some_iff] at replies
            obtain whole | cut := wholeLines_prepend lost mem
            · exact ⟨[], raw, List.mem_append_left _ whole, .inl rfl, replies⟩
            · exact ⟨lost, raw, List.mem_append_left _ cut, dropped, replies⟩
          · obtain ⟨lost', dropped', begun'⟩ := begun_after_feed lost open' (b :: bs) dropped
            obtain ⟨lost'', raw, mem, rest⟩ := ih dropped' (LineBuffer.newline_notMem_begun _) h
            exact ⟨lost'', raw, List.mem_append_right _ (begun' ▸ mem), rest⟩

end Origin

section Limit

/-- No line is too long up to the first reply, and if there is none, what is left behind the lines is not either. -/
def LimitedUntil (command : String) (left : List UInt8) : List (List UInt8) → Prop
  | [] => left.length ≤ maxLineLength
  | raw :: lines => raw.length ≤ maxLineLength ∧ (replyIn? command raw = none → LimitedUntil command left lines)

theorem LimitedUntil.after {left : List UInt8} {lines lines' : List (List UInt8)}
    (h : LimitedUntil command left (lines ++ lines')) (none' : lines.findSome? (replyIn? command) = none) :
    LimitedUntil command left lines' := by
  induction lines with
  | nil => exact h
  | cons raw lines ih =>
      obtain ⟨first, others⟩ := List.forall_mem_cons.mp (List.findSome?_eq_none_iff.mp none')
      exact ih (h.2 first) (List.findSome?_eq_none_iff.mpr others)

theorem LimitedUntil.begun_le {bs : List UInt8}
    (h : LimitedUntil command (unfinished begun bs) (wholeLines begun bs)) : begun.length ≤ maxLineLength := by
  induction bs generalizing begun with
  | nil => exact h
  | cons b bs ih =>
      rw [unfinished, wholeLines] at h
      split at h
      · exact h.1
      · have longer := ih h
        rw [List.length_append] at longer
        omega

/-- If no line is too long for the buffer, the outcome depends on the bytes that arrive and on how the reads end. -/
theorem respond_eq (open' : newline ∉ begun)
    (limited : LimitedUntil command (unfinished begun (arrived rs)) (wholeLines begun (arrived rs))) :
    respond command timeout begun rs =
      match (wholeLines begun (arrived rs)).findSome? (replyIn? command) with
      | some reply => .ok reply
      | none => .error (noReply command timeout rs) := by
  induction rs generalizing begun with
  | nil => rfl
  | cons r rs ih =>
      match r with
      | .error f =>
          rw [arrived] at limited ⊢
          rw [respond, noReply]
          by_cases idle : f.isIdle
          · rw [if_pos idle] at limited
            simp only [if_pos idle]
            exact ih open' limited
          · simp only [if_neg idle]
            rfl
      | .ok [] =>
          exact ih open' limited
      | .ok (b :: bs) =>
          rw [arrived, wholeLines_unfinished, unfinished_append] at limited
          rw [respond, noReply, arrived, wholeLines_unfinished, List.findSome?_append]
          cases found : (wholeLines begun (b :: bs)).findSome? (replyIn? command) with
          | some reply => rfl
          | none =>
              have later := limited.after found
              have held : (⟨begun⟩ : LineBuffer).begun = begun := LineBuffer.begun_eq_self open'
              -- Input that is dropped would be the beginning of a line that is too long.
              have kept : (LineBuffer.feed ⟨begun⟩ (b :: bs)).begun = unfinished begun (b :: bs) := by
                rw [LineBuffer.begun_feed, held, if_neg]
                rintro ⟨long, ended⟩
                have short := later.begun_le
                rw [unfinished_open fun mem => ended (List.mem_append_right _ mem)] at short
                exact absurd short (Nat.not_le.mpr long)
              rw [Option.none_or, kept]
              exact ih (newline_notMem_unfinished open') later

variable {skipped : List (List UInt8)} {rest bytes : List UInt8}

theorem limitedUntil_append {left : List UInt8} {lines : List (List UInt8)}
    (h : ∀ line ∈ skipped, newline ∉ line) (short : KeepsLimit (skipped.flatMap (· ++ [newline])))
    (later : LimitedUntil command left lines) : LimitedUntil command left (skipped ++ lines) := by
  induction skipped with
  | nil => exact later
  | cons line skipped ih =>
      obtain ⟨open', others⟩ := List.forall_mem_cons.mp h
      rw [List.flatMap_cons] at short
      have first : line <:+: (line ++ [newline]) ++ skipped.flatMap (· ++ [newline]) := ⟨[], _, by simp; rfl⟩
      refine ⟨short line first open', fun _ => ih others (short.of_infix (List.suffix_append _ _).isInfix)⟩

theorem limitedUntil_of_keepsLimit (h : KeepsLimit bytes) :
    LimitedUntil command (unfinished [] bytes) (wholeLines [] bytes) := by
  have whole := flatMap_wholeLines [] bytes
  rw [List.nil_append] at whole
  rw [← List.append_nil (wholeLines [] bytes)]
  refine limitedUntil_append (newline_notMem_wholeLines List.not_mem_nil) (h.of_infix ?_) ?_
  · exact ⟨[], _, whole⟩
  · exact h _ (unfinished_suffix [] bytes).isInfix (newline_notMem_unfinished List.not_mem_nil)

/-- The first line in a stream that replies to a command, no line being too long up to it. -/
def FirstReply (command : String) (bytes : List UInt8) (reply : String) : Prop :=
  ∃ (skipped : List (List UInt8)) (raw rest : List UInt8),
    bytes = skipped.flatMap (· ++ [newline]) ++ raw ++ newline :: rest ∧
    (∀ line ∈ skipped, newline ∉ line ∧ ∀ other, ¬Replies command line other) ∧
    newline ∉ raw ∧ Replies command raw reply ∧ KeepsLimit (skipped.flatMap (· ++ [newline]) ++ raw)

theorem replyIn?_eq_none_iff : replyIn? command raw = none ↔ ∀ reply, ¬Replies command raw reply := by
  simp only [← replyIn?_eq_some_iff, Option.eq_none_iff_forall_ne_some, ne_eq]

theorem FirstReply.found (h : FirstReply command bytes reply) :
    (wholeLines [] bytes).findSome? (replyIn? command) = some reply ∧
      LimitedUntil command (unfinished [] bytes) (wholeLines [] bytes) := by
  obtain ⟨skipped, raw, rest, rfl, others, open', replies, limit⟩ := h
  have here := replyIn?_eq_some_iff.mpr replies
  have before : skipped.findSome? (replyIn? command) = none :=
    List.findSome?_eq_none_iff.mpr fun line mem => replyIn?_eq_none_iff.mpr (others line mem).2
  have opens : ∀ line ∈ skipped, newline ∉ line := fun line mem => (others line mem).1
  rw [List.append_assoc, wholeLines_flatMap opens, wholeLines_line open']
  constructor
  · rw [List.findSome?_append, before, Option.none_or, List.nil_append, List.findSome?_cons, here]
  · refine limitedUntil_append opens (limit.of_infix (List.prefix_append _ _).isInfix) ⟨?_, ?_⟩
    · exact limit _ (List.suffix_append _ _).isInfix open'
    · intro absent
      rw [List.nil_append, here] at absent
      cases absent

end Limit

section Exchange

variable {P : Type} [Port P] {l : Link P}

/-- A command is sent over a link, and these are the reads that end before its time is up. -/
def Link.Listens (l : Link P) (command : String) (timeout : Nat) (rs : List Reading) : Prop :=
  ∃ stale l₁ l₂, l.readAvailable = (.ok stale, l₁) ∧
    Link.send command { l₁ with lines := {} } = (.ok (), l₂) ∧
    rs = readings (Port.readsBefore l₂.port (Port.now l₂.port + timeout)) l₂.port

theorem send_lines (l : Link P) : (l.send command).2.lines = l.lines := by
  unfold Link.send
  split <;> rfl

theorem exchange_eq_respond (listens : l.Listens command timeout rs) :
    (l.exchange command timeout).1 = respond command timeout [] rs := by
  obtain ⟨stale, l₁, l₂, read, sent, rfl⟩ := listens
  have empty : l₂.lines = {} := (congrArg (Link.lines ∘ Prod.snd) sent).symm.trans (send_lines _)
  unfold Link.exchange
  simp only [read, sent]
  rw [awaitReply_eq, empty]
  rfl

/-- What is left in the line buffer does not matter. -/
theorem exchange_lines (l : Link P) (lines : LineBuffer) (command : String) (timeout : Nat) :
    ({ l with lines }.exchange command timeout).1 = (l.exchange command timeout).1 := by
  unfold Link.exchange Link.readAvailable
  dsimp only
  cases (Link.readChunks (Port.burst l.port + 1) l.port).1 <;> rfl

theorem respond_noReply (command : String) (timeout : Nat) (begun : List UInt8) (rs : List Reading) :
    (∃ reply, respond command timeout begun rs = .ok reply) ∨
      respond command timeout begun rs = .error (noReply command timeout rs) := by
  induction rs generalizing begun with
  | nil => exact .inr rfl
  | cons r rs ih =>
      match r with
      | .error f =>
          rw [respond, noReply]
          split
          · exact ih begun
          · exact .inr rfl
      | .ok [] => exact ih begun
      | .ok (b :: bs) =>
          rw [respond, noReply]
          split
          · exact .inl ⟨_, rfl⟩
          · exact ih _

/-- An exchange returns the first reply among the lines that come in behind the command, whatever the reads are in
which they come and whatever the link held before. It returns nothing else, except for the end of a line that is
too long. -/
theorem exchange_gives_first_reply (listens : l.Listens command timeout rs) :
    (∀ reply, FirstReply command (arrived rs) reply → (l.exchange command timeout).1 = .ok reply) ∧
    ((∃ reply, (l.exchange command timeout).1 = .ok reply) ∨
      (l.exchange command timeout).1 = .error (noReply command timeout rs)) ∧
    (KeepsLimit (arrived rs) → (∀ raw ∈ wholeLines [] (arrived rs), ∀ reply, ¬Replies command raw reply) →
      (l.exchange command timeout).1 = .error (noReply command timeout rs)) ∧
    (∀ reply, (l.exchange command timeout).1 = .ok reply → ∃ lost raw,
      lost ++ raw ∈ wholeLines [] (arrived rs) ∧ Dropped lost ∧ Replies command raw reply) ∧
    (∀ lines, ({ l with lines }.exchange command timeout).1 = (l.exchange command timeout).1) ∧
    ∀ {Q : Type} [Port Q] (l' : Link Q) (rs' : List Reading), l'.Listens command timeout rs' →
      arrived rs' = arrived rs →
      (∃ reply, FirstReply command (arrived rs) reply) ∨
        KeepsLimit (arrived rs) ∧ noReply command timeout rs' = noReply command timeout rs →
      (l'.exchange command timeout).1 = (l.exchange command timeout).1 := by
  have first {rs : List Reading} {reply : String} (h : FirstReply command (arrived rs) reply) :
      respond command timeout [] rs = .ok reply := by
    obtain ⟨found, limited⟩ := h.found
    rw [respond_eq List.not_mem_nil limited, found]
  rw [exchange_eq_respond listens]
  refine ⟨fun _ => first, respond_noReply command timeout [] rs, fun limit none' => ?_, fun reply ok => ?_,
    fun lines => ?_, fun l' rs' listens' same settled => ?_⟩
  · have nothing : (wholeLines [] (arrived rs)).findSome? (replyIn? command) = none :=
      List.findSome?_eq_none_iff.mpr fun raw mem => replyIn?_eq_none_iff.mpr (none' raw mem)
    rw [respond_eq List.not_mem_nil (limitedUntil_of_keepsLimit limit), nothing]
  · exact respond_ok (.inl rfl) List.not_mem_nil ok
  · rw [exchange_lines, exchange_eq_respond listens]
  · rw [exchange_eq_respond listens']
    obtain ⟨reply, replies⟩ | ⟨limit, silent⟩ := settled
    · rw [first replies, first (same ▸ replies)]
    · have limited : LimitedUntil command _ _ := limitedUntil_of_keepsLimit limit
      rw [respond_eq List.not_mem_nil limited, respond_eq List.not_mem_nil (same ▸ limited), same, silent]

end Exchange

open Text (Utf8.encode)

/-- A line of debug output, the echo of a command and the reply to it, cut anywhere. A line that has been left in
the buffer of the link is no reply. -/
def cutReply : Link ScriptedPort where
  port := { incoming := [
    .data (Utf8.encode "OK: old\n"), .data (Utf8.encode "DEBUG pos"), .fault ScriptedPort.silence,
    .data (Utf8.encode " 12\r\n lo"), .data [], .data (Utf8.encode "ck\nOK: "),
    .data (Utf8.encode "locked\r\nOK"), .fault ⟨.brokenPipe, "gone"⟩] }
  lines := ⟨Utf8.encode "OK: older\n"⟩

theorem cutReply_returned :
    let rs := readings 7 { cutReply.port with incoming := cutReply.port.incoming.tail }
    cutReply.Listens "lock" 200 rs ∧ FirstReply "lock" (arrived rs) "OK: locked" ∧
      (cutReply.exchange "lock" 200).1 = .ok "OK: locked" := by
  intro rs
  have listens : cutReply.Listens "lock" 200 rs := ⟨_, _, _, rfl, rfl, rfl⟩
  have first : FirstReply "lock" (arrived rs) "OK: locked" := by
    refine ⟨[Utf8.encode "DEBUG pos 12\r", Utf8.encode " lock"], Utf8.encode "OK: locked\r", Utf8.encode "OK",
      by decide +kernel, ?_, by decide, replyIn?_eq_some_iff.mp (by decide +kernel),
      keepsLimit_of_short (by decide)⟩
    simp only [← replyIn?_eq_none_iff]
    decide +kernel
  exact ⟨listens, first, (exchange_gives_first_reply listens).1 _ first⟩

theorem debug_output_replies_nothing (command : String) (rest : List UInt8) (reply : String) :
    ¬Replies command (Utf8.encode "DEBUG" ++ rest) reply := by
  rintro ⟨line, reads, rfl, -, plain, -⟩
  have bytes : Utf8.encode "DEBUG" = Text.ascii "DEBUG".toList := by decide
  have word : "DEBUG".toList.filter (fun c => !Text.isControl c) = "DEBUG".toList := by decide
  have begins := Text.trim_lead (List.forall_mem_nil _) (by decide : "DEBUG".toList ≠ []) (by simp [Text.isBlank])
    ((Text.Utf8.decode rest).filter fun c => !Text.isControl c)
  have trims : "DEBUG".toList <+: Text.trim line.toList := by
    rw [← readsAs_iff.mp reads, lineText, bytes, Text.decode_ascii (by simp), List.filter_append, word]
    exact ⟨_, begins.symm.trans (congrArg Text.trim String.toList_ofList.symm)⟩
  have shown : (Text.trimmed line).toList = Text.trim line.toList := String.toList_ofList
  rw [shown] at plain
  exact plain trims

/-- A line of debug output that is longer than a line can be, in reads of 64 bytes, and a reply at its end. -/
def longDebugLine : ScriptedPort where
  incoming := .fault ScriptedPort.silence :: .data (Utf8.encode "DEBUG" ++ List.replicate 59 121) ::
    List.replicate 16 (.data (List.replicate 64 121)) ++ [.data (Utf8.encode "OK: locked\r\n")]

/-- The beginning of the line is dropped, and the end of it is returned though no line is a reply. -/
theorem end_of_debug_line_returned :
    let rs := readings 35 { longDebugLine with incoming := longDebugLine.incoming.tail }
    Link.Listens { port := longDebugLine } "lock" 200 rs ∧
      (∀ raw ∈ wholeLines [] (arrived rs), ∀ reply, ¬Replies "lock" raw reply) ∧
      (Link.exchange "lock" 200 { port := longDebugLine }).1 = .ok "OK: locked" := by
  intro rs
  refine ⟨⟨_, _, _, rfl, rfl, rfl⟩, ?_, ?_⟩
  · have whole : arrived rs = (Utf8.encode "DEBUG" ++
        (List.replicate 1083 121 ++ Utf8.encode "OK: locked\r")) ++ newline :: [] := by decide +kernel
    rw [whole, wholeLines_line (by decide +kernel)]
    exact List.forall_mem_singleton.mpr (debug_output_replies_nothing "lock" _)
  · decide +kernel

end DoorControl.Serial
