/- Lines out of a byte stream, however it is cut into chunks and whenever lines are taken: which lines there are,
and how long they can be. -/
import DoorControl.Proofs.Serial.Collecting
import DoorControl.Proofs.Text.Decoding
import Mathlib.Data.List.Forall2
import Mathlib.Data.List.Infix

namespace DoorControl.Serial

/-- A line as it is read: the text of its bytes without the control characters. -/
def ReadsAs (raw : List UInt8) (line : String) : Prop :=
  ∃ text, Text.Utf8.Reads raw text ∧ line = String.ofList (text.filter fun c => !Text.isControl c)

theorem readsAs_iff {raw : List UInt8} {line : String} : ReadsAs raw line ↔ lineText raw = line := by
  simp only [ReadsAs, Text.Utf8.reads_iff]
  constructor
  · rintro ⟨text, rfl, rfl⟩
    rfl
  · rintro rfl
    exact ⟨_, rfl, rfl⟩

section Lines

variable {begun bs raw : List UInt8}

theorem unfinished_suffix (begun bs : List UInt8) : unfinished begun bs <:+ begun ++ bs := by
  induction bs generalizing begun with
  | nil => simp [unfinished]
  | cons b bs ih =>
      rw [unfinished]
      split
      · exact (ih []).trans ⟨begun ++ [b], by simp⟩
      · simpa using ih (begun ++ [b])

/-- A stream is its whole lines, each with its line end, and what comes behind the last. -/
theorem flatMap_wholeLines (begun bs : List UInt8) :
    (wholeLines begun bs).flatMap (· ++ [newline]) ++ unfinished begun bs = begun ++ bs := by
  induction bs generalizing begun with
  | nil => simp [wholeLines, unfinished]
  | cons b bs ih =>
      rw [wholeLines, unfinished]
      split
      · next hb =>
        subst hb
        rw [List.flatMap_cons, List.append_assoc, ih]
        simp
      · rw [ih]
        simp

theorem wholeLines_flatMap {lines : List (List UInt8)} (h : ∀ line ∈ lines, newline ∉ line) (rest : List UInt8) :
    wholeLines [] (lines.flatMap (· ++ [newline]) ++ rest) = lines ++ wholeLines [] rest := by
  induction lines with
  | nil => rfl
  | cons line lines ih =>
      obtain ⟨open', others⟩ := List.forall_mem_cons.mp h
      rw [List.flatMap_cons, List.append_assoc, List.append_assoc, List.singleton_append,
        wholeLines_line open', ih others]
      rfl

theorem newline_notMem_wholeLines (h : newline ∉ begun) : ∀ line ∈ wholeLines begun bs, newline ∉ line := by
  induction bs generalizing begun with
  | nil => simp [wholeLines]
  | cons b bs ih =>
      rw [wholeLines]
      split
      · exact List.forall_mem_cons.mpr ⟨h, ih List.not_mem_nil⟩
      · next hb => exact ih (by simp [h, Ne.symm hb])

theorem unfinished_ended (h : newline ∈ bs) (begun : List UInt8) :
    unfinished begun bs = unfinished [] bs := by
  obtain ⟨line, rest, rfl, open'⟩ := List.eq_append_cons_of_mem h
  rw [unfinished_line open', unfinished_line open']

theorem wholeLines_prepend (lost : List UInt8) (h : raw ∈ wholeLines begun bs) :
    raw ∈ wholeLines (lost ++ begun) bs ∨ lost ++ raw ∈ wholeLines (lost ++ begun) bs := by
  induction bs generalizing begun with
  | nil => cases h
  | cons b bs ih =>
      rw [wholeLines] at h ⊢
      split
      · next ended =>
        rw [if_pos ended] at h
        obtain rfl | later := List.mem_cons.mp h
        · exact .inr List.mem_cons_self
        · exact .inl (List.mem_cons_of_mem _ later)
      · next open' =>
        rw [if_neg open'] at h
        simpa using ih h

theorem length_wholeLine (h : raw ∈ wholeLines begun bs) : raw.length < begun.length + bs.length := by
  have all := congrArg List.length (flatMap_wholeLines begun bs)
  obtain ⟨before, after, split⟩ := List.append_of_mem h
  rw [split] at all
  simp only [List.flatMap_append, List.flatMap_cons, List.length_append, List.length_singleton] at all
  omega

end Lines

namespace LineBuffer

variable {b b' : LineBuffer} {chunk : List UInt8}

/-- The line that has begun in a buffer. -/
def begun (b : LineBuffer) : List UInt8 := unfinished [] b.bytes

/-- The bytes of the lines that wait in a buffer to be taken. -/
def waiting (b : LineBuffer) : List (List UInt8) := wholeLines [] b.bytes

theorem newline_notMem_begun (b : LineBuffer) : newline ∉ b.begun :=
  newline_notMem_unfinished List.not_mem_nil

theorem waiting_eq_nil_iff : b.waiting = [] ↔ newline ∉ b.bytes := by
  constructor
  · intro none mem
    obtain ⟨line, rest, split, open'⟩ := List.eq_append_cons_of_mem mem
    rw [waiting, split, wholeLines_line open'] at none
    cases none
  · exact fun open' => wholeLines_open open' []

theorem begun_eq_self (h : newline ∉ b.bytes) : b.begun = b.bytes :=
  (unfinished_open h []).trans (List.nil_append _)

/-- A chunk completes the same lines whether the input is dropped or not: what is dropped holds no line end. -/
theorem waiting_feed (b : LineBuffer) (chunk : List UInt8) :
    (b.feed chunk).waiting = b.waiting ++ wholeLines b.begun chunk := by
  rw [waiting, begun, waiting, ← wholeLines_unfinished]
  unfold feed
  dsimp only
  split
  · next dropped => exact (wholeLines_open dropped.2 []).symm
  · rfl

theorem begun_feed (b : LineBuffer) (chunk : List UInt8) : (b.feed chunk).begun =
    if maxLineLength < (b.bytes ++ chunk).length ∧ newline ∉ b.bytes ++ chunk then []
    else unfinished b.begun chunk := by
  rw [begun, begun, ← unfinished_append]
  unfold feed
  dsimp only
  split <;> rfl

theorem feed_kept (kept : newline ∈ b.bytes ++ chunk) : b.feed chunk = ⟨b.bytes ++ chunk⟩ := by
  unfold feed
  dsimp only
  rw [if_neg fun dropped => dropped.2 kept]

/-- A line that is taken is the first that waits. -/
theorem next?_eq_some {line : String} (h : b.next? = some (line, b')) :
    ∃ raw, splitLine? b.bytes = some (raw, b'.bytes) ∧ line = lineText raw ∧ b.waiting = raw :: b'.waiting ∧
      b'.begun = b.begun := by
  obtain ⟨raw, split, rfl⟩ := next?_eq_some_iff.mp h
  obtain ⟨open', eq⟩ := splitLine?_some split
  refine ⟨raw, split, rfl, ?_, ?_⟩
  · rw [waiting, eq, wholeLines_line open']
    rfl
  · rw [begun, begun, eq, unfinished_line open']

end LineBuffer

/-- What is done with a line buffer: a chunk comes in, or a line is taken if one waits. -/
inductive Use
  | feed (chunk : List UInt8)
  | take

/-- A line buffer with the lines that have been taken from it, each with the bytes before its line end. -/
structure Assembly where
  buffer : LineBuffer := {}
  taken : List (List UInt8 × String) := []

namespace Assembly

def step (a : Assembly) : Use → Assembly
  | .feed chunk => { a with buffer := a.buffer.feed chunk }
  | .take => match splitLine? a.buffer.bytes, a.buffer.next? with
      | some (raw, _), some (line, buffer) => { buffer, taken := a.taken ++ [(raw, line)] }
      | _, _ => a

/-- The bytes of the lines that have been taken, and of those that wait to be. -/
def lines (a : Assembly) : List (List UInt8) := a.taken.map Prod.fst ++ a.buffer.waiting

theorem lines_feed (a : Assembly) (chunk : List UInt8) :
    (a.step (.feed chunk)).lines = a.lines ++ wholeLines a.buffer.begun chunk := by
  unfold lines
  rw [List.append_assoc, ← LineBuffer.waiting_feed]
  rfl

/-- Taking a line changes neither what lines there are nor the one that has begun. -/
theorem step_take (a : Assembly) : (a.step .take).lines = a.lines ∧
    (a.step .take).buffer.begun = a.buffer.begun ∧
      ((∀ l ∈ a.taken, l.2 = lineText l.1) → ∀ l ∈ (a.step .take).taken, l.2 = lineText l.1) := by
  unfold step
  dsimp only
  cases next : a.buffer.next? with
  | none => split <;> simp_all
  | some found =>
      obtain ⟨line, buffer⟩ := found
      obtain ⟨raw, split, text, waiting, begun⟩ := LineBuffer.next?_eq_some next
      rw [split]
      dsimp only
      refine ⟨?_, begun, fun texts l mem => ?_⟩
      · simp [lines, waiting]
      · obtain before | rfl := by simpa using mem
        · exact texts l before
        · exact text

theorem step_take_line {line rest : List UInt8} {taken : List (List UInt8 × String)} (h : newline ∉ line) :
    step ⟨⟨line ++ newline :: rest⟩, taken⟩ .take = ⟨⟨rest⟩, taken ++ [(line, lineText line)]⟩ := by
  have split := splitLine?_append h rest
  unfold step LineBuffer.next?
  dsimp only
  rw [split]
  rfl

end Assembly

/-- A new line buffer after it has been used in some way. -/
def assembled (uses : List Use) : Assembly := uses.foldl Assembly.step {}

def Use.bytes : Use → List UInt8
  | .feed chunk => chunk
  | .take => []

/-- The stream that has come in, in chunks. -/
def fed (uses : List Use) : List UInt8 := uses.flatMap Use.bytes

theorem assembled_snoc (uses : List Use) (u : Use) : assembled (uses ++ [u]) = (assembled uses).step u :=
  List.foldl_append

theorem fed_snoc (uses : List Use) (u : Use) : fed (uses ++ [u]) = fed uses ++ u.bytes := by
  simp [fed]

theorem assembled_texts (uses : List Use) : ∀ l ∈ (assembled uses).taken, l.2 = lineText l.1 := by
  induction uses using List.reverseRecOn with
  | nil => exact nofun
  | append_singleton uses u ih =>
      rw [assembled_snoc]
      cases u with
      | feed chunk => exact ih
      | take => exact (Assembly.step_take _).2.2 ih

/-- The lines that have been taken, and then all that still wait. -/
def linesRead (uses : List Use) : List String :=
  (assembled uses).taken.map Prod.snd ++ (assembled uses).buffer.drain.1

theorem linesRead_eq (uses : List Use) : linesRead uses = (assembled uses).lines.map lineText := by
  rw [linesRead, Assembly.lines, List.map_append, List.map_map, LineBuffer.drain_eq]
  exact congrArg (· ++ _) (List.map_congr_left (assembled_texts uses))

/-- No run of bytes without a line end is longer than a line can be. -/
def KeepsLimit (bytes : List UInt8) : Prop :=
  ∀ run, run <:+: bytes → newline ∉ run → run.length ≤ maxLineLength

theorem KeepsLimit.of_infix {part bytes : List UInt8} (h : KeepsLimit bytes) (inside : part <:+: bytes) :
    KeepsLimit part :=
  fun run there => h run (there.trans inside)

theorem assembled_keepsLimit {uses : List Use} (h : KeepsLimit (fed uses)) :
    (assembled uses).lines = wholeLines [] (fed uses) ∧
      (assembled uses).buffer.begun = unfinished [] (fed uses) := by
  induction uses using List.reverseRecOn with
  | nil => exact ⟨rfl, rfl⟩
  | append_singleton uses u ih =>
      rw [fed_snoc] at h ⊢
      obtain ⟨lines, begun⟩ := ih (h.of_infix (List.infix_append' [] _ _))
      rw [assembled_snoc]
      cases u with
      | feed chunk =>
          dsimp only [Use.bytes] at h ⊢
          rw [Assembly.lines_feed, lines, wholeLines_unfinished, begun]
          refine ⟨rfl, ?_⟩
          change ((assembled uses).buffer.feed chunk).begun = _
          rw [LineBuffer.begun_feed, if_neg, begun, ← unfinished_append]
          rintro ⟨long, open'⟩
          -- What would be dropped has no line end, and so it is one run of the stream.
          have held : (assembled uses).buffer.bytes = unfinished [] (fed uses) := by
            rw [← begun, LineBuffer.begun_eq_self fun mem => open' (List.mem_append_left _ mem)]
          have run : (assembled uses).buffer.bytes ++ chunk <:+: fed uses ++ chunk := by
            obtain ⟨before, eq⟩ := unfinished_suffix [] (fed uses)
            exact ⟨before, [], by rw [held, ← List.append_assoc, eq]; simp⟩
          exact absurd (h _ run open') (Nat.not_le.mpr long)
      | take =>
          obtain ⟨same, same', -⟩ := Assembly.step_take (assembled uses)
          rw [same, same', lines, begun]
          simp [Use.bytes]

/-- However a stream is cut into chunks, and however many lines are taken in between: the lines are those of the
stream, and what comes behind the last line end is left. -/
theorem lines_are_those_of_the_stream (uses : List Use) (h : KeepsLimit (fed uses)) :
    (∃ segments rest, fed uses = segments.flatMap (· ++ [newline]) ++ rest ∧
      (∀ raw ∈ segments, newline ∉ raw) ∧ newline ∉ rest ∧
      List.Forall₂ ReadsAs segments (linesRead uses) ∧ (assembled uses).buffer.drain.2.bytes = rest) ∧
    ∀ other, fed other = fed uses →
      linesRead other = linesRead uses ∧ (assembled other).buffer.drain.2 = (assembled uses).buffer.drain.2 := by
  have left (uses : List Use) : (assembled uses).buffer.drain.2.bytes = (assembled uses).buffer.begun := by
    rw [LineBuffer.drain_eq]
    rfl
  obtain ⟨lines, begun⟩ := assembled_keepsLimit h
  refine ⟨⟨wholeLines [] (fed uses), unfinished [] (fed uses), ?_, ?_, ?_, ?_, ?_⟩, fun other same => ?_⟩
  · exact (flatMap_wholeLines [] (fed uses)).symm
  · exact newline_notMem_wholeLines List.not_mem_nil
  · exact newline_notMem_unfinished List.not_mem_nil
  · rw [linesRead_eq, lines, List.forall₂_map_right_iff, List.forall₂_same]
    exact fun raw _ => readsAs_iff.mpr rfl
  · exact (left uses).trans begun
  · obtain ⟨lines', begun'⟩ := assembled_keepsLimit (same ▸ h : KeepsLimit (fed other))
    constructor
    · rw [linesRead_eq, linesRead_eq, lines', lines, same]
    · have eq : (assembled other).buffer.drain.2.bytes = (assembled uses).buffer.drain.2.bytes := by
        rw [left, left, begun', begun, same]
      exact congrArg LineBuffer.mk eq

theorem keepsLimit_of_short {bytes : List UInt8} (h : bytes.length ≤ maxLineLength) : KeepsLimit bytes :=
  fun _ inside _ => inside.length_le.trans h

/-- Two lines, cut within a character and before a line end, and the first byte of a third. -/
def cutLines : List Use :=
  [.feed [0xC3], .take, .feed [0xA9, 13], .feed [newline, 0xFF, 65, 13, newline, 66], .take]

/-- They are the same lines when they come in at once. -/
theorem cutLines_read : KeepsLimit (fed cutLines) ∧
    linesRead [.feed [0xC3, 0xA9, 13, newline, 0xFF, 65, 13, newline, 66]] = linesRead cutLines ∧
      linesRead cutLines = ["\u00E9", "\uFFFDA"] := by
  have short : KeepsLimit (fed cutLines) := keepsLimit_of_short (by decide)
  exact ⟨short, ((lines_are_those_of_the_stream cutLines short).2 _ rfl).1, by decide⟩

/-- Something is true of every chunk that comes in, and of what has been done before it. -/
def AtEachChunk (uses : List Use) (P : List Use → List UInt8 → Prop) : Prop :=
  ∀ before chunk after, uses = before ++ .feed chunk :: after → P before chunk

theorem atEachChunk_nil (P : List Use → List UInt8 → Prop) : AtEachChunk [] P :=
  fun _ _ _ eq => by simp at eq

theorem atEachChunk_snoc {uses : List Use} {u : Use} {P : List Use → List UInt8 → Prop} :
    AtEachChunk (uses ++ [u]) P ↔ AtEachChunk uses P ∧ ∀ chunk, u = .feed chunk → P uses chunk := by
  constructor
  · intro h
    refine ⟨fun before chunk after eq => h before chunk (after ++ [u]) (by simp [eq]), ?_⟩
    rintro chunk rfl
    exact h uses chunk [] rfl
  · rintro ⟨earlier, last⟩ before chunk after eq
    obtain rfl | ⟨after, v, rfl⟩ := List.eq_nil_or_concat after
    · obtain ⟨rfl, same⟩ := List.append_inj' eq rfl
      exact last chunk (List.cons.inj same).1
    · rw [List.concat_eq_append, ← List.cons_append, ← List.append_assoc] at eq
      obtain ⟨rfl, -⟩ := List.append_inj' eq rfl
      exact earlier before chunk after rfl

/-- What has come in of a line is no longer than a line can be, as long as no line waits when a chunk comes in. -/
theorem prompt_bounds {n : Nat} (small : n ≤ maxLineLength) {uses : List Use}
    (prompt : AtEachChunk uses fun before chunk =>
      (assembled before).buffer.waiting = [] ∧ chunk.length ≤ n) :
    (assembled uses).buffer.begun.length ≤ maxLineLength ∧
      ∀ raw ∈ (assembled uses).lines, raw.length < maxLineLength + n := by
  induction uses using List.reverseRecOn with
  | nil => exact ⟨Nat.zero_le _, nofun⟩
  | append_singleton uses u ih =>
      obtain ⟨earlier, last⟩ := atEachChunk_snoc.mp prompt
      obtain ⟨begun, lines⟩ := ih earlier
      rw [assembled_snoc]
      cases u with
      | feed chunk =>
          obtain ⟨none, short⟩ := last chunk rfl
          constructor
          · change ((assembled uses).buffer.feed chunk).begun.length ≤ _
            have held := LineBuffer.waiting_eq_nil_iff.mp none
            rw [LineBuffer.begun_feed, LineBuffer.begun_eq_self held]
            by_cases ended : newline ∈ chunk
            · obtain ⟨line, rest, rfl, open'⟩ := List.eq_append_cons_of_mem ended
              have tail := (unfinished_suffix [] rest).length_le
              rw [if_neg (by simp), unfinished_line open']
              simp only [List.length_append, List.length_cons, List.nil_append] at short tail
              omega
            · rw [unfinished_open ended]
              split
              · exact Nat.zero_le _
              · next kept => exact Nat.le_of_not_lt fun long => kept ⟨long, by simp [held, ended]⟩
          · intro raw mem
            rw [Assembly.lines_feed] at mem
            obtain before | ending := List.mem_append.mp mem
            · exact lines raw before
            · have := length_wholeLine ending
              omega
      | take =>
          obtain ⟨same, same', -⟩ := Assembly.step_take (assembled uses)
          rw [same, same']
          exact ⟨begun, lines⟩

/-- A line that is read has as many bytes as it had when the chunk with its line end came in: what the buffer held
of it and what the chunk brought. So the limit is kept exactly if it is kept there. If no line waits when a chunk
comes in, a line exceeds the limit by fewer bytes than a chunk has. -/
theorem lines_within_limit_iff (uses : List Use) :
    ((∀ raw ∈ (assembled uses).lines, raw.length ≤ maxLineLength) ↔
      AtEachChunk uses fun before chunk =>
        ∀ raw ∈ wholeLines (assembled before).buffer.begun chunk, raw.length ≤ maxLineLength) ∧
    ∀ n ≤ maxLineLength,
      (AtEachChunk uses fun before chunk =>
        (assembled before).buffer.waiting = [] ∧ chunk.length ≤ n) →
      ∀ raw ∈ (assembled uses).lines, raw.length < maxLineLength + n := by
  refine ⟨?_, fun n small prompt => (prompt_bounds small prompt).2⟩
  induction uses using List.reverseRecOn with
  | nil => exact ⟨fun _ => atEachChunk_nil _, fun _ => nofun⟩
  | append_singleton uses u ih =>
      rw [assembled_snoc, atEachChunk_snoc, ← ih]
      cases u with
      | feed chunk =>
          rw [Assembly.lines_feed, List.forall_mem_append]
          simp
      | take =>
          rw [(Assembly.step_take _).1]
          simp

theorem cutLines_within_limit : 6 ≤ maxLineLength ∧
    (AtEachChunk cutLines fun before chunk =>
      (assembled before).buffer.waiting = [] ∧ chunk.length ≤ 6) ∧
    ∀ raw ∈ (assembled cutLines).lines, raw.length < maxLineLength + 6 := by
  have prompt : AtEachChunk cutLines fun before chunk =>
      (assembled before).buffer.waiting = [] ∧ chunk.length ≤ 6 := by
    change AtEachChunk ([] ++ [.feed _] ++ [.take] ++ [.feed _] ++ [.feed _] ++ [.take]) _
    simp only [atEachChunk_snoc]
    refine ⟨⟨⟨⟨⟨atEachChunk_nil _, ?first⟩, nofun⟩, ?second⟩, ?third⟩, nofun⟩
    all_goals
      rintro _ ⟨⟩
      decide
  exact ⟨by decide, prompt, (lines_within_limit_iff cutLines).2 6 (by decide) prompt⟩

/-- A line is read, however long it is, if its line end comes in with it, or if the line before it has not been
taken when it comes in. -/
theorem unguarded_line_read {line : List UInt8} (h : newline ∉ line) :
    (assembled [.feed (line ++ [newline]), .take]).taken.map Prod.fst = [line] ∧
    (assembled [.feed (65 :: newline :: line), .take, .feed [newline], .take]).taken.map Prod.fst =
      [[65], line] := by
  have first : assembled [.feed (line ++ [newline])] = ⟨⟨line ++ newline :: []⟩, []⟩ :=
    congrArg (Assembly.mk · []) (LineBuffer.feed_kept (by simp))
  have second : assembled [.feed (65 :: newline :: line)] = ⟨⟨[65] ++ newline :: line⟩, []⟩ :=
    congrArg (Assembly.mk · []) (LineBuffer.feed_kept (by simp))
  have third (taken : List (List UInt8 × String)) :
      Assembly.step ⟨⟨line⟩, taken⟩ (.feed [newline]) = ⟨⟨line ++ newline :: []⟩, taken⟩ :=
    congrArg (Assembly.mk · taken) (LineBuffer.feed_kept (by simp))
  constructor
  · change ((assembled [.feed (line ++ [newline])]).step .take).taken.map Prod.fst = _
    rw [first, Assembly.step_take_line h]
    rfl
  · change ((((assembled [.feed (65 :: newline :: line)]).step .take).step (.feed [newline])).step
      .take).taken.map Prod.fst = _
    rw [second, Assembly.step_take_line (by decide), third, Assembly.step_take_line h]
    rfl

/-- A line of 1025 bytes, taken from a buffer that has been given it with its line end. -/
theorem long_line_read :
    ¬∀ raw ∈ (assembled [.feed (List.replicate 1025 120 ++ [newline]), .take]).taken.map Prod.fst,
      raw.length ≤ maxLineLength := by
  have open' : newline ∉ List.replicate 1025 (120 : UInt8) :=
    fun mem => absurd (List.eq_of_mem_replicate mem) (by decide)
  intro limited
  have := limited (List.replicate 1025 120) (by rw [(unguarded_line_read open').1]; exact List.mem_singleton_self _)
  rw [List.length_replicate] at this
  exact absurd this (by decide)

end DoorControl.Serial
