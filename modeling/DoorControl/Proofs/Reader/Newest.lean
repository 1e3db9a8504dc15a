/- Which of the cards that a reader has reported is pending. Within one poll every line counts as newer
than every frame, and a line directly behind a frame is not read at all. -/
import DoorControl.Proofs.Reader.Reports
import DoorControl.Reader.Session
import DoorControl.Serial.Script

namespace DoorControl.Reader

open Card
open Serial (Port LineBuffer maxLineLength newline unfinished wholeLines)
open Report (stream completed readLines endsInFrame frameCards lineCards)

/-- What a session has taken in: the two recognisers of its input, and the card not yet collected. -/
structure Intake where
  decoder : FrameDecoder := {}
  lines : LineBuffer := {}
  pending : Option CardId := none

def Intake.take (bytes : List UInt8) (i : Intake) : Intake where
  decoder := i.decoder.after bytes
  lines := (i.lines.feed bytes).drain.2
  pending := ((lastLineCard? (i.lines.feed bytes).drain.1).or (frameCards i.decoder bytes).getLast?).or
    i.pending

namespace Session

variable {P : Type}

def intake (s : Session P) : Intake := ⟨s.decoder, s.link.lines, s.desk.pending⟩

theorem receive_intake (bytes : List UInt8) (s : Session P) :
    (s.receive bytes).intake = s.intake.take bytes := by
  rw [Intake.take, ← FrameDecoder.feedAll_fst]
  rfl

variable [Port P] {s : Session P} {now : Nat}

def received (s : Session P) : List UInt8 :=
  match (s.link.send pollCommand).2.readAvailable.1 with
  | .ok bytes => bytes
  | .error _ => []

theorem send_lines (command : String) (l : Serial.Link P) : (l.send command).2.lines = l.lines := by
  unfold Serial.Link.send
  split <;> rfl

theorem showPattern_intake (s : Session P) : s.showPattern.2.intake = s.intake := by
  have sent := send_lines s.desk.pattern.command s.link
  unfold showPattern
  split
  · rfl
  · split <;> simp_all [intake]

theorem playSound_intake (now : Nat) (s : Session P) : (s.playSound now).2.intake = s.intake := by
  unfold playSound
  dsimp only
  generalize hs' : (if s.desk.sound = s.playing then s
    else { s with playing := s.desk.sound, lastBeep := none }) = s'
  have same : s'.intake = s.intake := by
    subst hs'
    split <;> rfl
  rw [← same]
  split
  · rfl
  · next command interval _ =>
      have sent := send_lines command s'.link
      split
      · split <;> simp_all [intake]
      · rfl

theorem poll_ok (ok : (s.poll now).1 = .ok ()) : ∃ sent bytes link shown played,
    s.link.send pollCommand = (.ok (), sent) ∧ sent.readAvailable = (.ok bytes, link) ∧
      showPattern (receive bytes { s with link }) = (.ok (), shown) ∧
      shown.playSound now = (.ok (), played) ∧
      s.poll now = (.ok (), { played with polls := played.polls + 1 }) := by
  unfold poll at ok ⊢
  split at ok
  · cases ok
  · next sent hsent =>
      split at ok
      · cases ok
      · next bytes link hread =>
          split at ok
          · cases ok
          · next shown hshown =>
              split at ok
              · cases ok
              · next played hplayed =>
                  exact ⟨sent, bytes, link, shown, played, hsent, hread, hshown, hplayed, rfl⟩

/-- A successful poll takes in the bytes that it receives. -/
theorem poll_intake (ok : (s.poll now).1 = .ok ()) :
    (s.poll now).2.intake = s.intake.take s.received := by
  obtain ⟨sent, bytes, link, shown, played, hsent, hread, hshown, hplayed, result⟩ := poll_ok ok
  have got : s.received = bytes := by simp only [received, hsent, hread]
  have kept : link.lines = s.link.lines := by
    have sentLines := send_lines pollCommand s.link
    rw [hsent] at sentLines
    have readLines : sent.readAvailable.2.lines = sent.lines := rfl
    rw [hread] at readLines
    exact readLines.trans sentLines
  calc (s.poll now).2.intake
      = played.intake := by rw [result]; rfl
    _ = shown.intake := by simpa only [hplayed] using playSound_intake now shown
    _ = (receive bytes { s with link }).intake := by
      simpa only [hshown] using showPattern_intake (receive bytes { s with link })
    _ = s.intake.take s.received := by
      rw [receive_intake, got]
      unfold intake
      rw [kept]

end Session

/-- What one poll receives of a stream: the reports complete before it, and those that it completes. -/
structure Round where
  before : List Report
  now : List Report

namespace Round

def frames (r : Round) : List Report := r.now.filter Report.isFrame

/-- The lines that are read: those that do not come directly behind a frame. -/
def lines (r : Round) : List Report := readLines (endsInFrame r.before) r.now

/-- The reports in the order in which the poll takes them. -/
def taken (r : Round) : List Report := r.frames ++ r.lines

/-- The last line read in this poll, or without one the last frame so far, reports the same card as the
report that comes last. -/
def Fair (r : Round) : Prop := r.now = [] ∨
  (r.lines.getLast?.or ((r.before ++ r.now).filter Report.isFrame).getLast?).map Report.card =
    r.now.getLast?.map Report.card

instance (r : Round) : Decidable r.Fair := inferInstanceAs (Decidable (_ ∨ _))

end Round

/-- The round in which a chunk is received, `n` bytes of the stream having been received before. -/
def roundOf (rs : List Report) (n : Nat) (chunk : List UInt8) : Round :=
  ⟨completed n rs, (completed (n + chunk.length) rs).drop (completed n rs).length⟩

def rounds (rs : List Report) : (n : Nat) → (chunks : List (List UInt8)) → List Round
  | _, [] => []
  | n, chunk :: chunks => roundOf rs n chunk :: rounds rs (n + chunk.length) chunks

/-- The card of the last report that has been received completely. -/
def newest (rs : List Report) (chunks : List (List UInt8)) : Option CardId :=
  (completed chunks.flatten.length rs).getLast?.map Report.card

/-- The card of the report that the polls take last. -/
def takenLast (rs : List Report) (chunks : List (List UInt8)) : Option CardId :=
  ((rounds rs 0 chunks).flatMap Round.taken).getLast?.map Report.card

/-- The bytes between two line ends fit into the line buffer, the frames in front of a line included. -/
def Short (rs : List Report) : Prop := ∀ line ∈ wholeLines [] (stream rs), line.length ≤ maxLineLength

instance (rs : List Report) : Decidable (Short rs) := inferInstanceAs (Decidable (∀ _ ∈ _, _))

variable {rs : List Report} {chunks : List (List UInt8)} {chunk got later : List UInt8} {i : Intake}

theorem rounds_concat (rs : List Report) (n : Nat) (chunks : List (List UInt8)) (chunk : List UInt8) :
    rounds rs n (chunks ++ [chunk]) =
      rounds rs n chunks ++ [roundOf rs (n + chunks.flatten.length) chunk] := by
  induction chunks generalizing n with
  | nil => rfl
  | cons c cs ih =>
      rw [List.cons_append, rounds, rounds, ih, List.flatten_cons, List.length_append, Nat.add_assoc]
      rfl

theorem completed_add (rs : List Report) (n : Nat) (chunk : List UInt8) :
    completed (n + chunk.length) rs = completed n rs ++ (roundOf rs n chunk).now :=
  List.prefix_iff_eq_append.mp (Report.completed_prefix (Nat.le_add_right n _)) |>.symm

theorem found_in_round (h : got ++ chunk <+: stream rs) :
    let round := roundOf rs got.length chunk
    frameCards (FrameDecoder.after {} got) chunk = round.frames.map Report.card ∧
      lineCards (unfinished [] got) chunk = round.lines.map Report.card := by
  intro round
  have all : completed (got ++ chunk).length rs = round.before ++ round.now := by
    rw [List.length_append]
    exact completed_add rs got.length chunk
  obtain ⟨part, gotEq, noEtx, noNewline⟩ := Report.eq_of_prefix ((List.prefix_append _ _).trans h)
  obtain ⟨part', allEq, noEtx', noNewline'⟩ := Report.eq_of_prefix h
  rw [all] at allEq
  constructor
  · have before : frameCards {} got = (round.before.filter Report.isFrame).map Report.card := by
      rw [gotEq]
      exact Report.frameCards_stream noEtx _ _
    have whole := Report.frameCards_stream noEtx' {} (round.before ++ round.now)
    rw [← allEq, Report.frameCards_append, before, List.filter_append, List.map_append] at whole
    exact List.append_cancel_left whole
  · have before : lineCards [] got = (readLines false round.before).map Report.card := by
      rw [gotEq]
      exact Report.lineCards_stream noNewline .nothing _
    have whole := Report.lineCards_stream noNewline' .nothing (round.before ++ round.now)
    rw [← allEq, Report.lineCards_append, before, Report.readLines_append, List.map_append] at whole
    exact List.append_cancel_left whole

/-- What has come of a line that will be ended is not too long for the buffer. -/
theorem unfinished_short (short : Short rs) (h : got ++ later = stream rs) (ends : newline ∈ later) :
    (unfinished [] got).length ≤ maxLineLength := by
  obtain ⟨line, rest, rfl, open'⟩ := List.eq_append_cons_of_mem ends
  have mem : unfinished [] got ++ line ∈ wholeLines [] (stream rs) := by
    rw [← h, Serial.wholeLines_unfinished, Serial.wholeLines_line open']
    exact List.mem_append_right _ List.mem_cons_self
  have bound := short _ mem
  rw [List.length_append] at bound
  omega

/-- The line buffer holds what has come of the current line, unless no line will be ended any more. -/
structure Buffers (b : LineBuffer) (got later : List UInt8) : Prop where
  open' : newline ∉ b.bytes
  bytes : b.bytes = unfinished [] got ∨ newline ∉ later

theorem Buffers.feed {b : LineBuffer} (h : Buffers b got (chunk ++ later)) (short : Short rs)
    (all : got ++ (chunk ++ later) = stream rs) :
    (b.feed chunk).drain.1 = (wholeLines (unfinished [] got) chunk).map Serial.lineText ∧
      Buffers (b.feed chunk).drain.2 (got ++ chunk) later := by
  have rest := Serial.unfinished_append [] got chunk
  -- once no line end is to come, it does not matter what the buffer drops
  by_cases kept : b.bytes = unfinished [] got ∧ newline ∈ chunk ++ later
  · obtain ⟨held, ends⟩ := kept
    have fits : newline ∈ chunk ∨ (b.bytes ++ chunk).length ≤ maxLineLength := by
      by_cases inChunk : newline ∈ chunk
      · exact .inl inChunk
      · have ends' : newline ∈ later := (List.mem_append.mp ends).resolve_left inChunk
        have bound := unfinished_short short ((List.append_assoc got chunk later).trans all) ends'
        rw [rest, Serial.unfinished_open inChunk] at bound
        rw [held]
        exact .inr bound
    rw [LineBuffer.drain_feed h.open' fits, held]
    exact ⟨rfl, Serial.newline_notMem_unfinished (held ▸ h.open'), .inl rest.symm⟩
  · have none : newline ∉ chunk ++ later := by
      intro ends
      exact kept ⟨h.bytes.resolve_right fun none => none ends, ends⟩
    rw [List.mem_append, not_or] at none
    obtain ⟨empty, open'⟩ := LineBuffer.drain_feed_open h.open' none.1
    rw [empty, Serial.wholeLines_open none.1]
    exact ⟨rfl, open', .inr none.2⟩

structure Holds (rs : List Report) (chunks : List (List UInt8)) (later : List UInt8) (i : Intake) :
    Prop where
  decoder : i.decoder = FrameDecoder.after {} chunks.flatten
  lines : Buffers i.lines chunks.flatten later
  pending : i.pending = takenLast rs chunks

theorem takenLast_concat (rs : List Report) (chunks : List (List UInt8)) (chunk : List UInt8) :
    takenLast rs (chunks ++ [chunk]) =
      ((roundOf rs chunks.flatten.length chunk).taken.getLast?.map Report.card).or
        (takenLast rs chunks) := by
  rw [takenLast, rounds_concat, List.flatMap_append, List.getLast?_append, Nat.zero_add,
    List.flatMap_singleton, Option.map_or]
  rfl

theorem Holds.take (h : Holds rs chunks (chunk ++ later) i) (short : Short rs)
    (all : chunks.flatten ++ (chunk ++ later) = stream rs) :
    Holds rs (chunks ++ [chunk]) later (i.take chunk) := by
  have prefix' : chunks.flatten ++ chunk <+: stream rs :=
    ⟨later, (List.append_assoc _ _ _).trans all⟩
  obtain ⟨frames, lines⟩ := found_in_round prefix'
  obtain ⟨found, buffers⟩ := h.lines.feed short all
  refine ⟨?_, ?_, ?_⟩
  · rw [List.flatten_concat, FrameDecoder.after_append, ← h.decoder]
    rfl
  · rw [List.flatten_concat]
    exact buffers
  · rw [takenLast_concat, Intake.take]
    dsimp only
    rw [h.decoder, frames, found, lastLineCard?, ← lineCards, lines, h.pending, Round.taken,
      List.getLast?_append, Option.map_or, List.getLast?_map, List.getLast?_map]

namespace Round

variable {r : Round}

/-- A poll that completes reports and takes none receives a line that stands behind a frame. -/
theorem endsInFrame_of_untaken (some' : r.now ≠ []) (untaken : r.taken = []) :
    endsInFrame r.before = true := by
  obtain ⟨noFrames, noLines⟩ := List.append_eq_nil_iff.mp untaken
  unfold frames at noFrames
  unfold lines at noLines
  cases now : r.now with
  | nil => exact absurd now some'
  | cons first rest =>
      rw [now] at noFrames noLines
      cases first with
      | frame card id check hid hcheck => cases noFrames
      | line card id hid =>
          cases behind : endsInFrame r.before with
          | true => rfl
          | false =>
              rw [behind] at noLines
              cases noLines

theorem getLast?_frames {rs : List Report} (h : endsInFrame rs = true) :
    (rs.filter Report.isFrame).getLast? = rs.getLast? := by
  cases rs using List.reverseRecOn with
  | nil => rfl
  | append_singleton rs r =>
      have isFrame : r.isFrame = true := by simpa [endsInFrame] using h
      simp [isFrame]

/-- If the newest report has been taken before a poll, it has been taken after it exactly if the poll is a
fair round. -/
theorem fair_iff (r : Round) :
    (r.taken.getLast?.map Report.card).or (r.before.getLast?.map Report.card) =
      (r.before ++ r.now).getLast?.map Report.card ↔ r.Fair := by
  by_cases none : r.now = []
  · have untaken : r.taken = [] := by simp [taken, frames, lines, none, readLines]
    simp [Fair, untaken, none]
  · have last : (r.before ++ r.now).getLast? = r.now.getLast? := by
      rw [List.getLast?_append, List.getLast?_eq_some_getLast none]
      rfl
    have taken' : r.lines.getLast?.or ((r.before ++ r.now).filter Report.isFrame).getLast? =
        r.taken.getLast?.or (r.before.filter Report.isFrame).getLast? := by
      rw [List.filter_append, List.getLast?_append, taken, List.getLast?_append, Option.or_assoc]
      rfl
    have unread : (r.taken.getLast?.map Report.card).or (r.before.getLast?.map Report.card) =
        (r.taken.getLast?.or (r.before.filter Report.isFrame).getLast?).map Report.card := by
      rw [← Option.map_or]
      -- a frame taken earlier is the newest report before this poll only if that ends in a frame
      cases untaken : r.taken.getLast? with
      | some _ => rfl
      | none =>
          have behind := endsInFrame_of_untaken none (List.getLast?_eq_none_iff.mp untaken)
          rw [getLast?_frames behind]
    rw [Fair, last, taken', unread]
    simp [none]

end Round

theorem newest_concat (rs : List Report) (chunks : List (List UInt8)) (chunk : List UInt8) :
    newest rs (chunks ++ [chunk]) =
      ((completed chunks.flatten.length rs) ++ (roundOf rs chunks.flatten.length chunk).now).getLast?.map
        Report.card := by
  rw [newest, List.flatten_concat, List.length_append, completed_add]

theorem newest_nil (rs : List Report) : newest rs [] = none := by
  cases rs with
  | nil => rfl
  | cons r rs =>
      obtain ⟨body, last, eq, -⟩ := r.bytes_eq
      have some' : ¬r.bytes.length ≤ 0 := by simp [eq]
      rw [newest, List.flatten_nil, List.length_nil, completed, if_neg some']
      rfl

theorem takenLast_eq_newest_iff (rs : List Report) (chunks : List (List UInt8)) :
    (∀ past, past <+: chunks → takenLast rs past = newest rs past) ↔
      ∀ round ∈ rounds rs 0 chunks, round.Fair := by
  induction chunks using List.reverseRecOn with
  | nil => simp [takenLast, rounds, newest_nil]
  | append_singleton chunks chunk ih =>
      simp only [List.prefix_concat_iff, or_imp, forall_and, forall_eq, ih, rounds_concat,
        List.mem_append, List.mem_singleton, Nat.zero_add]
      rw [and_comm]
      refine and_congr_right fun fair => ?_
      rw [takenLast_concat, newest_concat, ih.mpr fair chunks (List.prefix_refl _), newest]
      exact (roundOf rs chunks.flatten.length chunk).fair_iff

/-- A poll as it looks from outside: what it has received, and the card that is pending after it. -/
structure Poll where
  bytes : List UInt8
  pending : Option CardId
  deriving DecidableEq

/-- Successful polls of a new session, between which no card is collected. The port and the requested
pattern and sound may have changed from one poll to the next. -/
inductive Polls {P : Type} [Port P] : List Poll → Session P → Prop
  | start {s : Session P} (new : s.intake = {}) : Polls [] s
  | poll {past : List Poll} {s s' : Session P} (earlier : Polls past s) (kept : s'.intake = s.intake)
      {now : Nat} (ok : (s'.poll now).1 = .ok ()) :
      Polls (past ++ [⟨s'.received, (s'.poll now).2.desk.pending⟩]) (s'.poll now).2

namespace Polls

variable {P : Type} [Port P] {past : List Poll} {s : Session P}

theorem holds (run : Polls past s) (short : Short rs) {later : List UInt8}
    (all : (past.map Poll.bytes).flatten ++ later = stream rs) :
    Holds rs (past.map Poll.bytes) later s.intake ∧
      ∀ earlier poll, earlier ++ [poll] <+: past →
        poll.pending = takenLast rs ((earlier ++ [poll]).map Poll.bytes) := by
  -- the bytes still to come go along: whether the buffer may drop some depends on them
  induction run generalizing later with
  | start new =>
      refine ⟨?_, by simp⟩
      rw [new]
      exact ⟨rfl, ⟨List.not_mem_nil, .inl rfl⟩, rfl⟩
  | poll run kept ok ih =>
      rename_i past s s' now
      have chunks : (past ++ [Poll.mk s'.received (s'.poll now).2.desk.pending]).map Poll.bytes =
          past.map Poll.bytes ++ [s'.received] := List.map_append
      rw [chunks, List.flatten_concat, List.append_assoc] at all
      obtain ⟨held, earlier⟩ := ih all
      rw [← kept] at held
      have holds := held.take short all
      rw [← Session.poll_intake ok, ← chunks] at holds
      refine ⟨holds, ?_⟩
      intro before poll first
      obtain last | first := List.prefix_concat_iff.mp first
      · rw [last, ← holds.pending, (List.append_singleton_inj.mp last).2]
        rfl
      · exact earlier before poll first

end Polls

/-- The pending card is that of the report which the polls have taken last: in each poll all frames, then
the lines that do not come directly behind a frame. So after every poll it is that of the newest report
exactly if, in every poll that completes a report, the last line read reports the same card as the report
that comes last in it, or without such a line, the last frame so far. -/
theorem newest_report_pending_iff {rs : List Report} (short : Short rs) {P : Type} [Port P]
    {past : List Poll} {s : Session P} (run : Polls past s) (cut : past.flatMap Poll.bytes <+: stream rs) :
    let rounds := rounds rs 0 (past.map Poll.bytes)
    s.desk.pending = (rounds.flatMap Round.taken).getLast?.map Report.card ∧
      ((∀ earlier poll, earlier ++ [poll] <+: past →
          poll.pending = newest rs ((earlier ++ [poll]).map Poll.bytes)) ↔
        ∀ round ∈ rounds, round.Fair) := by
  intro rounds
  obtain ⟨later, all⟩ := cut
  rw [List.flatMap_def] at all
  obtain ⟨holds, pending⟩ := run.holds short all
  refine ⟨holds.pending, ?_⟩
  rw [← takenLast_eq_newest_iff]
  constructor
  · intro always chunks begins
    obtain ⟨earlier, cut, rfl⟩ := List.prefix_map_iff.mp begins
    cases earlier using List.reverseRecOn with
    | nil => exact (newest_nil rs).symm
    | append_singleton earlier poll => rw [← pending earlier poll cut, always earlier poll cut]
  · intro always earlier poll cut
    rw [pending earlier poll cut]
    exact always _ (cut.map Poll.bytes)

/-- A new session over a port that gives one of the chunks to each poll. -/
def scripted (chunks : List (List UInt8)) : Session Serial.ScriptedPort where
  link := { port := { incoming := chunks.map .data } }

def firstCard : CardId := ⟨1, by decide, by decide⟩

def secondCard : CardId := ⟨2, by decide, by decide⟩

/-- The polls of a new session, at most `n` of them, up to the first failure. -/
def pollsOf {P : Type} [Port P] (s : Session P) : (n : Nat) → List Poll × Session P
  | 0 => ([], s)
  | n + 1 =>
      let (past, s) := pollsOf s n
      match s.poll 0 with
      | (.ok (), s') => (past ++ [⟨s.received, s'.desk.pending⟩], s')
      | (.error _, _) => (past, s)

theorem polls_pollsOf {P : Type} [Port P] {s : Session P} (new : s.intake = {}) (n : Nat) :
    Polls (pollsOf s n).1 (pollsOf s n).2 := by
  induction n with
  | zero => exact .start new
  | succ n ih =>
      rw [pollsOf]
      cases polled : (pollsOf s n).2.poll 0 with
      | mk result s' =>
          cases result with
          | error f => simpa [polled] using ih
          | ok _ =>
              have ok : ((pollsOf s n).2.poll 0).1 = .ok () := by rw [polled]
              have run := ih.poll rfl ok
              simpa [polled] using run

theorem polls_scripted (chunks : List (List UInt8)) {past : List Poll}
    (all : (pollsOf (scripted chunks) chunks.length).1 = past) :
    ∃ s : Session Serial.ScriptedPort, Polls past s :=
  ⟨_, all ▸ polls_pollsOf rfl _⟩

/-- Polls in which a line is cut, and the frames behind it: the newest report is pending after each. -/
theorem cut_line_pending :
    let rs := [Report.lined firstCard, .framed firstCard, .framed secondCard]
    let chunks := [(stream rs).take 5, ((stream rs).drop 5).take 11, (stream rs).drop 16]
    let past := chunks.zipWith Poll.mk [none, some firstCard, some secondCard]
    (∃ s : Session Serial.ScriptedPort, Polls past s) ∧
      ∀ earlier poll, earlier ++ [poll] <+: past →
        poll.pending = newest rs ((earlier ++ [poll]).map Poll.bytes) := by
  intro rs chunks past
  obtain ⟨s, run⟩ : ∃ s, Polls past s := polls_scripted chunks (by decide)
  have short : Short rs := by decide
  have cut : past.flatMap Poll.bytes <+: stream rs := by decide
  exact ⟨⟨s, run⟩, (newest_report_pending_iff short run cut).2.mpr (by decide)⟩

/-- A frame that comes behind a line is taken before it, unless it comes in a later poll. A line directly
behind a frame is lost in any case. -/
theorem older_report_pending :
    let line (c : CardId) := Report.lined c
    let frame (c : CardId) := Report.framed c
    let Seen (past : List Poll) := ∃ s : Session Serial.ScriptedPort, Polls past s
    let lineFirst := [line firstCard, frame secondCard]
    let frameFirst := [frame firstCard, line secondCard]
    Seen [⟨stream lineFirst, some firstCard⟩] ∧
      newest lineFirst [stream lineFirst] = some secondCard ∧
    Seen [⟨(line firstCard).bytes, some firstCard⟩, ⟨(frame secondCard).bytes, some secondCard⟩] ∧
    Seen [⟨(frame firstCard).bytes, some firstCard⟩, ⟨(line secondCard).bytes, some firstCard⟩] ∧
      newest frameFirst (frameFirst.map Report.bytes) = some secondCard := by
  intro line frame Seen lineFirst frameFirst
  refine ⟨?_, by decide, ?_, ?_, by decide⟩
  · exact polls_scripted [stream lineFirst] (by decide)
  · exact polls_scripted (lineFirst.map Report.bytes) (by decide)
  · exact polls_scripted (frameFirst.map Report.bytes) (by decide)

end DoorControl.Reader
