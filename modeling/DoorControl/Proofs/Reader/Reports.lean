/- What a reader sends: reports of cards, as frames and as reply lines, and which cards are found in the
bytes of them that have come in. -/
import DoorControl.Proofs.Card.Encoding
import DoorControl.Proofs.Serial.Collecting

namespace DoorControl.Reader

open Card Text Text.Numeral
open Serial (newline wholeLines unfinished lineText)

/-- A card is reported in a frame, or in a line with CR LF at its end. -/
inductive Report
  | frame (card : CardId) (id check : List Char) (hid : Spells id card.toHex.toList)
      (hcheck : Spells check (hexPadded 2 card.parity))
  | line (card : CardId) (id : List Char) (hid : Spells id card.toHex.toList)

namespace Report

def framed (card : CardId) : Report :=
  frame card _ _ card.toHex_spells (hexPadded_spells 2 card.parity)

def lined (card : CardId) : Report := line card _ card.toHex_spells

def card : Report → CardId
  | frame card .. => card
  | line card .. => card

def isFrame : Report → Bool
  | frame .. => true
  | line .. => false

def lineChars (id : List Char) : List Char := "ID".toList ++ id ++ ['\r']

def bytes : Report → List UInt8
  | frame _ _ _ hid hcheck => (CardId.frame hid hcheck).raw
  | line _ id _ => ascii (lineChars id) ++ [newline]

def stream (rs : List Report) : List UInt8 := rs.flatMap bytes

/-- The reports that the first `n` bytes hold completely. -/
def completed : Nat → List Report → List Report
  | _, [] => []
  | n, r :: rs => if r.bytes.length ≤ n then r :: completed (n - r.bytes.length) rs else []

/-- The lines that do not come directly behind a frame. -/
def readLines : (behindFrame : Bool) → List Report → List Report
  | _, [] => []
  | _, frame .. :: rs => readLines true rs
  | true, line .. :: rs => readLines false rs
  | false, r@(line ..) :: rs => r :: readLines false rs

def endsInFrame (rs : List Report) : Bool := (rs.getLast?.map isFrame).getD false

variable {card : CardId} {id check : List Char} {rs : List Report} {part : List UInt8} {n m : Nat}

theorem lineChars_range (hid : Spells id card.toHex.toList) :
    ∀ c ∈ lineChars id, 13 ≤ c.toNat ∧ c.toNat < 128 := by
  have range : ∀ c ∈ ['I', 'D'], 13 ≤ c.toNat ∧ c.toNat < 128 := by simp
  intro c mem
  rw [lineChars, List.append_assoc] at mem
  obtain lead | rest := List.mem_append.mp mem
  · exact range c lead
  obtain digit | last := List.mem_append.mp rest
  · have range := isHex_iff.mp (CardId.isHex_of_spells hid digit)
    omega
  · obtain rfl := List.mem_singleton.mp last
    decide

theorem notMem_lineChars (hid : Spells id card.toHex.toList) {b : UInt8} (low : b.toNat < 13) :
    b ∉ ascii (lineChars id) := by
  intro mem
  obtain ⟨c, hc, rfl⟩ := List.mem_map.mp mem
  have range := lineChars_range hid c hc
  rw [toNat_byte range.2] at low
  omega

theorem notMem_body (f : Frame) {b : UInt8} (notStx : b ≠ stx) (notHex : ¬IsHexDigit b) :
    b ∉ stx :: f.digits := by
  rw [List.mem_cons, not_or]
  exact ⟨notStx, fun mem => notHex (f.hex b mem)⟩

theorem newline_notMem_raw (f : Frame) : newline ∉ f.raw := by
  rw [show f.raw = (stx :: f.digits) ++ [etx] from rfl, List.mem_append, not_or]
  exact ⟨notMem_body f (by decide) (by decide), by decide⟩

/-- Before the last byte of a report there is no ETX and no line end. -/
theorem bytes_eq (r : Report) :
    ∃ body last, r.bytes = body ++ [last] ∧ etx ∉ body ∧ newline ∉ body := by
  cases r with
  | frame card id check hid hcheck =>
      exact ⟨_, etx, rfl, notMem_body (CardId.frame hid hcheck) (by decide) (by decide),
        notMem_body (CardId.frame hid hcheck) (by decide) (by decide)⟩
  | line card id hid =>
      exact ⟨_, newline, rfl, notMem_lineChars hid (by decide), notMem_lineChars hid (by decide)⟩

theorem take_stream (n : Nat) (rs : List Report) :
    ∃ part, (stream rs).take n = stream (completed n rs) ++ part ∧ etx ∉ part ∧ newline ∉ part := by
  induction rs generalizing n with
  | nil => exact ⟨[], List.take_nil, List.not_mem_nil, List.not_mem_nil⟩
  | cons r rs ih =>
      rw [stream, List.flatMap_cons, completed]
      split
      · next whole =>
          obtain ⟨part, eq, open'⟩ := ih (n - r.bytes.length)
          refine ⟨part, ?_, open'⟩
          rw [List.take_append, List.take_of_length_le whole, stream, List.flatMap_cons,
            List.append_assoc]
          exact congrArg (r.bytes ++ ·) eq
      · next cut =>
          obtain ⟨body, last, eq, noEtx, noNewline⟩ := r.bytes_eq
          rw [eq, List.length_append, List.length_singleton] at cut
          rw [eq, List.append_assoc, List.take_append_of_le_length (by omega)]
          exact ⟨_, rfl, fun mem => noEtx (List.mem_of_mem_take mem),
            fun mem => noNewline (List.mem_of_mem_take mem)⟩

/-- What has been received of a stream: the reports that are complete, and the beginning of the next. -/
theorem eq_of_prefix {bs : List UInt8} (h : bs <+: stream rs) :
    ∃ part, bs = stream (completed bs.length rs) ++ part ∧ etx ∉ part ∧ newline ∉ part := by
  obtain ⟨part, eq, open'⟩ := take_stream bs.length rs
  exact ⟨part, (List.prefix_iff_eq_take.mp h).trans eq, open'⟩

theorem completed_prefix (h : n ≤ m) : completed n rs <+: completed m rs := by
  induction rs generalizing n m with
  | nil => exact List.prefix_refl _
  | cons r rs ih =>
      rw [completed, completed]
      by_cases whole : r.bytes.length ≤ n
      · rw [if_pos whole, if_pos (by omega)]
        exact (List.prefix_cons_inj r).mpr (ih (by omega))
      · rw [if_neg whole]
        exact List.nil_prefix

theorem readLines_append (behind : Bool) (rs others : List Report) : readLines behind (rs ++ others) =
    readLines behind rs ++ readLines ((rs.getLast?.map isFrame).getD behind) others := by
  induction rs generalizing behind with
  | nil => rfl
  | cons r rs ih =>
      have last (b : Bool) (hb : r.isFrame = b) :
          ((r :: rs).getLast?.map isFrame).getD behind = (rs.getLast?.map isFrame).getD b := by
        cases hl : rs.getLast? with
        | none =>
            obtain rfl : rs = [] := List.getLast?_eq_none_iff.mp hl
            exact hb
        | some r' => simp [List.getLast?_cons, hl]
      cases r with
      | frame card id check hid hcheck =>
          rw [List.cons_append, readLines, readLines, ih, last true rfl]
      | line card id hid =>
          rw [List.cons_append, last false rfl]
          cases behind <;> simp only [readLines, ih, List.cons_append]

/-- The cards of the frames that a decoder finds. -/
def frameCards (d : FrameDecoder) (bs : List UInt8) : List CardId :=
  (d.feedAll bs).2.filterMap fun (_, id) => CardId.ofNat? id

def lineCards (begun bs : List UInt8) : List CardId :=
  ((wholeLines begun bs).map lineText).filterMap cardOfLine?

theorem lineCards_append (begun bs cs : List UInt8) :
    lineCards begun (bs ++ cs) = lineCards begun bs ++ lineCards (unfinished begun bs) cs := by
  simp only [lineCards, Serial.wholeLines_unfinished, List.map_append, List.filterMap_append]

theorem frameCards_append (d : FrameDecoder) (bs cs : List UInt8) :
    frameCards d (bs ++ cs) = frameCards d bs ++ frameCards (d.after bs) cs := by
  have ids (found : List (Nat × Nat)) : (found.filterMap fun (_, id) => CardId.ofNat? id) =
      (found.map Prod.snd).filterMap CardId.ofNat? := by
    rw [List.filterMap_map]
    rfl
  simp only [frameCards, ids, FrameDecoder.feedAll, FrameDecoder.go_append, List.map_append,
    List.filterMap_append]
  rw [FrameDecoder.go_ids (d.after bs) cs _ 0]

theorem frameCards_open (h : etx ∉ part) (d : FrameDecoder) : frameCards d part = [] := by
  rw [frameCards, FrameDecoder.feedAll, FrameDecoder.go_of_open h]
  rfl

/-- The decoder finds the frames, and only these. -/
theorem frameCards_stream (h : etx ∉ part) (d : FrameDecoder) (rs : List Report) :
    frameCards d (stream rs ++ part) = (rs.filter isFrame).map Report.card := by
  induction rs generalizing d with
  | nil => exact frameCards_open h d
  | cons r rs ih =>
      rw [stream, List.flatMap_cons, List.append_assoc, frameCards_append]
      cases r with
      | frame card id check hid hcheck =>
          have found : frameCards d (frame card id check hid hcheck).bytes = [card] := by
            rw [frameCards, bytes, (d.feedAll_raw _).2, CardId.frame_id]
            simp [CardId.ofNat?_raw]
          rw [found]
          exact congrArg (card :: ·) (ih _)
      | line card id hid =>
          have none : frameCards d (line card id hid).bytes = [] := by
            refine frameCards_open (fun mem => ?_) d
            obtain mem | last := List.mem_append.mp mem
            · exact notMem_lineChars hid (by decide) mem
            · exact absurd (List.mem_singleton.mp last) (by decide)
          rw [none]
          exact ih _

/-- A line that nothing stands in front of is read. -/
theorem cardOfLine?_lineChars (hid : Spells id card.toHex.toList) :
    cardOfLine? (lineText (ascii (lineChars id))) = some card := by
  have text := decode_ascii (fun c mem => (lineChars_range hid c mem).2) []
  have shown : (lineChars id).filter (fun c => !isControl c) = "ID".toList ++ id := by
    have digits : id.filter (fun c => !isControl c) = id := by
      rw [List.filter_eq_self]
      intro c mem
      rw [(CardId.isHex_of_spells hid mem).not_control]
      rfl
    rw [lineChars, List.filter_append, List.filter_append, digits]
    exact List.append_nil _
  rw [List.append_nil] at text
  rw [lineText, text]
  change cardOfLine? (String.ofList (List.filter _ (lineChars id ++ []))) = _
  rw [List.append_nil, shown]
  exact CardId.cardOfLine?_of_spells hid

theorem trim_cons {c : Char} (h : isBlank c = false) (text : List Char) :
    ∃ rest, trim (c :: text) = c :: rest := by
  have left : dropBlanks (c :: text) = c :: text := List.dropWhile_cons_of_neg (by simp [h])
  rw [trim, left, dropBlanksRight, List.reverse_cons, List.dropWhile_append]
  split
  · next none =>
      rw [List.dropWhile_cons_of_neg (by simp [h])]
      exact ⟨[], rfl⟩
  · exact ⟨_, List.reverse_append⟩

theorem cardOfLine?_eq_none {c : Char} (visible : isBlank c = false) (notLead : 'I' ≠ c)
    (text : List Char) : cardOfLine? (String.ofList (c :: text)) = none := by
  obtain ⟨rest, trimmed⟩ := trim_cons visible text
  rw [← String.toList_ofList (l := c :: text)] at trimmed
  have other : after? "ID".toList (c :: rest) = none := if_neg notLead
  unfold cardOfLine?
  rw [trimmed, other]

def Begins (bs : List UInt8) : Prop := ∃ c more, IsHex c ∧ bs = ascii [Char.ofNat 2, c] ++ more

theorem begins_frame (hid : Spells id card.toHex.toList)
    (hcheck : Spells check (hexPadded 2 card.parity)) : Begins (CardId.frame hid hcheck).raw := by
  have length := CardId.length_of_spells hid
  cases id with
  | nil => cases length
  | cons c cs => exact ⟨c, _, CardId.isHex_of_spells hid List.mem_cons_self, rfl⟩

theorem Begins.append (h : Begins part) (bs : List UInt8) : Begins (part ++ bs) := by
  obtain ⟨c, more, hex, rfl⟩ := h
  exact ⟨c, more ++ bs, hex, List.append_assoc _ _ _⟩

/-- The digits of a frame stand in front of a line behind it, which is therefore not read. -/
theorem Begins.not_read (h : Begins part) : cardOfLine? (lineText part) = none := by
  obtain ⟨c, more, hex, rfl⟩ := h
  have ascii : ∀ ch ∈ [Char.ofNat 2, c], ch.toNat < 128 := by
    simp only [List.mem_cons, List.not_mem_nil, or_false, forall_eq_or_imp, forall_eq]
    exact ⟨by decide, hex.ascii⟩
  have shown : lineText (Text.ascii [Char.ofNat 2, c] ++ more) =
      String.ofList (c :: (Utf8.decode more).filter fun ch => !isControl ch) := by
    rw [lineText, decode_ascii ascii]
    congr 1
    have first : isControl (Char.ofNat 2) = true := by decide
    simp [first, hex.not_control]
  have notLead : 'I' ≠ c := by
    rintro rfl
    exact absurd hex (by decide)
  rw [shown]
  exact cardOfLine?_eq_none hex.not_blank notLead _

/-- What has come of a line, frames in front of it included. -/
def Front : (behindFrame : Bool) → List UInt8 → Prop
  | true, begun => Begins begun
  | false, begun => begun = []

theorem Front.nothing : Front false [] := rfl

theorem Front.frame {behind : Bool} {begun : List UInt8} (h : Front behind begun)
    (hid : Spells id card.toHex.toList) (hcheck : Spells check (hexPadded 2 card.parity)) :
    Front true (begun ++ (CardId.frame hid hcheck).raw) := by
  cases behind with
  | true => exact Begins.append h _
  | false =>
      obtain rfl : begun = [] := h
      exact begins_frame hid hcheck

theorem lineCards_line (hid : Spells id card.toHex.toList) (begun bs : List UInt8) :
    lineCards begun ((line card id hid).bytes ++ bs) =
      (cardOfLine? (lineText (begun ++ ascii (lineChars id)))).toList ++ lineCards [] bs := by
  have open' := notMem_lineChars hid (b := newline) (by decide)
  rw [bytes, List.append_assoc, lineCards, List.singleton_append, Serial.wholeLines_line open',
    List.map_cons, List.filterMap_cons]
  cases cardOfLine? (lineText (begun ++ ascii (lineChars id))) <;> rfl

/-- The lines are found that do not come directly behind a frame. -/
theorem lineCards_stream (h : newline ∉ part) {behind : Bool} {begun : List UInt8}
    (front : Front behind begun) (rs : List Report) :
    lineCards begun (stream rs ++ part) = (readLines behind rs).map Report.card := by
  -- frames move into the front of the next line, which `Front` carries through the induction
  induction rs generalizing begun behind with
  | nil =>
      have none : wholeLines begun (stream [] ++ part) = [] := Serial.wholeLines_open h begun
      rw [lineCards, none]
      rfl
  | cons r rs ih =>
      rw [stream, List.flatMap_cons, List.append_assoc]
      cases r with
      | frame card id check hid hcheck =>
          have open' := newline_notMem_raw (CardId.frame hid hcheck)
          rw [bytes, lineCards, Serial.wholeLines_append open', readLines]
          exact ih (front.frame hid hcheck)
      | line card id hid =>
          refine (lineCards_line hid begun (stream rs ++ part)).trans ?_
          rw [ih .nothing]
          cases behind with
          | true =>
              rw [(Begins.append front _).not_read]
              rfl
          | false =>
              obtain rfl : begun = [] := front
              rw [List.nil_append, cardOfLine?_lineChars hid]
              rfl

end Report

end DoorControl.Reader
