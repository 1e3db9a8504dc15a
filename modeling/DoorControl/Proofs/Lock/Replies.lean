/- Which replies of the lock report a status or a calibration, and what they report; what is written is read
back. -/
import DoorControl.Lock.Reply
import DoorControl.Proofs.Text.Literal
import DoorControl.Proofs.Text.Words

namespace DoorControl.Lock

open Text Text.Numeral

/-- The text of a status: six words. -/
def ReportsStatus (reply : String) (s : Status) : Prop :=
  ∃ bolt door handle encoder : String,
    (bolt, s.bolt) ∈ [("locked", BoltState.locked), ("unlocked", .unlocked), ("unknown", .unknown)] ∧
    (door, s.doorOpen) ∈ [("open", true), ("closed", false)] ∧
    (handle, s.handleRaised) ∈ [("raised", true), ("lowered", false)] ∧
    Literal32 encoder.toList s.encoder ∧
    Spaced (["OK:", "status", bolt, door, handle, encoder].map String.toList) reply.toList

/-- The text of a range: its ends with a dash between them. -/
def SpellsRange (text : List Char) (r : EncoderRange) : Prop :=
  ∃ lo hi, text = lo ++ '-' :: hi ∧ Literal32 lo r.lo ∧ Literal32 hi r.hi ∧ r.lo ≤ r.hi

/-- The text of a calibration: OK, colons or none, and four words. -/
def ReportsCalibration (reply : String) (found : Calibration) : Prop :=
  ∃ gap colons body locked unlocked,
    reply.toList = gap ++ "OK".toList ++ colons ++ body ∧
    (∀ c ∈ gap, isBlank c = true) ∧ (∀ c ∈ colons, c = ':') ∧
    Spaced ["locked".toList, locked, "unlocked".toList, unlocked] body ∧
    SpellsRange locked found.locked ∧ SpellsRange unlocked found.unlocked

section Status

theorem ofWord_eq_ok_iff {w : String} {b : BoltState} : BoltState.ofWord w = .ok b ↔
    (w, b) ∈ [("locked", BoltState.locked), ("unlocked", .unlocked), ("unknown", .unknown)] := by
  unfold BoltState.ofWord
  cases b <;> simp
  all_goals grind

theorem readFlag?_eq_some_iff {yes no w : String} {flag : Bool} (h : yes ≠ no) :
    readFlag? yes no w = some flag ↔ (w, flag) ∈ [(yes, true), (no, false)] := by
  unfold readFlag?
  cases flag <;> simp
  all_goals grind

theorem readStatus_eq_ok_iff {reply : String} {s : Status} :
    readStatus reply = .ok s ↔ ReportsStatus reply s := by
  simp only [ReportsStatus, ← words_eq_iff, ← int32?_eq_some_iff, ← ofWord_eq_ok_iff,
    ← readFlag?_eq_some_iff (show "open" ≠ "closed" by decide),
    ← readFlag?_eq_some_iff (show "raised" ≠ "lowered" by decide)]
  constructor
  · intro read
    unfold readStatus at read
    dsimp only at read
    split at read
    · next ok keyword bolt door handle encoder words =>
      split at read
      · next leads =>
        obtain ⟨rfl, rfl⟩ := leads
        split at read
        · cases read
        · next bolt' isBolt =>
          split at read
          · next door' handle' encoder' isDoor isHandle isEncoder =>
            cases read
            exact ⟨bolt, door, handle, encoder, isBolt, isDoor, isHandle, isEncoder, words⟩
          · cases read
      · cases read
    · cases read
  · rintro ⟨bolt, door, handle, encoder, isBolt, isDoor, isHandle, isEncoder, words⟩
    simp [readStatus, words, isBolt, isDoor, isHandle, isEncoder]

end Status

section Range

variable {s l r lo hi lo' hi' : List Char} {v v' : Int} {range : EncoderRange}

theorem splitDash?_eq_some_iff : splitDash? s = some (l, r) ↔ s = l ++ '-' :: r ∧ '-' ∉ l := by
  induction s generalizing l with
  | nil => simp [splitDash?]
  | cons c cs ih =>
      rw [splitDash?]
      split
      · next dash =>
        subst dash
        cases l with
        | nil => simp [eq_comm]
        | cons d ds =>
            simp only [Option.some.injEq, Prod.mk.injEq, List.nil_eq, reduceCtorEq, false_and, List.cons_append,
              List.cons.injEq, List.mem_cons, false_iff]
            exact fun ⟨⟨first, _⟩, other⟩ => other (.inl first)
      · next other =>
        simp only [Option.map_eq_some_iff, Prod.exists, Prod.mk.injEq]
        constructor
        · rintro ⟨l', r', split, rfl, rfl⟩
          obtain ⟨rfl, open'⟩ := ih.mp split
          exact ⟨rfl, by simp [open', Ne.symm other]⟩
        · rintro ⟨eq, open'⟩
          cases l with
          | nil => exact absurd (List.cons.inj eq).1 other
          | cons d ds =>
              obtain ⟨rfl, rfl⟩ := List.cons.inj eq
              exact ⟨ds, r, ih.mpr ⟨rfl, fun mem => open' (List.mem_cons_of_mem _ mem)⟩, rfl, rfl⟩

theorem dash_notMem_tail {c : Char} (h : Decimal (c :: l) v) : '-' ∉ l :=
  fun mem => absurd (h.digits_of_tail '-' mem) (by decide)

/-- Only the first character of a literal can be a dash, and so a literal ends at the first dash behind it. -/
theorem literal_before_dash_unique (h : Decimal lo v) (h' : Decimal lo' v')
    (same : lo ++ '-' :: hi = lo' ++ '-' :: hi') : lo = lo' ∧ hi = hi' := by
  obtain ⟨c, l, rfl⟩ := List.exists_cons_of_ne_nil h.ne_nil
  obtain ⟨c', l', rfl⟩ := List.exists_cons_of_ne_nil h'.ne_nil
  obtain ⟨rfl, rest⟩ := List.cons.inj same
  have first : splitDash? (l ++ '-' :: hi) = some (l, hi) :=
    splitDash?_eq_some_iff.mpr ⟨rfl, dash_notMem_tail h⟩
  have second := splitDash?_eq_some_iff.mpr ⟨rest, dash_notMem_tail h'⟩
  obtain ⟨rfl, rfl⟩ : l = l' ∧ hi = hi' := by simpa using first.symm.trans second
  exact ⟨rfl, rfl⟩

theorem utf8Size_of_literal {c : Char} (h : Decimal (c :: l) v) : c.utf8Size = 1 := by
  rw [Char.utf8Size_eq_one_iff]
  obtain digit | rfl | rfl := h.first
  · rw [Char.isDigit_iff_toNat] at digit
    exact UInt32.le_iff_toNat_le.mpr (digit.2.trans (by decide))
  · decide
  · decide

theorem readRange?_eq_some_iff {text : String} : readRange? text = some range ↔ SpellsRange text.toList range := by
  simp only [SpellsRange, ← int32?_eq_some_iff]
  constructor
  · intro read
    unfold readRange? at read
    split at read
    · cases read
    · next c cs first =>
      split at read
      · split at read
        · cases read
        · next l r split' =>
          split at read
          · next lo hi before after =>
            split at read
            · next ordered =>
              cases read
              obtain ⟨rfl, -⟩ := splitDash?_eq_some_iff.mp split'
              exact ⟨c :: l, r, first, before, after, ordered⟩
            · cases read
          · cases read
      · cases read
  · rintro ⟨lo, hi, spelled, before, after, ordered⟩
    have literal := (int32?_eq_some_iff.mp before).1
    obtain ⟨c, l, rfl⟩ := List.exists_cons_of_ne_nil literal.ne_nil
    have split := splitDash?_eq_some_iff.mpr ⟨(rfl : l ++ '-' :: hi = _), dash_notMem_tail literal⟩
    simp [readRange?, spelled, utf8Size_of_literal literal, split, before, after, ordered]

end Range

section Offsets

def byteLength : List Char → Nat
  | [] => 0
  | c :: cs => c.utf8Size + byteLength cs

/-- The parts of a text before a byte offset and behind it. There are none if it lies within a character. -/
def cutAt? : (offset : Nat) → List Char → Option (List Char × List Char)
  | 0, s => some ([], s)
  | _ + 1, [] => none
  | n + 1, c :: cs =>
      if c.utf8Size ≤ n + 1 then (cutAt? (n + 1 - c.utf8Size) cs).map fun (l, r) => (c :: l, r)
      else none

def dashOffset? : List Char → Option Nat
  | [] => none
  | c :: cs => if c = '-' then some 0 else (dashOffset? cs).map (c.utf8Size + ·)

/-- The range that a text spells, read by byte offsets. The program fails if a text is cut within a character, and
there is no result then. -/
def readRangeByOffsets? (text : List Char) : Option (Option EncoderRange) :=
  match cutAt? 1 text with
  | none => some none
  | some (_, tail) => match dashOffset? tail with
      | none => some none
      | some offset => match cutAt? (offset + 1) text with
          | none => none
          | some (before, _) => match int32? before with
              | none => some none
              | some lo => match cutAt? (offset + 1 + 1) text with
                  | none => none
                  | some (_, after) => match int32? after with
                      | none => some none
                      | some hi => some (if lo ≤ hi then some ⟨lo, hi⟩ else none)

theorem byteLength_append (l r : List Char) : byteLength (l ++ r) = byteLength l + byteLength r := by
  induction l with
  | nil => simp [byteLength]
  | cons c cs ih => rw [List.cons_append, byteLength, byteLength, ih, Nat.add_assoc]

theorem cutAt?_append (l r : List Char) : cutAt? (byteLength l) (l ++ r) = some (l, r) := by
  induction l with
  | nil => simp [byteLength, cutAt?]
  | cons c cs ih =>
      obtain ⟨n, size⟩ := Nat.exists_eq_succ_of_ne_zero (Nat.pos_iff_ne_zero.mp c.utf8Size_pos)
      have total : byteLength (c :: cs) = n + byteLength cs + 1 := by
        rw [byteLength, size]
        omega
      have left : n + byteLength cs + 1 - c.utf8Size = byteLength cs := by omega
      rw [total, List.cons_append, cutAt?, if_pos (by omega), left, ih]
      rfl

theorem dashOffset?_eq (s : List Char) : dashOffset? s = (splitDash? s).map fun (l, _) => byteLength l := by
  induction s with
  | nil => rfl
  | cons c cs ih =>
      rw [dashOffset?, splitDash?]
      split
      · rfl
      · rw [ih, Option.map_map, Option.map_map]
        rfl

/-- No text is cut within a character. -/
theorem readRangeByOffsets?_eq (text : String) : readRangeByOffsets? text.toList = some (readRange? text) := by
  unfold readRangeByOffsets? readRange?
  cases text.toList with
  | nil => rfl
  | cons c cs =>
      by_cases size : c.utf8Size = 1
      · have first : cutAt? 1 (c :: cs) = some ([c], cs) := by
          simpa [byteLength, size] using cutAt?_append [c] cs
        simp only [first, if_pos size, dashOffset?_eq]
        cases split : splitDash? cs with
        | none => rfl
        | some parts =>
            obtain ⟨l, r⟩ := parts
            obtain ⟨rfl, -⟩ := splitDash?_eq_some_iff.mp split
            have before : cutAt? (byteLength l + 1) (c :: (l ++ '-' :: r)) = some (c :: l, '-' :: r) := by
              simpa [byteLength, size, Nat.add_comm] using cutAt?_append (c :: l) ('-' :: r)
            have after : cutAt? (byteLength l + 1 + 1) (c :: (l ++ '-' :: r)) =
                some (c :: (l ++ ['-']), r) := by
              have dash : '-'.utf8Size = 1 := rfl
              have := cutAt?_append (c :: (l ++ ['-'])) r
              simpa [byteLength, byteLength_append, size, dash, Nat.add_comm, Nat.add_assoc] using this
            simp only [Option.map_some, before, after]
            cases int32? (c :: l) with
            | none => rfl
            | some lo => cases int32? r <;> rfl
      · have first : cutAt? 1 (c :: cs) = none := by
          have := c.utf8Size_pos
          rw [cutAt?, if_neg (by omega)]
        simp only [first, if_neg size]

end Offsets

section Calibration

variable {reply : String} {c : Calibration}

theorem readAck_eq_ok_iff {command : Command} {body : String} : readAck command reply = .ok body ↔
    ∃ rest, trim reply.toList = "OK".toList ++ rest ∧
      body = String.ofList (trim (rest.dropWhile (· = ':'))) := by
  unfold readAck
  dsimp only
  split
  · next rest after =>
    have began := after?_eq_some_iff.mp after
    constructor
    · intro read
      exact ⟨rest, began, (Except.ok.inj read).symm⟩
    · rintro ⟨rest', began', rfl⟩
      rw [List.append_cancel_left (began'.symm.trans began)]
  · next none =>
    constructor
    · intro read
      split at read <;> cases read
    · rintro ⟨rest, began, -⟩
      rw [after?_eq_some_iff.mpr began] at none
      cases none

theorem readCalibration_eq_ok_iff : readCalibration reply = .ok c ↔
    ∃ body locked unlocked, readAck .calibrate reply = .ok body ∧
      Text.words body = ["locked", locked, "unlocked", unlocked] ∧
      SpellsRange locked.toList c.locked ∧ SpellsRange unlocked.toList c.unlocked := by
  simp only [← readRange?_eq_some_iff]
  constructor
  · intro read
    unfold readCalibration at read
    dsimp only at read
    split at read
    · cases read
    · next body ack =>
      split at read
      · next k locked l unlocked words =>
        split at read
        · next keys =>
          obtain ⟨rfl, rfl⟩ := keys
          split at read
          · next first second =>
            cases read
            exact ⟨body, locked, unlocked, ack, words, first, second⟩
          · cases read
        · cases read
      · cases read
  · rintro ⟨body, locked, unlocked, ack, words, first, second⟩
    simp [readCalibration, ack, words, first, second]

theorem readCalibration_reports : readCalibration reply = .ok c ↔ ReportsCalibration reply c := by
  rw [readCalibration_eq_ok_iff]
  simp only [readAck_eq_ok_iff]
  constructor
  · rintro ⟨_, locked, unlocked, ⟨rest, began, rfl⟩, words, first, second⟩
    obtain ⟨before, after, split, blanks⟩ := exists_blanks_around_trim reply.toList
    obtain ⟨left, right⟩ := List.forall_mem_append.mp blanks
    refine ⟨before, rest.takeWhile (· = ':'), rest.dropWhile (· = ':') ++ after, locked.toList,
      unlocked.toList, ?_, left, fun c mem => ?_, ?_, first, second⟩
    · rw [split, began]
      conv_lhs => rw [← @List.takeWhile_append_dropWhile _ (· = ':') rest]
      simp only [List.append_assoc]
    · simpa using List.mem_takeWhile_imp mem
    · rw [words_eq_iff, String.toList_ofList, Spaced.trim_iff] at words
      exact words.before_blanks right
  · rintro ⟨gap, colons, body, locked, unlocked, text, blanks, all, words, first, second⟩
    have visible : ∀ c ∈ "OK".toList ++ colons, isBlank c = false := by
      refine List.forall_mem_append.mpr ⟨by simp [isBlank], fun c mem => ?_⟩
      rw [all c mem]
      rfl
    have trimmed : trim reply.toList = "OK".toList ++ (colons ++ dropBlanksRight body) := by
      rw [text, List.append_assoc gap, trim_lead blanks (by simp) visible, List.append_assoc]
    have kept : Spaced _ (dropBlanksRight body) := Spaced.dropBlanksRight_iff.mpr words
    -- The first word of the body is no colon, so that the colons end where it begins.
    have open' : (colons ++ dropBlanksRight body).dropWhile (· = ':') = dropBlanksRight body := by
      rw [List.dropWhile_append_of_pos (by simpa using all)]
      cases h : dropBlanksRight body with
      | nil => rfl
      | cons d ds =>
          refine List.dropWhile_cons_of_neg fun colon => ?_
          obtain rfl : d = ':' := by simpa using colon
          obtain blank | first := kept.head ':' (by rw [h]; rfl)
          · exact absurd blank (by decide)
          · exact absurd first (by decide)
    refine ⟨_, String.ofList locked, String.ofList unlocked, ⟨_, trimmed, rfl⟩, ?_, ?_, ?_⟩
    · rw [words_eq_iff, String.toList_ofList, Spaced.trim_iff, open']
      simpa using kept
    · simpa using first
    · simpa using second

end Calibration

section Rendering

theorem Status.toList_render (s : Status) : s.render.toList = [' '].intercalate
    (["OK:", "status", s.bolt.word, if s.doorOpen then "open" else "closed",
      if s.handleRaised then "raised" else "lowered", toString s.encoder].map String.toList) := by
  change ("OK: status " ++ s.bolt.word ++ " " ++ (if s.doorOpen then "open" else "closed") ++ " " ++
    (if s.handleRaised then "raised" else "lowered") ++ " " ++ toString s.encoder).toList = _
  simp

theorem EncoderRange.toList_render (r : EncoderRange) :
    r.render.toList = (toString r.lo).toList ++ '-' :: (toString r.hi).toList := by
  change (toString r.lo ++ "-" ++ toString r.hi).toList = _
  simp

theorem Calibration.toList_render (c : Calibration) : c.render.toList = [' '].intercalate
    ["locked".toList, c.locked.render.toList, "unlocked".toList, c.unlocked.render.toList] := by
  change ("locked " ++ c.locked.render ++ " unlocked " ++ c.unlocked.render).toList = _
  simp

/-- A range that can be measured. -/
def EncoderRange.Proper (r : EncoderRange) : Prop := Fits32 r.lo ∧ Fits32 r.hi ∧ r.lo ≤ r.hi

instance (r : EncoderRange) : Decidable r.Proper := inferInstanceAs (Decidable (_ ∧ _ ∧ _))

theorem reports_render {s : Status} (h : Fits32 s.encoder) : ReportsStatus s.render s := by
  refine ⟨s.bolt.word, if s.doorOpen then "open" else "closed",
    if s.handleRaised then "raised" else "lowered", toString s.encoder, ?_, ?_, ?_,
    ⟨decimal_toString s.encoder, h⟩, ?_⟩
  · cases s.bolt <;> decide
  · cases s.doorOpen <;> decide
  · cases s.handleRaised <;> decide
  · rw [Status.toList_render]
    refine spaced_intercalate ?_
    have encoder := decimal_toString s.encoder
    simp only [List.map_cons, List.map_nil, List.forall_mem_cons]
    refine ⟨by simp [isBlank], by simp [isBlank], ?_, ?_, ?_, ⟨encoder.ne_nil, encoder.visible⟩,
      List.forall_mem_nil _⟩
    · cases s.bolt <;> simp [BoltState.word, isBlank]
    · cases s.doorOpen <;> simp [isBlank]
    · cases s.handleRaised <;> simp [isBlank]

theorem spells_render {r : EncoderRange} (h : r.Proper) : SpellsRange r.render.toList r :=
  ⟨_, _, r.toList_render, ⟨decimal_toString r.lo, h.1⟩, ⟨decimal_toString r.hi, h.2.1⟩, h.2.2⟩

theorem SpellsRange.visible {text : List Char} {r : EncoderRange} (h : SpellsRange text r) :
    text ≠ [] ∧ ∀ c ∈ text, isBlank c = false := by
  obtain ⟨lo, hi, rfl, ⟨before, -⟩, ⟨after, -⟩, -⟩ := h
  refine ⟨by simp, List.forall_mem_append.mpr ⟨before.visible, ?_⟩⟩
  exact List.forall_mem_cons.mpr ⟨rfl, after.visible⟩

theorem SpellsRange.proper {text : List Char} {r : EncoderRange} (h : SpellsRange text r) : r.Proper := by
  obtain ⟨lo, hi, -, ⟨-, before⟩, ⟨-, after⟩, ordered⟩ := h
  exact ⟨before, after, ordered⟩

theorem reports_rendered_calibration {c : Calibration} (locked : c.locked.Proper)
    (unlocked : c.unlocked.Proper) : ReportsCalibration ("OK: " ++ c.render) c := by
  have first := spells_render locked
  have second := spells_render unlocked
  refine ⟨[], [':'], ' ' :: c.render.toList, _, _, by simp, by simp, by simp, ?_, first, second⟩
  change Spaced _ ([' '] ++ c.render.toList)
  refine Spaced.after_blanks ?_ (List.forall_mem_singleton.mpr rfl)
  rw [Calibration.toList_render]
  refine spaced_intercalate ?_
  simp only [List.forall_mem_cons]
  exact ⟨by simp [isBlank], first.visible, by simp [isBlank], second.visible, List.forall_mem_nil _⟩

end Rendering

/-- A reply is read as a status, or as a calibration, exactly if it is a text of it. The ends of a range can be
told apart, no reading cuts a character, and what is written is read back. -/
theorem replies_read_as_written :
    (∀ reply s, readStatus reply = .ok s ↔ ReportsStatus reply s) ∧
    (∀ reply c, readCalibration reply = .ok c ↔ ReportsCalibration reply c) ∧
    (∀ lo hi lo' hi' v v', Literal32 lo v → Literal32 lo' v' →
      lo ++ '-' :: hi = lo' ++ '-' :: hi' → lo = lo' ∧ hi = hi') ∧
    (∀ text : String, readRangeByOffsets? text.toList = some (readRange? text)) ∧
    (∀ s : Status, readStatus s.render = .ok s ↔ Fits32 s.encoder) ∧
    ∀ c : Calibration, readCalibration ("OK: " ++ c.render) = .ok c ↔ c.locked.Proper ∧ c.unlocked.Proper := by
  refine ⟨fun _ _ => readStatus_eq_ok_iff, fun _ _ => readCalibration_reports, ?_,
    readRangeByOffsets?_eq, fun s => ?_, fun c => ?_⟩
  · intro lo hi lo' hi' v v' first second same
    exact literal_before_dash_unique first.1 second.1 same
  · rw [readStatus_eq_ok_iff]
    refine ⟨?_, reports_render⟩
    rintro ⟨_, _, _, _, -, -, -, encoder, -⟩
    exact encoder.2
  · rw [readCalibration_reports]
    refine ⟨?_, fun ⟨locked, unlocked⟩ => reports_rendered_calibration locked unlocked⟩
    rintro ⟨_, _, _, _, _, -, -, -, -, locked, unlocked⟩
    exact ⟨locked.proper, unlocked.proper⟩

/-- The widest ranges on both sides of zero. -/
theorem widest_calibration_read :
    Literal32 "-2147483648".toList (-2147483648) ∧
    ("-2147483648".toList = (toString (-2147483648 : Int)).toList ∧ "-1".toList = (toString (-1 : Int)).toList) ∧
    (let s : Status := ⟨.unknown, true, false, -2147483648⟩
    readStatus s.render = .ok s) ∧
    let c : Calibration := ⟨⟨-2147483648, -1⟩, ⟨0, 2147483647⟩⟩
    readCalibration ("OK: " ++ c.render) = .ok c := by
  have least : Literal32 "-2147483648".toList (-2147483648) := int32?_eq_some_iff.mp (by decide)
  obtain ⟨-, -, split, -, status, calibration⟩ := replies_read_as_written
  refine ⟨least, split _ _ _ _ _ _ least ⟨decimal_toString _, by decide⟩ (by decide), ?_, ?_⟩
  · exact (status _).mpr (by decide)
  · exact (calibration _).mpr (by decide)

end DoorControl.Lock
