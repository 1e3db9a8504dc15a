/- How long the answer to a refused card is shown, and what it leaves at a locked door. -/
import DoorControl.Proofs.Door.Shown

namespace DoorControl.Door

open Reader (Pattern Sound)

namespace Run

variable {r : Run} {k n : Nat}

/-- What takes the place of a refusal. -/
def SupersedesAt (r : Run) (k n : Nat) : Prop :=
  r.AdmitsAt n ∨ r.WarnsAt n ∨ r.RestsAt n ∧ r.timeAt k + r.settings.message ≤ r.timeAt n

theorem StandsAt.eq_of_latest {j : Nat} (stands : r.StandsAt n j) (refused : r.RefusesAt k)
    (before : k < n) (latest : ∀ j, k < j → j < n → ¬r.RefusesAt j) : j = k := by
  obtain earlier | same | later := Nat.lt_trichotomy j k
  · exact absurd refused (stands.latest k earlier before)
  · exact same
  · exact absurd stands.refused (latest j later stands.before)

theorem unpainted_iff_unsuperseded (refused : r.RefusesAt k)
    (latest : ∀ j, k < j → j ≤ n → ¬r.RefusesAt j) :
    (∀ j, k < j → j ≤ n → r.paintedAt j = none) ↔ ∀ j, k < j → j ≤ n → ¬r.SupersedesAt k j := by
  have begun {j : Nat} (after : k < j) : 0 < j := Nat.zero_lt_of_lt after
  constructor
  · intro unpainted j after within
    obtain ⟨-, unadmitted, unwarned, recalls⟩ :=
      (paintedAt_eq_none_iff (begun after)).mp (unpainted j after within)
    rintro (admitted | warned | ⟨rests, past⟩)
    · exact unadmitted admitted
    · exact unwarned warned
    · obtain ⟨l, stands, early⟩ := recalls rests
      obtain rfl := stands.eq_of_latest refused after fun l later before =>
        latest l later (Nat.le_trans (Nat.le_of_lt before) within)
      omega
  · intro unsuperseded j after within
    have early (l : Nat) (later : k < l) (before : l ≤ j) (rests : r.RestsAt l) :
        r.timeAt l < r.timeAt k + r.settings.message := by
      by_contra past
      exact unsuperseded l later (Nat.le_trans before within) (.inr (.inr ⟨rests, Nat.le_of_not_lt past⟩))
    have stands : r.StandsAt j k := {
      refused
      before := after
      latest l later before := latest l later (Nat.le_trans (Nat.le_of_lt before) within)
      early l later before := early l later (Nat.le_of_lt before) }
    refine (paintedAt_eq_none_iff (begun after)).mpr ⟨latest j after within, ?_, ?_, ?_⟩
    · exact fun admitted => unsuperseded j after within (.inl admitted)
    · exact fun warned => unsuperseded j after within (.inr (.inl warned))
    · exact fun rests => ⟨k, stands, early j after (Nat.le_refl j) rests⟩

theorem refusalAt_of_painted {p : Pattern} (refusal : p = .noEntry ∨ p = .error)
    (painted : r.paintedAt n = some p) : r.refusalAt n = some p := by
  have painting := r.painting n
  rw [painted] at painting
  cases painting with
  | refuse refused => exact refused
  | begin | enter | warn | ready | opened => simp at refusal

/-- A refusal is shown until a card is let in, the end of a timed unlock is announced, or the door rests
when the time of the refusal is over. A timed unlock that is not about to end shows it on. -/
theorem refusal_shown_until_superseded (r : Run) {k n : Nat} (upto : k ≤ n) (refused : r.RefusesAt k)
    (latest : ∀ j, k < j → j ≤ n → ¬r.RefusesAt j) :
    r.shownAfter n = some .noEntry ∨ r.shownAfter n = some .error ↔
      ∀ j, k < j → j ≤ n → ¬r.SupersedesAt k j := by
  rw [← unpainted_iff_unsuperseded refused latest]
  obtain ⟨p, refusal, painted⟩ := refused.painted
  constructor
  · intro shown
    obtain ⟨q, answer, shown⟩ : ∃ q, (q = .noEntry ∨ q = .error) ∧ r.shownAfter n = some q := by
      obtain shown | shown := shown
      · exact ⟨_, .inl rfl, shown⟩
      · exact ⟨_, .inr rfl, shown⟩
    -- what is shown now was shown last by a refusal, and that can only be the latest one
    obtain ⟨l, before, again, still⟩ := (r.shownAfter_eq_some_iff n q).mp shown
    have refuses : r.RefusesAt l := (r.refusesAt_iff l).mpr (by simp [refusalAt_of_painted answer again])
    obtain earlier | rfl | later := Nat.lt_trichotomy l k
    · simp [still k earlier upto] at painted
    · exact still
    · exact absurd refuses (latest l later before)
  · intro still
    have shown : r.shownAfter n = some p := (r.shownAfter_eq_some_iff n p).mpr ⟨k, upto, painted, still⟩
    obtain rfl | rfl := r.refusalAt_cases k refusal
    · exact .inl shown
    · exact .inr shown

/-- Turns at even intervals, in the second of which a forbidden card is swiped. -/
def rebuffed (interval : Nat) (keys : Nat → Keys) : Run :=
  { greenHeld with
    moments n := { greenHeld.moments n with
      inputs := { (greenHeld.moments n).inputs with
        now := n * interval
        keys := keys n
        card := if n = 1 then some .smallest else none } } }

theorem rebuffed_ordered (interval : Nat) (keys : Nat → Keys) : (rebuffed interval keys).Ordered := by
  intro n
  exact Nat.mul_le_mul_right interval (Nat.le_succ n)

/-- No button goes down after the refusal. -/
def leftAlone : Run := rebuffed 5000 fun _ => {}

theorem leftAlone_recovers : leftAlone.shownAfter 3 ≠ some .noEntry ∧ leftAlone.shownAfter 3 ≠ some .error := by
  obtain ⟨refused, latest, locked⟩ : leftAlone.RefusesAt 1 ∧ (∀ j ≤ 3, 1 < j → ¬leftAlone.RefusesAt j) ∧
      (leftAlone.commandedAt 3).mode = .locked := by
    decide +kernel
  have shown := refusal_shown_until_superseded leftAlone (by decide : 1 ≤ 3) refused
    fun j after within => latest j within after
  refine not_or.mp fun refusal => ?_
  exact shown.mp refusal 3 (by decide) (Nat.le_refl 3) (.inr (.inr ⟨.inl locked, by decide⟩))

/-- The green button goes down after the refusal. -/
def greenNext : Run := rebuffed 5000 fun n => { green := decide (2 ≤ n) }

theorem greenNext_shows_refusal_on :
    greenNext.Ordered ∧ greenNext.settings.fault? = none ∧ greenNext.RefusesAt 1 ∧
      (∀ j ≤ 3, 1 < j → ¬greenNext.RefusesAt j) ∧
      greenNext.timeAt 1 + greenNext.settings.message ≤ greenNext.timeAt 3 ∧
      greenNext.shownAfter 3 = some .noEntry := by
  refine ⟨rebuffed_ordered _ _, ?_⟩
  decide +kernel

theorem AdmitsAt.mode_after (admitted : r.AdmitsAt n) : (r.stateAt (n + 1)).mode = .timed := by
  obtain ⟨locked, answer, answered, allowed⟩ := admitted
  have course := r.stateAt_course_of_answer n
  rw [if_pos ⟨locked, List.any_eq_true.mpr ⟨answer, answered, allowed⟩⟩] at course
  exact congrArg Course.mode course

/-- A refusal still has time, and something else has been shown since. -/
def OverlaidAt (r : Run) (n : Nat) : Prop :=
  ¬r.RefusesAt n ∧ ∃ k, r.StandsAt n k ∧ r.timeAt n < r.timeAt k + r.settings.message ∧
    ∃ j, k < j ∧ j < n ∧ (r.AdmitsAt j ∨ r.WarnsAt j)

theorem OverlaidAt.recalls (overlaid : r.OverlaidAt n) : r.RecallsAt n := by
  obtain ⟨-, k, stands, early, -⟩ := overlaid
  exact ⟨k, stands, early⟩

theorem StandsAt.recalls {j : Nat} (stands : r.StandsAt n k) (after : k < j) (before : j < n)
    (rests : r.RestsAt j) : r.RecallsAt j :=
  ⟨k, stands.earlier after (Nat.le_of_lt before), stands.early j after before rests⟩

/-- As long as a refusal has time, the reader shows it or what has been shown in its place. -/
theorem StandsAt.shown (stands : r.StandsAt n k) (unpainted : r.paintedAt n = none) :
    r.shownAfter n = r.refusalAt k ∧ (∀ j, k < j → j < n → ¬(r.AdmitsAt j ∨ r.WarnsAt j)) ∨
      (r.shownAfter n = some .enter ∨ r.shownAfter n = some .warnClosing) ∧
        ∃ j, k < j ∧ j < n ∧ (r.AdmitsAt j ∨ r.WarnsAt j) := by
  obtain ⟨p, refusal, painted⟩ := stands.refused.painted
  obtain ⟨j, q, since, upto, last, shown, still⟩ := exists_shown_last (Nat.le_of_lt stands.before) painted
  have before : j < n := by
    refine Nat.lt_of_le_of_ne upto ?_
    rintro rfl
    simp [unpainted] at last
  -- either nothing has been shown since the refusal, or it was a card let in or a warning
  obtain rfl | after := Nat.eq_or_lt_of_le since
  · refine .inl ⟨?_, ?_⟩
    · rw [shown, refusal, ← painted, last]
    · intro l later within covered
      have nothing := (paintedAt_eq_none_iff (Nat.zero_lt_of_lt later)).mp
        (still l later (Nat.le_of_lt within))
      exact covered.elim nothing.2.1 nothing.2.2.1
  · refine .inr ?_
    obtain ⟨rfl, admitted⟩ | ⟨rfl, warned⟩ := painted_of_recalls (Nat.zero_lt_of_lt after)
      (stands.latest j after before) (stands.recalls after before) last
    · exact ⟨.inl shown, j, after, before, .inl admitted⟩
    · exact ⟨.inr shown, j, after, before, .inr warned⟩

/-- A door that is and stays locked shows that it is ready, or how it has answered a card, unless a refusal
that still has time has been overlaid. -/
theorem locked_door_shows_locked_unless_overlaid (r : Run) (n : Nat)
    (before : (r.stateAt n).mode = .locked) (silent : (r.snapshotAt n).remote = none)
    (after : (r.stateAt (n + 1)).mode = .locked) :
    (¬r.OverlaidAt n → r.shownAfter n = some .ready ∨
      (r.shownAfter n = some .noEntry ∨ r.shownAfter n = some .error) ∧
        ∃ k ≤ n, r.refusalAt k = r.shownAfter n) ∧
    (r.OverlaidAt n → r.shownAfter n = some .enter ∨ r.shownAfter n = some .warnClosing) := by
  have locked : (r.commandedAt n).mode = .locked := by
    unfold commandedAt Course.commanded
    rw [silent]
    exact before
  have answered {k : Nat} {p : Pattern} (upto : k ≤ n) (refusal : r.refusalAt k = some p)
      (shown : r.shownAfter n = some p) :
      (r.shownAfter n = some .noEntry ∨ r.shownAfter n = some .error) ∧
        ∃ k ≤ n, r.refusalAt k = r.shownAfter n := by
    refine ⟨?_, k, upto, refusal.trans shown.symm⟩
    obtain rfl | rfl := r.refusalAt_cases k refusal
    · exact .inl shown
    · exact .inr shown
  have shown {p : Pattern} (painted : r.paintedAt n = some p) : r.shownAfter n = some p :=
    (r.shownAfter_eq_some_iff n p).mpr ⟨n, Nat.le_refl n, painted, by omega⟩
  have painting := r.painting n
  generalize painted : r.paintedAt n = p at painting
  cases painting with
  | begin initial => simp [locked] at initial
  | refuse refusal =>
      refine ⟨fun _ => .inr (answered (Nat.le_refl n) refusal (shown painted)), ?_⟩
      intro overlaid
      exact absurd ((r.refusesAt_iff n).mpr (by simp [refusal])) overlaid.1
  | enter admitted => simp [admitted.mode_after] at after
  | warn warned => simp [warned.1.before] at locked
  | ready _ calm =>
      refine ⟨fun _ => .inl (shown painted), ?_⟩
      intro overlaid
      simp [waitsAt_iff.mpr overlaid.recalls] at calm
  | opened opened => simp [locked] at opened
  | keep _ unrefused _ _ waits =>
      -- the turn shows nothing of its own, for the sake of a refusal
      obtain ⟨k, stands, early⟩ := waitsAt_iff.mp (waits (.inl locked))
      obtain ⟨p, refusal, -⟩ := stands.refused.painted
      obtain ⟨same, uncovered⟩ | ⟨other, covered⟩ := stands.shown painted
      · refine ⟨fun _ => .inr (answered (Nat.le_of_lt stands.before) refusal (same.trans refusal)), ?_⟩
        rintro ⟨-, l, others, -, j, after, before, covers⟩
        obtain rfl := others.eq_of_latest stands.refused stands.before stands.latest
        exact absurd covers (uncovered j after before)
      · refine ⟨?_, fun _ => other⟩
        intro clear
        exact absurd ⟨unrefused, k, stands, early, covered⟩ clear

/-- The leave button goes down after the refusal, and has unlocked the door for less time than that has. -/
def leaveNext : Run := rebuffed 1000 fun n => { leave := decide (n = 2) }

theorem leaveNext_overlaid : leaveNext.OverlaidAt 8 := by
  obtain ⟨unrefused, refused, latest, early, before, after, leave, late⟩ :
      ¬leaveNext.RefusesAt 8 ∧ leaveNext.RefusesAt 1 ∧ (∀ j < 8, 1 < j → ¬leaveNext.RefusesAt j) ∧
      (∀ j < 8, 1 < j → leaveNext.RestsAt j →
        leaveNext.timeAt j < leaveNext.timeAt 1 + leaveNext.settings.message) ∧
      (leaveNext.commandedAt 6).mode = .timed ∧ (leaveNext.stateAt 7).mode = .timed ∧
      (leaveNext.pressedAt 6).leave = false ∧ leaveNext.leftAt 6 ≤ leaveNext.settings.unlockWarn := by
    decide +kernel
  have stands : leaveNext.StandsAt 8 1 := {
    refused
    before := by decide
    latest j later within := latest j within later
    early j later within := early j within later }
  have warns : leaveNext.WarnsAt 6 := ⟨⟨before, after, leave⟩, late⟩
  exact ⟨unrefused, 1, stands, by decide, 6, by decide, by decide, .inr warns⟩

theorem locked_doors_show :
    (leftAlone.shownAfter 2 = some .ready ∨
      (leftAlone.shownAfter 2 = some .noEntry ∨ leftAlone.shownAfter 2 = some .error) ∧
        ∃ k ≤ 2, leftAlone.refusalAt k = leftAlone.shownAfter 2) ∧
    (leaveNext.shownAfter 8 = some .enter ∨ leaveNext.shownAfter 8 = some .warnClosing) := by
  obtain ⟨⟨before, after, unrefused⟩, relocked, still⟩ : ((leftAlone.stateAt 2).mode = .locked ∧
      (leftAlone.stateAt 3).mode = .locked ∧ ¬leftAlone.RefusesAt 0) ∧
      (leaveNext.stateAt 8).mode = .locked ∧ (leaveNext.stateAt 9).mode = .locked := by
    decide +kernel
  have clear : ¬leftAlone.OverlaidAt 2 := by
    rintro ⟨-, k, stands, -, j, later, within, -⟩
    obtain rfl : k = 0 := by omega
    exact unrefused stands.refused
  exact ⟨(locked_door_shows_locked_unless_overlaid leftAlone 2 before rfl after).1 clear,
    (locked_door_shows_locked_unless_overlaid leaveNext 8 relocked rfl still).2 leaveNext_overlaid⟩

theorem leaveNext_shows_warning_when_locked :
    leaveNext.Ordered ∧ leaveNext.settings.fault? = none ∧ (leaveNext.snapshotAt 8).remote = none ∧
      (leaveNext.stateAt 8).mode = .locked ∧ (leaveNext.stateAt 9).mode = .locked ∧
      leaveNext.shownAfter 8 = some .warnClosing := by
  refine ⟨rebuffed_ordered _ _, ?_⟩
  decide +kernel

end Run

end DoorControl.Door
