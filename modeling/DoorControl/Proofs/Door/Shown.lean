/- What the reader has been asked for last in a run, told by the turns of the run. -/
import DoorControl.Proofs.Door.Signals
import DoorControl.Proofs.Latest

namespace DoorControl.Door

open Reader (Pattern Sound)

def State.signals (state : State) : Signals where
  patterns := []
  sounds := []
  pattern := state.pattern
  sound := state.sound
  feedbackUntil := state.feedbackUntil

theorem Moment.turn_signals (s : Settings) (m : Moment) (state : State) :
    (m.turn s state).signals = state.signals.follow s m.inputs.now
      (cue s (m.snapshot state) (m.prepared s state).state.mode
        (m.prepared s state).state.deadline) := by
  have prepared : (m.prepared s state).signals = state.signals :=
    Turn.prepare_signals s (m.snapshot state) _
  rw [turn_eq, Turn.driveLock_signals, Turn.armDeadline_signals, Turn.handleMode_signals, prepared]
  rfl

namespace Run

variable (r : Run) (n : Nat)

/-- All patterns that the reader has been asked for before a turn. -/
def patternsBefore : List Pattern :=
  (List.range n).flatMap fun k => (r.turnAt k).deeds.filterMap Deed.pattern?

def soundsBefore : List Sound :=
  (List.range n).flatMap fun k => (r.turnAt k).deeds.filterMap Deed.sound?

/-- The pattern that the reader has been asked for last when a turn is over. -/
def shownAfter : Option Pattern := (r.patternsBefore (n + 1)).getLast?

/-- The sound that the reader has been asked for last. A reader is silent until then. -/
def playedAfter : Sound := (r.soundsBefore (n + 1)).getLast?.getD .none

def cueAt : Cue := cue r.settings (r.snapshotAt n) (r.commandedAt n).mode (r.commandedAt n).deadline

/-- Whether the answer to a card is still being shown when a turn begins. -/
def waitsAt : Bool := (r.stateAt n).signals.waits (r.timeAt n)

def paintedAt : Option Pattern := (r.cueAt n).painted (r.waitsAt n)

theorem turnAt_signals :
    (r.turnAt n).signals = (r.stateAt n).signals.follow r.settings (r.timeAt n) (r.cueAt n) := by
  have prepared := (r.moments n).prepared_course r.settings (r.stateAt n)
  have mode : ((r.moments n).prepared r.settings (r.stateAt n)).state.mode = (r.commandedAt n).mode :=
    congrArg Course.mode prepared
  have deadline : ((r.moments n).prepared r.settings (r.stateAt n)).state.deadline =
    (r.commandedAt n).deadline := congrArg Course.deadline prepared
  have signals := (r.moments n).turn_signals r.settings (r.stateAt n)
  rw [mode, deadline] at signals
  exact signals

theorem stateAt_pattern :
    (r.stateAt (n + 1)).pattern = (r.paintedAt n).or (r.stateAt n).pattern :=
  (congrArg Signals.pattern (r.turnAt_signals n)).trans (Signals.follow_pattern _ _ _ _)

theorem stateAt_sound :
    (r.stateAt (n + 1)).sound = (r.cueAt n).sound.getD (r.stateAt n).sound :=
  (congrArg Signals.sound (r.turnAt_signals n)).trans (Signals.follow_sound _ _ _ _)

theorem stateAt_feedbackUntil : (r.stateAt (n + 1)).feedbackUntil =
    if (r.cueAt n).refusal.isSome then some (r.timeAt n + r.settings.message)
    else if (r.cueAt n).idle.isSome && !r.waitsAt n then none
    else (r.stateAt n).feedbackUntil :=
  (congrArg Signals.feedbackUntil (r.turnAt_signals n)).trans (Signals.follow_feedbackUntil _ _ _ _)

theorem turnAt_faithful :
    (r.turnAt n).signals.Faithful (r.stateAt n).pattern (r.stateAt n).sound := by
  rw [turnAt_signals]
  exact Signals.Faithful.follow (g := (r.stateAt n).signals) ⟨rfl, rfl⟩ _ _ _

/-- The door remembers what it has asked the reader for. -/
theorem remembered : (r.patternsBefore n).getLast? = (r.stateAt n).pattern ∧
    (r.soundsBefore n).getLast?.getD .none = (r.stateAt n).sound := by
  induction n with
  | zero => exact ⟨rfl, rfl⟩
  | succ n ih =>
      have faithful := r.turnAt_faithful n
      unfold patternsBefore soundsBefore at ih ⊢
      simp only [List.range_succ, List.flatMap_append, List.flatMap_singleton, List.getLast?_append]
      constructor
      · rw [ih.1]
        exact faithful.pattern.symm
      · refine Eq.trans ?_ faithful.sound.symm
        rw [← ih.2]
        change ((((r.turnAt n).signals.sounds).getLast?).or _).getD _ = _
        cases (r.turnAt n).signals.sounds.getLast? <;> rfl

theorem shownAfter_eq : r.shownAfter n = (r.stateAt (n + 1)).pattern := (r.remembered (n + 1)).1

theorem playedAfter_eq : r.playedAfter n = (r.stateAt (n + 1)).sound := (r.remembered (n + 1)).2

theorem shownAfter_eq_some_iff (p : Pattern) : r.shownAfter n = some p ↔
    ∃ j ≤ n, r.paintedAt j = some p ∧ ∀ l, j < l → l ≤ n → r.paintedAt l = none := by
  have step (k : Nat) : (r.stateAt (k + 1)).pattern =
      ((r.paintedAt k).map some).getD (r.stateAt k).pattern := by
    rw [stateAt_pattern]
    cases r.paintedAt k <;> rfl
  rw [shownAfter_eq, eq_iff_written_last (fun k => (r.stateAt k).pattern) step]
  simp only [Nat.lt_succ_iff]
  simp [stateAt]

/-- A turn asks about a card and does not let it in. -/
def RefusesAt : Prop := ∃ answer ∈ r.answersAt n, answer.2.isAllowed = false

instance : Decidable (r.RefusesAt n) :=
  inferInstanceAs (Decidable (∃ answer ∈ r.answersAt n, answer.2.isAllowed = false))

/-- A turn lets a card in at a locked door. -/
def AdmitsAt : Prop :=
  (r.commandedAt n).mode = .locked ∧ ∃ answer ∈ r.answersAt n, answer.2.isAllowed = true

/-- A turn comes to the mode of a locked door or to that of an open one. -/
def RestsAt : Prop := (r.commandedAt n).mode = .locked ∨ (r.commandedAt n).mode = .opened

instance : Decidable (r.RestsAt n) :=
  inferInstanceAs (Decidable ((r.commandedAt n).mode = .locked ∨ (r.commandedAt n).mode = .opened))

/-- A turn leaves a timed unlock to its deadline. -/
structure LingersAt : Prop where
  before : (r.commandedAt n).mode = .timed
  after : (r.stateAt (n + 1)).mode = .timed
  leave : (r.pressedAt n).leave = false

/-- A turn starts a timed unlock anew by the leave button. -/
structure RenewsAt : Prop where
  before : (r.commandedAt n).mode = .timed
  after : (r.stateAt (n + 1)).mode = .timed
  leave : (r.pressedAt n).leave = true

def leftAt : Nat := ((r.commandedAt n).deadline.map (· - r.timeAt n)).getD 0

/-- A turn finds a timed unlock about to end. -/
def WarnsAt : Prop := r.LingersAt n ∧ r.leftAt n ≤ r.settings.unlockWarn

def refusalAt : Option Pattern := refusal? (r.snapshotAt n) (r.commandedAt n).mode

theorem refusesAt_iff : r.RefusesAt n ↔ (r.refusalAt n).isSome = true := by
  unfold RefusesAt refusalAt refusal? answersAt
  rw [checksAt_eq]
  cases asked? (r.snapshotAt n) (r.commandedAt n).mode with
  | none => simp
  | some card =>
      have same : (r.snapshotAt n).access = (r.moments n).inputs.access := rfl
      cases answer : (r.moments n).inputs.access card <;>
        simp [same, answer, refusalPattern?, AccessResult.isAllowed]

theorem admitsAt_iff : r.AdmitsAt n ↔
    (r.commandedAt n).mode = .locked ∧ admits (r.snapshotAt n) = true := by
  rw [r.admits_iff n, List.any_eq_true]
  rfl

end Run

theorem Passage.lingers_iff {s : Settings} {i : Snapshot} {mode : Mode} {d d' : Option Nat}
    (passage : Passage s i .timed d mode d') : lingers i d = true ↔ mode = .timed := by
  cases passage with
  | relock _ why =>
      obtain red | due := why
      · simp [lingers, red]
      · cases d with
        | none => simp [lingers]
        | some time => simp [lingers, due time rfl]
  | openEarly time red ahead white day => simp [lingers, white, day]
  | prolong time red ahead white | wait time red ahead white =>
      cases pressed : i.pressed.white with
      | true => simp [lingers, red, ahead, white pressed]
      | false => simp [lingers, red, ahead, pressed]

namespace Run

variable (r : Run) (n : Nat)

theorem cueAt_of_locked (locked : (r.commandedAt n).mode = .locked) : r.cueAt n = {
    idle := some .ready
    sound := some .none
    prompt := if admits (r.snapshotAt n) then some .enter else none
    refusal := r.refusalAt n } := by
  unfold cueAt refusalAt
  rw [locked]
  rfl

theorem cueAt_of_opened (opened : (r.commandedAt n).mode = .opened) : r.cueAt n = {
    idle := some .opened
    sound := some .none
    refusal := r.refusalAt n } := by
  unfold cueAt refusalAt
  rw [opened]
  rfl

theorem cueAt_of_initial (initial : (r.commandedAt n).mode = .initial) :
    r.cueAt n = { prompt := some .ready } := by
  unfold cueAt
  rw [initial]
  rfl

theorem cueAt_of_timed (timed : (r.commandedAt n).mode = .timed) : r.cueAt n =
    if (r.stateAt (n + 1)).mode = .timed then
      if (r.pressedAt n).leave then { sound := some .none } else warning r.settings (r.leftAt n)
    else {} := by
  have passage := r.passage n
  rw [timed] at passage
  have goesOn := passage.lingers_iff
  unfold cueAt cue
  rw [timed, ← r.snapshotAt_pressed n]
  dsimp only
  by_cases after : (r.stateAt (n + 1)).mode = .timed
  · rw [goesOn.mpr after, if_pos after]
    rfl
  · rw [Bool.eq_false_iff.mpr fun h => after (goesOn.mp h), if_neg after]
    rfl

theorem refusalAt_cases {p : Pattern} (refused : r.refusalAt n = some p) :
    p = .noEntry ∨ p = .error := refusal?_cases refused

theorem refusalAt_of_admits (admitted : r.AdmitsAt n) : r.refusalAt n = none := by
  obtain ⟨locked, admitted⟩ := (r.admitsAt_iff n).mp admitted
  unfold refusalAt
  rw [locked]
  exact refusal?_of_admits admitted

theorem refusalAt_of_timed (timed : (r.commandedAt n).mode = .timed) : r.refusalAt n = none := by
  unfold refusalAt
  rw [timed]
  rfl

theorem cueAt_refusal : (r.cueAt n).refusal = r.refusalAt n := cue_refusal _ _ _ _

theorem cueAt_of_warns (warns : r.WarnsAt n) : r.cueAt n = {
    prompt := some .warnClosing
    sound := some (if r.settings.closingWarn < r.leftAt n then .warningBeep else .closingWarning) } := by
  rw [r.cueAt_of_timed n warns.1.before, if_pos warns.1.after, warns.1.leave, warning, if_pos warns.2]
  rfl

theorem cueAt_prompt_of_calm (timed : (r.commandedAt n).mode = .timed) (calm : ¬r.WarnsAt n) :
    (r.cueAt n).prompt = none ∧ (r.cueAt n).idle = none := by
  rw [r.cueAt_of_timed n timed]
  split
  · next after =>
    cases leave : (r.pressedAt n).leave with
    | true => exact ⟨rfl, rfl⟩
    | false =>
        have early : ¬r.leftAt n ≤ r.settings.unlockWarn := fun late => calm ⟨⟨timed, after, leave⟩, late⟩
        simp [warning, early]
  · exact ⟨rfl, rfl⟩

/-- How a turn comes to what it has the reader show. -/
inductive Painting (r : Run) (n : Nat) : Option Pattern → Prop
  | begin (initial : (r.commandedAt n).mode = .initial) : Painting r n (some .ready)
  | refuse {p : Pattern} (refused : r.refusalAt n = some p) : Painting r n (some p)
  | enter (admits : r.AdmitsAt n) : Painting r n (some .enter)
  | warn (warns : r.WarnsAt n) : Painting r n (some .warnClosing)
  | ready (locked : (r.commandedAt n).mode = .locked) (calm : r.waitsAt n = false) :
      Painting r n (some .ready)
  | opened (opened : (r.commandedAt n).mode = .opened) (calm : r.waitsAt n = false) :
      Painting r n (some .opened)
  | keep (begun : (r.commandedAt n).mode ≠ .initial) (refused : ¬r.RefusesAt n)
      (admits : ¬r.AdmitsAt n) (warns : ¬r.WarnsAt n) (waits : r.RestsAt n → r.waitsAt n = true) :
      Painting r n none

theorem painting : Painting r n (r.paintedAt n) := by
  unfold paintedAt Cue.painted
  cases mode : (r.commandedAt n).mode with
  | initial =>
      rw [r.cueAt_of_initial n mode]
      exact .begin mode
  | locked =>
      rw [r.cueAt_of_locked n mode]
      cases refused : r.refusalAt n with
      | some p => exact .refuse refused
      | none =>
          by_cases admitted : admits (r.snapshotAt n) = true
          · rw [if_pos admitted]
            exact .enter ((r.admitsAt_iff n).mpr ⟨mode, admitted⟩)
          · rw [if_neg admitted]
            cases waits : r.waitsAt n with
            | false => exact .ready mode waits
            | true =>
                refine .keep (by simp [mode]) ?_ ?_ ?_ fun _ => waits
                · simp [refusesAt_iff, refused]
                · simp [admitsAt_iff, admitted]
                · exact fun warns => by simp [warns.1.before] at mode
  | opened =>
      rw [r.cueAt_of_opened n mode]
      cases refused : r.refusalAt n with
      | some p => exact .refuse refused
      | none =>
          cases waits : r.waitsAt n with
          | false => exact .opened mode waits
          | true =>
              refine .keep (by simp [mode]) ?_ ?_ ?_ fun _ => waits
              · simp [refusesAt_iff, refused]
              · simp [admitsAt_iff, mode]
              · exact fun warns => by simp [warns.1.before] at mode
  | timed =>
      by_cases warns : r.WarnsAt n
      · rw [r.cueAt_of_warns n warns]
        exact .warn warns
      · obtain ⟨prompt, idle⟩ := r.cueAt_prompt_of_calm n mode warns
        have refused := r.refusalAt_of_timed n mode
        rw [r.cueAt_refusal n, refused, prompt, idle, ite_self]
        refine .keep (by simp [mode]) ?_ ?_ warns ?_
        · simp [refusesAt_iff, refused]
        · simp [admitsAt_iff, mode]
        · exact fun rests => by simp [RestsAt, mode] at rests

theorem paintedAt_of_refusal {p : Pattern} (refused : r.refusalAt n = some p) :
    r.paintedAt n = some p := by
  unfold paintedAt Cue.painted
  rw [r.cueAt_refusal n, refused]
  rfl

theorem paintedAt_of_warns (warns : r.WarnsAt n) : r.paintedAt n = some .warnClosing := by
  unfold paintedAt
  rw [r.cueAt_of_warns n warns]
  rfl

theorem commandedAt_begun (later : 0 < n) : (r.commandedAt n).mode ≠ .initial := by
  obtain ⟨k, rfl⟩ := Nat.exists_eq_succ_of_ne_zero (Nat.ne_of_gt later)
  have begun : (r.stateAt (k + 1)).course.mode ≠ .initial := r.mode_ne_initial k
  unfold commandedAt Course.commanded
  split
  · split
    · exact begun
    · nofun
  · nofun
  · exact begun
  · exact begun

theorem cueAt_idle : (r.cueAt n).idle.isSome = true ↔ r.RestsAt n := by
  rw [cueAt, cue_idle]
  rfl

/-- What is left of a refusal before a turn: no other has followed, and no turn that rests has found
its time to be over. -/
structure StandsAt (k : Nat) : Prop where
  refused : r.RefusesAt k
  before : k < n
  latest : ∀ j, k < j → j < n → ¬r.RefusesAt j
  early : ∀ j, k < j → j < n → r.RestsAt j → r.timeAt j < r.timeAt k + r.settings.message

variable {r n}

theorem StandsAt.earlier {j k : Nat} (stands : r.StandsAt n k) (after : k < j) (upto : j ≤ n) :
    r.StandsAt j k where
  refused := stands.refused
  before := after
  latest l later within := stands.latest l later (Nat.lt_of_lt_of_le within upto)
  early l later within := stands.early l later (Nat.lt_of_lt_of_le within upto)

theorem standsAt_succ_iff {k : Nat} : r.StandsAt (n + 1) k ↔ k = n ∧ r.RefusesAt n ∨
    r.StandsAt n k ∧ ¬r.RefusesAt n ∧ (r.RestsAt n → r.timeAt n < r.timeAt k + r.settings.message) := by
  constructor
  · intro stands
    obtain within | rfl := Nat.lt_succ_iff_lt_or_eq.mp stands.before
    · refine .inr ⟨stands.earlier within (Nat.le_succ n), ?_, ?_⟩
      · exact stands.latest n within (Nat.lt_succ_self n)
      · exact stands.early n within (Nat.lt_succ_self n)
    · exact .inl ⟨rfl, stands.refused⟩
  · rintro (⟨rfl, refused⟩ | ⟨stands, unrefused, early⟩)
    · refine ⟨refused, Nat.lt_succ_self k, ?_, ?_⟩ <;> (intro j after before; omega)
    · refine ⟨stands.refused, Nat.lt_succ_of_lt stands.before, ?_, ?_⟩
      · intro j after before
        obtain within | rfl := Nat.lt_succ_iff_lt_or_eq.mp before
        · exact stands.latest j after within
        · exact unrefused
      · intro j after before
        obtain within | rfl := Nat.lt_succ_iff_lt_or_eq.mp before
        · exact stands.early j after within
        · exact early

theorem feedbackUntil_iff {time : Nat} : (r.stateAt n).feedbackUntil = some time ↔
    ∃ k, r.StandsAt n k ∧ time = r.timeAt k + r.settings.message := by
  induction n with
  | zero =>
      constructor
      · intro shown
        cases shown
      · rintro ⟨k, stands, -⟩
        exact absurd stands.before (Nat.not_lt_zero k)
  | succ n ih =>
      have waits {time : Nat} (shown : (r.stateAt n).feedbackUntil = some time) :
          r.waitsAt n = true ↔ r.timeAt n < time := by
        simp [waitsAt, Signals.waits, State.signals, shown]
      rw [stateAt_feedbackUntil, cueAt_refusal]
      simp only [standsAt_succ_iff, ← r.refusesAt_iff n]
      by_cases refused : r.RefusesAt n
      · simp [refused, eq_comm]
      simp only [refused, if_false, and_false, false_or, not_false_eq_true, true_and,
        Bool.and_eq_true, cueAt_idle, Bool.not_eq_true']
      constructor
      · intro shown
        split at shown
        · cases shown
        · next goesOn =>
          obtain ⟨k, stands, rfl⟩ := ih.mp shown
          refine ⟨k, ⟨stands, fun rests => (waits shown).mp ?_⟩, rfl⟩
          exact Bool.of_not_eq_false fun calm => goesOn ⟨rests, calm⟩
      · rintro ⟨k, ⟨stands, early⟩, rfl⟩
        have shown := ih.mpr ⟨k, stands, rfl⟩
        rw [if_neg, shown]
        rintro ⟨rests, calm⟩
        simp [(waits shown).mpr (early rests)] at calm

/-- The answer to a card that has been refused before is still to be shown. -/
def RecallsAt (r : Run) (n : Nat) : Prop :=
  ∃ k, r.StandsAt n k ∧ r.timeAt n < r.timeAt k + r.settings.message

theorem waitsAt_iff : r.waitsAt n = true ↔ r.RecallsAt n := by
  refine (Option.any_eq_true _ _).trans ⟨?_, ?_⟩
  · rintro ⟨time, shown, early⟩
    obtain ⟨k, stands, rfl⟩ := feedbackUntil_iff.mp shown
    exact ⟨k, stands, of_decide_eq_true early⟩
  · rintro ⟨k, stands, early⟩
    exact ⟨_, feedbackUntil_iff.mpr ⟨k, stands, rfl⟩, decide_eq_true early⟩

/-- While a refusal is recalled, only a card that is let in and a warning are shown. -/
theorem painted_of_recalls (later : 0 < n) (unrefused : ¬r.RefusesAt n)
    (recalls : r.RestsAt n → r.RecallsAt n) {p : Pattern} (painted : r.paintedAt n = some p) :
    p = .enter ∧ r.AdmitsAt n ∨ p = .warnClosing ∧ r.WarnsAt n := by
  have painting := r.painting n
  rw [painted] at painting
  cases painting with
  | begin initial => exact absurd initial (r.commandedAt_begun n later)
  | refuse shown => exact absurd ((r.refusesAt_iff n).mpr (by simp [shown])) unrefused
  | enter admitted => exact .inl ⟨rfl, admitted⟩
  | warn warned => exact .inr ⟨rfl, warned⟩
  | ready locked calm => simp [waitsAt_iff.mpr (recalls (.inl locked))] at calm
  | opened opened calm => simp [waitsAt_iff.mpr (recalls (.inr opened))] at calm

theorem paintedAt_eq_none_iff (later : 0 < n) : r.paintedAt n = none ↔
    ¬r.RefusesAt n ∧ ¬r.AdmitsAt n ∧ ¬r.WarnsAt n ∧ (r.RestsAt n → r.RecallsAt n) := by
  constructor
  · intro unpainted
    have painting := r.painting n
    rw [unpainted] at painting
    cases painting with
    | keep _ refused admitted warns waits =>
        exact ⟨refused, admitted, warns, fun rests => waitsAt_iff.mp (waits rests)⟩
  · rintro ⟨unrefused, unadmitted, unwarned, recalls⟩
    cases painted : r.paintedAt n with
    | none => rfl
    | some p =>
        obtain ⟨-, admitted⟩ | ⟨-, warned⟩ := painted_of_recalls later unrefused recalls painted
        · exact absurd admitted unadmitted
        · exact absurd warned unwarned

theorem RefusesAt.painted (refused : r.RefusesAt n) :
    ∃ p, r.refusalAt n = some p ∧ r.paintedAt n = some p := by
  obtain ⟨p, refusal⟩ := Option.isSome_iff_exists.mp ((r.refusesAt_iff n).mp refused)
  exact ⟨p, refusal, r.paintedAt_of_refusal n refusal⟩

/-- Of all that has been shown since some turn, one was shown last. -/
theorem exists_shown_last {k : Nat} {q : Pattern} (upto : k ≤ n) (painted : r.paintedAt k = some q) :
    ∃ j p, k ≤ j ∧ j ≤ n ∧ r.paintedAt j = some p ∧ r.shownAfter n = some p ∧
      ∀ l, j < l → l ≤ n → r.paintedAt l = none := by
  have last : ∃ j p, k ≤ j ∧ j ≤ n ∧ r.paintedAt j = some p ∧
      ∀ l, j < l → l ≤ n → r.paintedAt l = none := by
    induction n, upto using Nat.le_induction with
    | base => exact ⟨k, q, Nat.le_refl k, Nat.le_refl k, painted, by omega⟩
    | succ n upto ih =>
        cases next : r.paintedAt (n + 1) with
        | some p => exact ⟨n + 1, p, by omega, Nat.le_refl _, next, by omega⟩
        | none =>
            obtain ⟨j, p, since, before, shown, still⟩ := ih
            refine ⟨j, p, since, Nat.le_succ_of_le before, shown, ?_⟩
            intro l after within
            obtain earlier | rfl := Nat.le_succ_iff.mp within
            · exact still l after earlier
            · exact next
  obtain ⟨j, p, since, before, shown, still⟩ := last
  exact ⟨j, p, since, before, shown, (r.shownAfter_eq_some_iff n p).mpr ⟨j, before, shown, still⟩, still⟩

end Run

end DoorControl.Door
