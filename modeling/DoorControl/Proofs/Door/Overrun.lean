/- When a door asks for a time that its clock cannot tell: which turns stop it, and how much time there has
to be left for none to do so. -/
import DoorControl.Proofs.Door.Authority
import DoorControl.Proofs.Door.Deadline
import DoorControl.Proofs.Door.Signs

namespace DoorControl.Door

/-- Whether the time that comes so much later lies beyond the clock's range. -/
def beyond (now ms : Nat) : Bool := clockEnd ≤ now + ms

/-- Whether the handler of a mode asks about a card and gets a refusal, which it shows for a while. -/
def refuses (i : Snapshot) (mode : Mode) : Bool :=
  (asked? i mode).any fun card => !(i.access card).isAllowed

namespace Turn

variable (s : Settings) (i : Snapshot) (t : Turn)

theorem overrun_blind : Blind overrun where
  state _ _ := rfl
  link _ _ := rfl
  act _ _ _ := rfl
  log _ _ _ := rfl

theorem setStatus_overrun (text : String) (general : Bool) :
    (setStatus i text general t).overrun = t.overrun :=
  says_eq i _ overrun (fun _ _ => rfl) _

theorem leaveOpen_overrun : (leaveOpen i t).overrun = t.overrun :=
  leaveOpen_eq i t overrun (setStatus_overrun i t _ true)

theorem feedback_overrun (p : Reader.Pattern) :
    (feedback s i p t).overrun = (t.overrun || beyond i.now s.message) :=
  congrArg (· || beyond i.now s.message) (overrun_blind.setPattern t p)

theorem checkOpenDay_overrun : (checkOpenDay s i t).overrun = t.overrun := by
  unfold checkOpenDay
  split
  · exact setStatus_overrun i (setMode .opened t) _ true
  · rfl

theorem checkCard_overrun (card : CardId) (unlocks : Bool) : (checkCard s i card unlocks t).overrun =
    (t.overrun || (!(i.access card).isAllowed && beyond i.now s.message)) := by
  unfold checkCard
  cases i.access card with
  | allowed user =>
      cases unlocks with
      | true =>
          refine Eq.trans (overrun_blind.setPattern _ .enter) ?_
          simp [AccessResult.isAllowed]
          rfl
      | false => simp [AccessResult.isAllowed]; rfl
  | forbidden | unknownCard | error message => exact feedback_overrun s i _ _

theorem applyRemote_overrun (a : Gateway.Action) : (applyRemote s i a t).overrun =
    (t.overrun || (decide (a = .unlock) && beyond i.now s.remoteUnlock)) := by
  cases a with
  | lock =>
      dsimp only [applyRemote]
      split
      · exact (Bool.or_false _).symm
      · exact (leaveOpen_overrun i _).trans (Bool.or_false _).symm
  | unlock =>
      refine (congrArg (· || beyond i.now s.remoteUnlock) (leaveOpen_overrun i _)).trans ?_
      simp
      rfl
  | unknown text => exact (Bool.or_false _).symm

theorem prepare_overrun : (prepare s i t).overrun =
    (t.overrun || (decide (i.remote = some .unlock) && beyond i.now s.remoteUnlock)) := by
  have noted : (pushStatus s i (logInputs i t)).overrun = t.overrun := by
    rw [overrun_blind.pushStatus, overrun_blind.logInputs]
  unfold prepare
  dsimp only
  split
  · next a asks => simp [asks, applyRemote_overrun, noted]
  · next silent => simp [silent, noted]

theorem handleLocked_overrun : (handleLocked s i t).overrun =
    (t.overrun || (refuses i .locked && beyond i.now s.message)) := by
  unfold handleLocked refuses asked?
  dsimp only
  generalize greeted : setStatus i ":lock: Door is locked" false _ = t'
  have same : t'.overrun = t.overrun := by
    rw [← greeted, setStatus_overrun, overrun_blind.showStatus, overrun_blind.setSound,
      overrun_blind.idlePattern]
  rw [← same]
  cases white : i.pressed.white with
  | true => simp [checkOpenDay_overrun]
  | false =>
      cases green : i.pressed.green with
      | true => simp; rfl
      | false =>
          cases i.card with
          | some card => simp [checkCard_overrun]
          | none =>
              cases i.pressed.leave with
              | true => simp; rfl
              | false => simp

theorem handleOpened_overrun : (handleOpened s i t).overrun =
    (t.overrun || (refuses i .opened && beyond i.now s.message)) := by
  unfold handleOpened refuses asked?
  dsimp only
  generalize greeted : showStatus "Open" .green _ = t'
  have same : t'.overrun = t.overrun := by
    rw [← greeted, overrun_blind.showStatus, overrun_blind.setSound, overrun_blind.idlePattern]
  generalize closing : (if (!i.openDay) = true then
    log i "It is no longer an open day" t' |>.leaveOpen i |>.setMode .locked
    else if i.keys.red = true then leaveOpen i t' |>.setMode .locked else t') = t''
  have still : t''.overrun = t.overrun := by
    rw [← closing, ← same]
    split
    · exact leaveOpen_overrun i _
    split
    · exact leaveOpen_overrun i _
    · rfl
  rw [← still]
  cases i.card with
  | some card => simp [checkCard_overrun]
  | none => simp

theorem handle_overrun : (handle s i t).overrun =
    (t.overrun || (refuses i t.state.mode && beyond i.now s.message)) := by
  unfold handle
  cases t.state.mode with
  | initial => simp [handleInitial, overrun_blind.setMode, overrun_blind.setPattern, refuses, asked?]
  | locked => exact handleLocked_overrun s i t
  | opened => exact handleOpened_overrun s i t
  | timed =>
      have same : (handleTimed s i t).overrun = t.overrun :=
        handleTimed_eq s i t overrun (fun _ _ => rfl) (fun _ _ => rfl) (checkOpenDay_overrun s i)
          (fun _ => rfl) (fun sound t => overrun_blind.setSound t sound) (overrun_blind.warnClosing s i)
      simpa [refuses, asked?] using same

theorem handleMode_overrun : (handleMode s i t).overrun =
    (t.overrun || (refuses i t.state.mode && beyond i.now s.message)) := by
  rw [← handle_overrun]
  unfold handleMode
  dsimp only
  split <;> rfl

theorem armDeadline_overrun : (armDeadline i t).overrun =
    (t.overrun || t.state.pendingTimeout.any (beyond i.now)) := by
  unfold armDeadline
  split
  · next none => simp [none]
  · next ms some => simp [some]; rfl

theorem driveLock_overrun : (driveLock s i t).overrun = (t.overrun ||
    (drives i t && !(i.drive t.state.mode.target).isOk && beyond i.now s.lockRetry)) := by
  unfold driveLock drives
  dsimp only
  by_cases h : (i.bolt = t.state.mode.target || backingOff i.now t.state) = true
  · simp [h]
  · rw [if_neg h]
    simp only [Bool.not_eq_true] at h
    rw [h]
    unfold answerLock
    cases i.drive t.state.mode.target with
    | ok done => simp [Except.isOk, Except.toBool]; rfl
    | error e =>
        dsimp only
        split <;> (simp [Except.isOk, Except.toBool]; rfl)

/-- The time that a locked door asks for, to become the deadline of what unlocks it. -/
theorem handleLocked_asks : (handleLocked s i t).state.course.pendingTimeout =
    if i.pressed.white then t.state.course.pendingTimeout
    else if i.pressed.green then some s.unlockPeriod
    else match i.card with
      | some card =>
          if (i.access card).isAllowed then some s.enter else t.state.course.pendingTimeout
      | none => if i.pressed.leave then some s.leave else t.state.course.pendingTimeout := by
  unfold handleLocked
  cases white : i.pressed.white with
  | true => cases day : i.openDay <;> simp [day]
  | false =>
      cases green : i.pressed.green with
      | true => simp
      | false =>
          cases swiped : i.card with
          | some card => cases allowed : (i.access card).isAllowed <;> simp [allowed]
          | none => cases leave : i.pressed.leave <;> simp

theorem handle_asks {ms : Nat} (unasked : t.state.course.pendingTimeout = none)
    (asks : (handle s i t).state.course.pendingTimeout = some ms) :
    ms = s.enter ∨ ms = s.leave ∨ ms = s.unlockPeriod := by
  unfold handle at asks
  cases mode : t.state.mode with
  | initial => simp [mode, handleInitial, unasked] at asks
  | locked =>
      simp only [mode, handleLocked_asks, unasked] at asks
      grind
  | opened =>
      simp only [mode, handleOpened] at asks
      cases day : i.openDay <;> cases red : i.keys.red <;> cases swiped : i.card <;>
        simp [day, red, swiped, unasked] at asks
  | timed =>
      simp only [mode, handleTimed] at asks
      split at asks
      · simp [unasked] at asks
      generalize pressed : (if i.pressed.white then checkOpenDay s i t else t) = t' at asks
      have still : t'.state.course.pendingTimeout = none := by
        rw [← pressed]
        cases white : i.pressed.white <;> cases day : i.openDay <;> simp [day, unasked]
      split at asks
      · simp [still] at asks
      split at asks
      · exact .inr (.inl (by simpa using asks.symm))
      · simp [still] at asks

end Turn

/-- The longest time that a door adds to its clock's. -/
def Settings.reach (s : Settings) : Nat := max s.longest (max s.message s.lockRetry)

namespace Moment

variable (s : Settings) (m : Moment) (state : State)

/-- A turn asks for a time when the gateway unlocks the door, when it shows that a card has been refused,
when anything else unlocks the door for a while, and when a lock command fails. -/
theorem turn_overrun_iff : (m.turn s state).overrun = true ↔
    ((m.snapshot state).remote = some .unlock ∧ clockEnd ≤ m.inputs.now + s.remoteUnlock) ∨
      (refuses (m.snapshot state) (m.prepared s state).state.mode = true ∧
        clockEnd ≤ m.inputs.now + s.message) ∨
      (∃ ms, ((m.prepared s state).handle s (m.snapshot state)).state.pendingTimeout = some ms ∧
        clockEnd ≤ m.inputs.now + ms) ∨
      (m.drives s state = true ∧ (m.inputs.drive (m.turn s state).state.mode.target).isOk = false ∧
        clockEnd ≤ m.inputs.now + s.lockRetry) := by
  -- One part of the turn after the other adds its own reason to those before.
  have prepared : (m.prepared s state).overrun = _ := Turn.prepare_overrun s (m.snapshot state) _
  have decided : (m.decided s state).overrun = _ := Turn.armDeadline_overrun (m.snapshot state) _
  have driven := Turn.driveLock_overrun s (m.snapshot state) (m.decided s state)
  have asked : ((m.prepared s state).handleMode s (m.snapshot state)).state.pendingTimeout =
      ((m.prepared s state).handle s (m.snapshot state)).state.pendingTimeout :=
    congrArg Course.pendingTimeout (Turn.handleMode_course s (m.snapshot state) _)
  rw [Turn.handleMode_overrun, prepared, Bool.false_or, asked] at decided
  rw [drives_eq, decided_mode, decided] at driven
  refine (congrArg (· = true) driven).to_iff.trans ?_
  simp only [beyond, Bool.or_eq_true, Bool.and_eq_true, decide_eq_true_iff, Option.any_eq_true,
    Bool.not_eq_true', or_assoc, and_assoc]
  rfl

theorem turn_in_time (unasked : state.pendingTimeout = none)
    (time : m.inputs.now + s.reach < clockEnd) : (m.turn s state).overrun = false := by
  have reach : s.enter ≤ s.reach ∧ s.leave ≤ s.reach ∧ s.unlockPeriod ≤ s.reach ∧
      s.remoteUnlock ≤ s.reach ∧ s.message ≤ s.reach ∧ s.lockRetry ≤ s.reach := by
    unfold Settings.reach Settings.longest
    omega
  rw [Bool.eq_false_iff, ne_eq, turn_overrun_iff]
  rintro (⟨-, late⟩ | ⟨-, late⟩ | ⟨ms, asks, late⟩ | ⟨-, -, late⟩)
  · omega
  · omega
  · have before : (m.prepared s state).state.course.pendingTimeout = none := by
      rw [prepared_course, Course.commanded_pendingTimeout]
      exact unasked
    have one := Turn.handle_asks s (m.snapshot state) _ before asks
    omega
  · omega

end Moment

namespace Run

variable (r : Run) (n : Nat)

theorem turnAt_in_time (time : r.timeAt n + r.settings.reach < clockEnd) :
    (r.turnAt n).overrun = false :=
  Moment.turn_in_time _ _ _ (r.stateAt_pendingTimeout n) time

theorem preparedAt_course : (r.preparedAt n).state.course = r.commandedAt n :=
  Moment.prepared_course _ _ _

/-- The time that a locked door asks for. -/
def asksAt : Option Nat :=
  if (r.pressedAt n).white then none
  else if (r.pressedAt n).green then some r.settings.unlockPeriod
  else match (r.moments n).inputs.card with
    | some card =>
        if ((r.moments n).inputs.access card).isAllowed then some r.settings.enter else none
    | none => if (r.pressedAt n).leave then some r.settings.leave else none

variable {r n}

theorem preparedAt_locked (locked : (r.commandedAt n).mode = .locked) :
    (r.preparedAt n).state.mode = .locked :=
  (r.preparedAt_mode n).trans locked

theorem overrun_of_asks {ms : Nat} (locked : (r.commandedAt n).mode = .locked)
    (asks : r.asksAt n = some ms) (late : clockEnd ≤ r.timeAt n + ms) :
    (r.turnAt n).overrun = true := by
  have unasked : (r.preparedAt n).state.course.pendingTimeout = none := by
    rw [preparedAt_course, commandedAt, Course.commanded_pendingTimeout]
    exact r.stateAt_pendingTimeout n
  have asked : ((r.preparedAt n).handle r.settings (r.snapshotAt n)).state.pendingTimeout = some ms := by
    unfold Turn.handle
    rw [preparedAt_locked locked]
    refine (Turn.handleLocked_asks _ _ _).trans ?_
    rw [unasked, snapshotAt_pressed]
    exact asks
  exact (Moment.turn_overrun_iff _ _ _).mpr (.inr (.inr (.inl ⟨ms, asked, late⟩)))

theorem overrun_of_refuses {card : CardId} (locked : (r.commandedAt n).mode = .locked)
    (unpressed : r.pressedAt n = {}) (swiped : (r.moments n).inputs.card = some card)
    (refused : ((r.moments n).inputs.access card).isAllowed = false)
    (late : clockEnd ≤ r.timeAt n + r.settings.message) : (r.turnAt n).overrun = true := by
  have asked : asked? (r.snapshotAt n) .locked = some card := by
    rw [asked?, snapshotAt_pressed, unpressed]
    exact swiped
  have shown : refuses (r.snapshotAt n) (r.preparedAt n).state.mode = true := by
    rw [preparedAt_locked locked, refuses, asked]
    exact congrArg not refused
  exact (Moment.turn_overrun_iff _ _ _).mpr (.inr (.inl ⟨shown, late⟩))

/-- Turns at one time, with the same inputs in each but for the buttons, which go down in the second. -/
def standstill (s : Settings) (now : Nat) (keys : Keys) (card : Option CardId) (answer : AccessResult)
    (result : Except DeviceError Unit) (action : Option Gateway.Action) : Run where
  settings := s
  moments n := {
    inputs := {
      now
      wall := 0
      weekday := .monday
      keys := if n = 0 then {} else keys
      lock := {}
      bolt := .unknown
      card
      access _ := answer
      drive _ := result }
    outbound := {
      debug := { capacity := 1 }
      audit := { capacity := 1 }
      chat := { capacity := 1 }
      membership := { capacity := 1 } }
    link := { action } }

theorem standstill_waits (s : Settings) (now : Nat) (keys : Keys) (card : Option CardId)
    (answer : AccessResult) (result : Except DeviceError Unit) :
    ((standstill s now keys card answer result none).commandedAt 1).mode = .locked :=
  ((standstill s now keys card answer result none).passage 0).of_initial

theorem exists_overrun {s : Settings} {now : Nat} (late : clockEnd ≤ now + s.reach) :
    ∃ r : Run, r.settings = s ∧ (∀ n, r.timeAt n = now) ∧ ∃ n, (r.turnAt n).overrun = true := by
  have which : clockEnd ≤ now + s.enter ∨ clockEnd ≤ now + s.leave ∨ clockEnd ≤ now + s.unlockPeriod ∨
      clockEnd ≤ now + s.remoteUnlock ∨ clockEnd ≤ now + s.message ∨ clockEnd ≤ now + s.lockRetry := by
    unfold Settings.reach Settings.longest at late
    omega
  let card : CardId := ⟨1, by decide, by decide⟩
  -- for each of the times a run that asks for it
  obtain enter | leave | period | remote | message | retry := which
  · refine ⟨standstill s now {} (some card) (.allowed ⟨1, 1⟩) (.ok ()) none, rfl, fun _ => rfl, 1, ?_⟩
    exact overrun_of_asks (standstill_waits ..) rfl enter
  · refine ⟨standstill s now { leave := true } none .forbidden (.ok ()) none, rfl, fun _ => rfl, 1, ?_⟩
    exact overrun_of_asks (standstill_waits ..) rfl leave
  · refine ⟨standstill s now { green := true } none .forbidden (.ok ()) none, rfl, fun _ => rfl, 1, ?_⟩
    exact overrun_of_asks (standstill_waits ..) rfl period
  · refine ⟨standstill s now {} none .forbidden (.ok ()) (some .unlock), rfl, fun _ => rfl, 0, ?_⟩
    rw [turnAt, Moment.turn_overrun_iff]
    exact .inl ⟨rfl, remote⟩
  · refine ⟨standstill s now {} (some card) .forbidden (.ok ()) none, rfl, fun _ => rfl, 1, ?_⟩
    exact overrun_of_refuses (standstill_waits ..) rfl rfl rfl message
  · refine ⟨standstill s now {} none .forbidden (.error (.other "jammed")) none, rfl, fun _ => rfl, 0, ?_⟩
    rw [turnAt, Moment.turn_overrun_iff]
    exact .inr (.inr (.inr ⟨by rfl, rfl, retry⟩))

end Run

end DoorControl.Door
