/- The transition table of a door: how one turn leads from a mode and a deadline to the next ones. -/
import DoorControl.Proofs.Door.Steps

namespace DoorControl.Door

/-- Where the handler of a mode leads, together with what it was led by. The deadline is the one that
holds once a time asked for has been turned into it. -/
inductive Passage (s : Settings) (i : Snapshot) : Mode → Option Nat → Mode → Option Nat → Prop
  | begin (d : Option Nat) : Passage s i .initial d .locked d
  | refuseDay (d : Option Nat) (white : i.pressed.white = true) (day : i.openDay = false) :
      Passage s i .locked d .locked d
  | openSpace (d : Option Nat) (white : i.pressed.white = true) (day : i.openDay = true) :
      Passage s i .locked d .opened d
  | pressGreen (d : Option Nat) (white : i.pressed.white = false) (green : i.pressed.green = true) :
      Passage s i .locked d .timed (some (i.now + s.unlockPeriod))
  | acceptCard (d : Option Nat) (card : CardId) (user : UserRef) (white : i.pressed.white = false)
      (green : i.pressed.green = false) (swiped : i.card = some card)
      (allowed : i.access card = .allowed user) :
      Passage s i .locked d .timed (some (i.now + s.enter))
  | refuseCard (d : Option Nat) (card : CardId) (white : i.pressed.white = false)
      (green : i.pressed.green = false) (swiped : i.card = some card)
      (refused : (i.access card).isAllowed = false) : Passage s i .locked d .locked d
  | pressLeave (d : Option Nat) (white : i.pressed.white = false) (green : i.pressed.green = false)
      (swiped : i.card = none) (leave : i.pressed.leave = true) :
      Passage s i .locked d .timed (some (i.now + s.leave))
  | rest (d : Option Nat) (white : i.pressed.white = false) (green : i.pressed.green = false)
      (swiped : i.card = none) (leave : i.pressed.leave = false) : Passage s i .locked d .locked d
  | close (d : Option Nat) (why : i.openDay = false ∨ i.keys.red = true) :
      Passage s i .opened d .locked d
  | remain (d : Option Nat) (day : i.openDay = true) (red : i.keys.red = false) :
      Passage s i .opened d .opened d
  | relock (d : Option Nat) (why : i.keys.red = true ∨ ∀ time, d = some time → time ≤ i.now) :
      Passage s i .timed d .locked none
  | openEarly (time : Nat) (red : i.keys.red = false) (ahead : i.now < time)
      (white : i.pressed.white = true) (day : i.openDay = true) :
      Passage s i .timed (some time) .opened none
  | prolong (time : Nat) (red : i.keys.red = false) (ahead : i.now < time)
      (white : i.pressed.white = true → i.openDay = false) (leave : i.pressed.leave = true) :
      Passage s i .timed (some time) .timed (some (i.now + s.leave))
  | wait (time : Nat) (red : i.keys.red = false) (ahead : i.now < time)
      (white : i.pressed.white = true → i.openDay = false) (leave : i.pressed.leave = false) :
      Passage s i .timed (some time) .timed (some time)

/-- The deadline once a time asked for has been turned into it. -/
def Course.armed (now : Nat) (c : Course) : Option Nat :=
  match c.pendingTimeout with
  | some ms => some (now + ms)
  | none => c.deadline

/-- The course once the gateway's action has been carried out. -/
def Course.commanded (s : Settings) (i : Snapshot) (c : Course) : Course :=
  match i.remote with
  | some .lock => if i.lock.doorOpen then c else { c with mode := .locked, deadline := none }
  | some .unlock => { c with mode := .timed, deadline := some (i.now + s.remoteUnlock) }
  | some (.unknown _) | none => c

/-- The card that the handler of a mode asks about. -/
def asked? (i : Snapshot) : Mode → Option CardId
  | .locked => if i.pressed.white || i.pressed.green then none else i.card
  | .opened => i.card
  | .initial | .timed => none

namespace Turn

variable (s : Settings) (i : Snapshot) (t : Turn)

theorem prepare_course : (prepare s i t).state.course = t.state.course.commanded s i := by
  unfold prepare Course.commanded
  cases i.remote with
  | none => simp
  | some a =>
      cases a with
      | lock => dsimp only [applyRemote]; split <;> simp
      | unlock => simp [applyRemote]
      | unknown text => simp [applyRemote]

@[simp] theorem checkOpenDay_course : (checkOpenDay s i t).state.course =
    if i.openDay then { t.state.course with mode := .opened } else t.state.course := by
  unfold checkOpenDay; split <;> simp

@[simp] theorem pressLeave_course : (pressLeave s i t).state.course =
    { t.state.course with pendingTimeout := some s.leave } := by simp [pressLeave]

@[simp] theorem warnClosing_course : (warnClosing s i t).state.course = t.state.course := by
  unfold warnClosing; dsimp only; split <;> simp

theorem answerCard_course (card : CardId) (unlocks : Bool) (answer : AccessResult) :
    (answerCard s i card unlocks answer t).state.course =
      if unlocks && answer.isAllowed then
        { t.state.course with mode := .timed, pendingTimeout := some s.enter }
      else t.state.course := by
  cases answer with
  | allowed user => cases unlocks <;> simp [answerCard, AccessResult.isAllowed]
  | forbidden => simp [answerCard, AccessResult.isAllowed]
  | unknownCard => simp [answerCard, AccessResult.isAllowed]
  | error message => simp [answerCard, AccessResult.isAllowed]

@[simp] theorem checkCard_course (card : CardId) (unlocks : Bool) :
    (checkCard s i card unlocks t).state.course =
      if unlocks && (i.access card).isAllowed then
        { t.state.course with mode := .timed, pendingTimeout := some s.enter }
      else t.state.course := by
  simp [checkCard, answerCard_course]

/-- A locked door: the course of `t` after what is shown in any case is the one of `t` itself, so that
each branch is a step of the table. -/
theorem handleLocked_passage {d : Option Nat} (h : t.state.course = ⟨.locked, d, none⟩) :
    Passage s i .locked d (handleLocked s i t).state.course.mode
      ((handleLocked s i t).state.course.armed i.now) := by
  unfold handleLocked
  cases hw : i.pressed.white with
  | true =>
      cases hd : i.openDay with
      | true => simpa [h, hd, Course.armed] using Passage.openSpace d hw hd
      | false => simpa [h, hd, Course.armed] using Passage.refuseDay d hw hd
  | false =>
      cases hg : i.pressed.green with
      | true => simpa [h, Course.armed] using Passage.pressGreen d hw hg
      | false =>
          cases hc : i.card with
          | some card =>
              cases ha : i.access card with
              | allowed user =>
                  simpa [h, ha, AccessResult.isAllowed, Course.armed] using
                    Passage.acceptCard d card user hw hg hc ha
              | _ =>
                  simpa [h, ha, AccessResult.isAllowed, Course.armed] using
                    Passage.refuseCard d card hw hg hc (by simp [ha, AccessResult.isAllowed])
          | none =>
              cases hl : i.pressed.leave with
              | true => simpa [h, Course.armed] using Passage.pressLeave d hw hg hc hl
              | false => simpa [h, Course.armed] using Passage.rest d hw hg hc hl

theorem handleOpened_passage {d : Option Nat} (h : t.state.course = ⟨.opened, d, none⟩) :
    Passage s i .opened d (handleOpened s i t).state.course.mode
      ((handleOpened s i t).state.course.armed i.now) := by
  unfold handleOpened
  cases hd : i.openDay with
  | false => cases i.card <;> simpa [h, Course.armed] using Passage.close d (.inl hd)
  | true =>
      cases hr : i.keys.red with
      | true => cases i.card <;> simpa [h, Course.armed] using Passage.close d (.inr hr)
      | false => cases i.card <;> simpa [h, Course.armed] using Passage.remain d hd hr

theorem expired_iff {now : Nat} {state : State} :
    expired now state = true ↔ ∀ time, state.deadline = some time → time ≤ now := by
  unfold expired
  cases state.deadline <;> simp

/-- A timed unlock that goes on: the white button has been dealt with in `t`, which the deadline and the
mode come from. -/
theorem handleTimed_passage {d : Option Nat} (h : t.state.course = ⟨.timed, d, none⟩) :
    Passage s i .timed d (handleTimed s i t).state.course.mode
      ((handleTimed s i t).state.course.armed i.now) := by
  have hd : t.state.deadline = d := congrArg Course.deadline h
  have hm : t.state.mode = .timed := congrArg Course.mode h
  unfold handleTimed
  by_cases hend : (i.keys.red || expired i.now t.state) = true
  · have why : i.keys.red = true ∨ ∀ time, d = some time → time ≤ i.now := by
      simpa only [Bool.or_eq_true, expired_iff, hd] using hend
    simpa [hend, h, Course.armed] using Passage.relock d why
  · have hr : i.keys.red = false := by
      cases hr : i.keys.red with
      | false => rfl
      | true => simp [hr] at hend
    obtain ⟨time, rfl, ahead⟩ : ∃ time, d = some time ∧ i.now < time := by
      simpa [hr, expired_iff, hd] using hend
    rw [if_neg hend]
    cases hw : i.pressed.white with
    | true =>
        cases hday : i.openDay with
        | true =>
            have hopen : (checkOpenDay s i t).state.mode = .opened :=
              (congrArg Course.mode (checkOpenDay_course s i t)).trans (by simp [hday])
            simpa [hopen, hday, h, Course.armed] using Passage.openEarly time hr ahead hw hday
        | false =>
            have hkept : (checkOpenDay s i t).state.mode = .timed :=
              (congrArg Course.mode (checkOpenDay_course s i t)).trans (by simp [hday, h])
            cases hl : i.pressed.leave with
            | true =>
                simpa [hkept, hday, h, Course.armed] using
                  Passage.prolong time hr ahead (fun _ => hday) hl
            | false =>
                simpa [hkept, hday, h, Course.armed] using
                  Passage.wait time hr ahead (fun _ => hday) hl
    | false =>
        cases hl : i.pressed.leave with
        | true =>
            simpa [hm, h, Course.armed] using Passage.prolong time hr ahead (by simp [hw]) hl
        | false =>
            simpa [hm, h, Course.armed] using Passage.wait time hr ahead (by simp [hw]) hl

theorem handle_passage {mode : Mode} {d : Option Nat} (h : t.state.course = ⟨mode, d, none⟩) :
    Passage s i mode d (handle s i t).state.course.mode
      ((handle s i t).state.course.armed i.now) := by
  have hm : t.state.mode = mode := congrArg Course.mode h
  unfold handle
  rw [hm]
  cases mode with
  | initial => simpa [handleInitial, h, Course.armed] using Passage.begin d
  | locked => exact handleLocked_passage s i t h
  | opened => exact handleOpened_passage s i t h
  | timed => exact handleTimed_passage s i t h

@[simp] theorem handleMode_course : (handleMode s i t).state.course = (handle s i t).state.course := by
  unfold handleMode; dsimp only; split <;> simp

theorem armDeadline_course : (armDeadline i t).state.course =
    { t.state.course with deadline := t.state.course.armed i.now, pendingTimeout := none } := by
  unfold armDeadline Course.armed
  cases h : t.state.pendingTimeout with
  | none => simp [State.course, h]
  | some ms => simp [State.course, h]

@[simp] theorem answerLock_course (result : Except DeviceError Unit) :
    (answerLock s i result t).state.course = t.state.course := by
  unfold answerLock
  cases result with
  | ok _ => rfl
  | error e => dsimp only; split <;> rfl

theorem driveLock_course : (driveLock s i t).state.course = t.state.course := by
  unfold driveLock; dsimp only; split <;> simp

end Turn

end DoorControl.Door
