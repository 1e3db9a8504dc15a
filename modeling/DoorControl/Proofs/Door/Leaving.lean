/- What becomes of the leave button: an unlocked door always heeds it, and a locked one unless something
else of the same turn comes first and does not unlock the door. -/
import DoorControl.Proofs.Access.Entries
import DoorControl.Proofs.Door.Authority

namespace DoorControl.Door

/-- What a locked door turns to instead of the leave button, and stays locked. -/
inductive Distracts (i : Snapshot) : Prop
  | day (white : i.pressed.white = true) (closed : i.openDay = false)
  | card (card : CardId) (asked : asked? i .locked = some card)
      (refused : (i.access card).isAllowed = false)

theorem not_distracts {i : Snapshot} (day : i.pressed.white = true → i.openDay = true)
    (card : ∀ card, asked? i .locked = some card → (i.access card).isAllowed = true) :
    ¬Distracts i := by
  rintro (⟨white, closed⟩ | ⟨swiped, asked, refused⟩)
  · simp [day white] at closed
  · simp [card swiped asked] at refused

namespace Passage

variable {s : Settings} {i : Snapshot} {mode : Mode} {d d' : Option Nat}

theorem leaves_locked_iff (passage : Passage s i .locked d mode d') (leave : i.pressed.leave = true) :
    mode.target = .unlocked ↔ ¬Distracts i := by
  cases passage with
  | refuseDay _ white closed => simpa [Mode.target] using Distracts.day white closed
  | openSpace _ white day =>
      have calm : ¬Distracts i := not_distracts (fun _ => day) (by simp [asked?, white])
      simp [Mode.target, calm]
  | pressGreen _ white green =>
      have calm : ¬Distracts i := not_distracts (by simp [white]) (by simp [asked?, green])
      simp [Mode.target, calm]
  | acceptCard _ card user white green swiped allowed =>
      have calm : ¬Distracts i := not_distracts (by simp [white])
        (by simp [asked?, white, green, swiped, allowed, AccessResult.isAllowed])
      simp [Mode.target, calm]
  | refuseCard _ card white green swiped refused =>
      have asked : asked? i .locked = some card := by simp [asked?, white, green, swiped]
      simpa [Mode.target] using Distracts.card card asked refused
  | pressLeave _ white green swiped _ =>
      have calm : ¬Distracts i :=
        not_distracts (by simp [white]) (by simp [asked?, white, green, swiped])
      simp [Mode.target, calm]
  | rest _ _ _ _ unpressed => simp [leave] at unpressed

/-- Before its deadline a timed unlock ends with the open space only, and the leave button renews it. -/
theorem timed_leave {time : Nat} (passage : Passage s i .timed (some time) mode d')
    (leave : i.pressed.leave = true) (ahead : i.now < time) (red : i.keys.red = false) :
    mode = .opened ∨ mode = .timed ∧ d' = some (i.now + s.leave) := by
  cases passage with
  | relock _ why =>
      obtain held | ended := why
      · simp [red] at held
      · exact absurd (ended time rfl) (Nat.not_le_of_lt ahead)
  | openEarly => exact .inl rfl
  | prolong => exact .inr ⟨rfl, rfl⟩
  | wait _ _ _ _ unpressed => simp [leave] at unpressed

end Passage

namespace Run

variable (r : Run) (n : Nat)

/-- When the leave button goes down and the gateway asks for nothing, a locked door opens or unlocks for a time
exactly if nothing distracts it, be it a white button on another day or a card that is refused. A timed unlock
that has not ended, with the red button up, ends with the open space or lasts the leave time from then on. -/
theorem leave_is_heeded_unless_distracted (silent : (r.snapshotAt n).remote = none)
    (leave : (r.pressedAt n).leave = true) :
    ((r.stateAt n).mode = .locked →
      ((r.stateAt (n + 1)).mode = .opened ∨ (r.stateAt (n + 1)).mode = .timed ↔
        ¬Distracts (r.snapshotAt n))) ∧
    ∀ time, (r.stateAt n).mode = .timed → (r.stateAt n).deadline = some time → r.timeAt n < time →
      (r.moments n).inputs.keys.red = false →
      (r.stateAt (n + 1)).mode = .opened ∨ (r.stateAt (n + 1)).mode = .timed ∧
        (r.stateAt (n + 1)).deadline = some (r.timeAt n + r.settings.leave) := by
  have uncommanded : r.commandedAt n = (r.stateAt n).course := by
    unfold commandedAt Course.commanded
    rw [silent]
  have passage := r.passage n
  rw [uncommanded] at passage
  rw [← r.snapshotAt_pressed n] at leave
  refine ⟨fun locked => ?_, fun time timed deadline ahead red => ?_⟩
  · rw [← Mode.target_unlocked]
    simp only [State.course, locked] at passage
    exact passage.leaves_locked_iff leave
  · simp only [State.course, timed, deadline] at passage
    exact passage.timed_leave leave ahead red

/-- Buttons that go down in the second turn and stay so, and a forbidden card swiped in that turn. -/
def waved (keys : Keys) (card : Option CardId) : Run :=
  { greenHeld with
    moments n := { greenHeld.moments n with
      inputs := { (greenHeld.moments n).inputs with
        keys := if n = 0 then {} else keys
        card := if n = 1 then card else none } } }

theorem waved_leaves (keys : Keys) (card : Option CardId) (leave : keys.leave = true) :
    ((waved keys card).snapshotAt 1).remote = none ∧ ((waved keys card).pressedAt 1).leave = true ∧
      ((waved keys card).stateAt 1).mode = .locked :=
  ⟨rfl, by simp [pressedAt, waved, heldBefore, Keys.pressed, leave],
    ((waved keys card).passage 0).of_initial⟩

theorem leave_alone_heeded : ((waved { leave := true } none).stateAt 2).mode = .opened ∨
    ((waved { leave := true } none).stateAt 2).mode = .timed := by
  obtain ⟨silent, leave, locked⟩ := waved_leaves { leave := true } none rfl
  have heeded := (leave_is_heeded_unless_distracted (waved { leave := true } none) 1 silent leave).1 locked
  exact heeded.mpr (not_distracts (by decide) nofun)

/-- A white button on another day, and a card that is refused, each cost the leave button its effect. -/
theorem leave_lost_to_card_and_day :
    (((waved { leave := true } (some .smallest)).pressedAt 1).leave = true ∧
      ((waved { leave := true } (some .smallest)).stateAt 1).mode = .locked ∧
      ((waved { leave := true } (some .smallest)).stateAt 2).mode = .locked ∧
      ((waved { leave := true } (some .smallest)).stateAt 3).mode = .locked) ∧
    ((waved { white := true, leave := true } none).pressedAt 1).leave = true ∧
      ((waved { white := true, leave := true } none).stateAt 1).mode = .locked ∧
      ((waved { white := true, leave := true } none).stateAt 2).mode = .locked ∧
      ((waved { white := true, leave := true } none).stateAt 3).mode = .locked := by
  decide

end Run

end DoorControl.Door
