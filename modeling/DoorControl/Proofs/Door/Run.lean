/- Runs of a door: turn after turn from a new door on, whatever it meets in each of them. -/
import DoorControl.Proofs.Door.Deeds

namespace DoorControl.Door

/-- What a turn meets: its inputs, and the queues and the link as all others have left them. -/
structure Moment where
  inputs : Inputs
  outbound : Outbox.Outbound
  link : Gateway.Link

namespace Moment

variable (s : Settings) (m : Moment) (state : State)

def snapshot : Snapshot := (Door.snapshot m.inputs state m.link).1

/-- The turn as it begins. -/
def begun : Turn where
  state := { state with lastKeys := m.inputs.keys }
  outbound := m.outbound
  link := m.link.takeAction.2

/-- The turn as it comes to its mode. -/
def prepared : Turn :=
  let (i, state, link) := Door.snapshot m.inputs state m.link
  { state, outbound := m.outbound, link : Turn }.prepare s i

def turn : Turn := tick s m.inputs state m.outbound m.link

theorem turn_eq : m.turn s state =
    ((m.prepared s state).handleMode s (m.snapshot state)
      |>.armDeadline (m.snapshot state) |>.driveLock s (m.snapshot state)) := rfl

theorem prepared_course :
    (m.prepared s state).state.course = state.course.commanded s (m.snapshot state) :=
  Turn.prepare_course s (m.snapshot state) _

theorem prepared_kept :
    (m.prepared s state).state.kept = { state.kept with lastKeys := m.inputs.keys } :=
  Turn.prepare_kept s (m.snapshot state) _

theorem prepared_notable : (m.prepared s state).notable = [] :=
  Turn.prepare_notable s (m.snapshot state) _

theorem turn_course : (m.turn s state).state.course =
    let c := ((m.prepared s state).handle s (m.snapshot state)).state.course
    ⟨c.mode, c.armed m.inputs.now, none⟩ := by
  rw [turn_eq, Turn.driveLock_course, Turn.armDeadline_course, Turn.handleMode_course]
  rfl

end Moment

theorem Course.commanded_pendingTimeout (s : Settings) (i : Snapshot) (c : Course) :
    (c.commanded s i).pendingTimeout = c.pendingTimeout := by
  unfold commanded
  split
  · split <;> rfl
  · rfl
  · rfl
  · rfl

namespace Moment

variable (s : Settings) (m : Moment) (state : State)

/-- A turn is an action of the gateway, if there is one, and then a passage of the table. -/
theorem turn_passage (h : state.pendingTimeout = none) :
    let c := state.course.commanded s (m.snapshot state)
    Passage s (m.snapshot state) c.mode c.deadline (m.turn s state).state.mode
      (m.turn s state).state.deadline := by
  intro c
  have hc : (m.prepared s state).state.course = ⟨c.mode, c.deadline, none⟩ := by
    have hp : c.pendingTimeout = none := (Course.commanded_pendingTimeout _ _ _).trans h
    rw [prepared_course, ← hp]
  have ht := turn_course s m state
  have hmode := congrArg Course.mode ht
  have hdeadline := congrArg Course.deadline ht
  simp only [State.course] at hmode hdeadline
  rw [hmode, hdeadline]
  exact Turn.handle_passage s (m.snapshot state) _ hc

theorem turn_pendingTimeout : (m.turn s state).state.pendingTimeout = none :=
  congrArg Course.pendingTimeout (turn_course s m state)

/-- The turn as it comes to drive the bolt. -/
def decided : Turn :=
  (m.prepared s state).handleMode s (m.snapshot state) |>.armDeadline (m.snapshot state)

theorem decided_mode : (m.decided s state).state.mode = (m.turn s state).state.mode :=
  (congrArg Course.mode (Turn.driveLock_course s (m.snapshot state) (m.decided s state))).symm

theorem decided_kept :
    (m.decided s state).state.kept = { state.kept with lastKeys := m.inputs.keys } := by
  rw [decided, Turn.armDeadline_kept, Turn.handleMode_kept, prepared_kept]

/-- Whether the turn sends the lock a command: the bolt is not where the turn leaves the door to want it,
and no failure is too recent. -/
def drives : Bool :=
  !(m.inputs.bolt = (m.turn s state).state.mode.target || Turn.backingOff m.inputs.now state)

theorem drives_eq : Turn.drives (m.snapshot state) (m.decided s state) = m.drives s state := by
  have h : (m.decided s state).state.lockRetryAt = state.lockRetryAt :=
    congrArg Kept.lockRetryAt (decided_kept s m state)
  unfold Turn.drives drives Turn.backingOff
  rw [decided_mode, h]
  rfl

/-- A turn asks about one card at most and makes known whose entry follows, and then drives the bolt to
where its last mode wants it, or leaves it alone. -/
theorem turn_notable : (m.turn s state).notable =
    Turn.checked s (m.snapshot state) (m.prepared s state).state.mode ++
      if m.drives s state then
        .driveLock (m.turn s state).state.mode.target ::
          Turn.complaints state.lockFailing (m.inputs.drive (m.turn s state).state.mode.target)
      else [] := by
  have failing : (m.decided s state).state.lockFailing = state.lockFailing :=
    congrArg Kept.lockFailing (decided_kept s m state)
  have before : (m.decided s state).notable =
      Turn.checked s (m.snapshot state) (m.prepared s state).state.mode := by
    rw [decided, Turn.armDeadline_notable, Turn.handleMode_notable, prepared_notable]
    rfl
  have h := Turn.driveLock_notable s (m.snapshot state) (m.decided s state)
  rw [decided_mode, drives_eq, failing, before] at h
  exact h

/-- What the turn remembers of the buttons and of the lock. -/
theorem turn_kept : (m.turn s state).state.kept =
    if m.drives s state then {
      lastKeys := m.inputs.keys
      lockRetryAt := if (m.inputs.drive (m.turn s state).state.mode.target).isOk then none
        else some (m.inputs.now + s.lockRetry)
      lockFailing := !(m.inputs.drive (m.turn s state).state.mode.target).isOk }
    else { state.kept with lastKeys := m.inputs.keys } := by
  have h := Turn.driveLock_kept s (m.snapshot state) (m.decided s state)
  rw [decided_mode, drives_eq, decided_kept] at h
  exact h

theorem turn_checks (card : CardId) : .checkCard card ∈ (m.turn s state).deeds ↔
    asked? (m.snapshot state) (m.prepared s state).state.mode = some card := by
  rw [← Turn.mem_notable rfl, turn_notable]
  split <;> simp

theorem turn_drives_iff {b : Lock.BoltState} : .driveLock b ∈ (m.turn s state).deeds ↔
    m.drives s state = true ∧ b = (m.turn s state).state.mode.target := by
  rw [← Turn.mem_notable rfl, turn_notable]
  split <;> simp_all

theorem turn_drives {b : Lock.BoltState} (h : .driveLock b ∈ (m.turn s state).deeds) :
    b = (m.turn s state).state.mode.target := ((turn_drives_iff s m state).mp h).2

/-- A turn remembers the buttons that it has seen. -/
theorem turn_lastKeys : (m.turn s state).state.lastKeys = m.inputs.keys := by
  have h := congrArg Kept.lastKeys (turn_kept s m state)
  split at h <;> exact h

end Moment

/-- A door from its first turn on. -/
structure Run where
  settings : Settings
  moments : Nat → Moment

namespace Run

/-- The state before the turn with the given number. -/
def stateAt (r : Run) : Nat → State
  | 0 => {}
  | n + 1 => ((r.moments n).turn r.settings (r.stateAt n)).state

def turnAt (r : Run) (n : Nat) : Turn := (r.moments n).turn r.settings (r.stateAt n)

def snapshotAt (r : Run) (n : Nat) : Snapshot := (r.moments n).snapshot (r.stateAt n)

def timeAt (r : Run) (n : Nat) : Nat := (r.moments n).inputs.now

/-- The clock does not go back. -/
def Ordered (r : Run) : Prop := ∀ n, r.timeAt n ≤ r.timeAt (n + 1)

variable (r : Run) (n : Nat)

theorem stateAt_pendingTimeout : (r.stateAt n).pendingTimeout = none := by
  cases n with
  | zero => rfl
  | succ n => exact Moment.turn_pendingTimeout _ _ _

/-- The course as the turn comes to its mode. -/
def commandedAt : Course := (r.stateAt n).course.commanded r.settings (r.snapshotAt n)

theorem passage : Passage r.settings (r.snapshotAt n) (r.commandedAt n).mode
    (r.commandedAt n).deadline (r.stateAt (n + 1)).mode (r.stateAt (n + 1)).deadline :=
  Moment.turn_passage r.settings (r.moments n) (r.stateAt n) (r.stateAt_pendingTimeout n)

/-- The buttons held down in the turn before; none were before the first one. -/
def heldBefore : Nat → Keys
  | 0 => {}
  | n + 1 => (r.moments n).inputs.keys

/-- The buttons that go down in a turn. -/
def pressedAt (n : Nat) : Keys := (r.moments n).inputs.keys.pressed (r.heldBefore n)

theorem stateAt_lastKeys (n : Nat) : (r.stateAt n).lastKeys = r.heldBefore n := by
  cases n with
  | zero => rfl
  | succ n => exact Moment.turn_lastKeys _ _ _

theorem snapshotAt_pressed (n : Nat) : (r.snapshotAt n).pressed = r.pressedAt n :=
  congrArg (r.moments n).inputs.keys.pressed (r.stateAt_lastKeys n)

/-- Turns a quarter of an hour apart, with the green button held down from the second one on. -/
def greenHeld : Run where
  settings := {}
  moments n := {
    inputs := {
      now := n * 900000
      wall := 0
      weekday := .monday
      keys := { green := decide (0 < n) }
      lock := {}
      bolt := .unknown
      card := none
      access _ := .forbidden
      drive _ := .ok () }
    outbound := {
      debug := { capacity := 1 }
      audit := { capacity := 1 }
      chat := { capacity := 1 }
      membership := { capacity := 1 } }
    link := {} }

end Run

end DoorControl.Door
