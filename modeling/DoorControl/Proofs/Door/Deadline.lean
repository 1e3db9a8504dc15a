/- How long a door stays unlocked: what holds of its mode and its deadline after each turn of a run. -/
import DoorControl.Proofs.Door.Run

namespace DoorControl.Door

namespace Settings

/-- The longest time that anything unlocks the door for. -/
def longest (s : Settings) : Nat := max (max s.enter s.leave) (max s.unlockPeriod s.remoteUnlock)

theorem interval_pos {s : Settings} (h : s.validate = .ok ()) {name : String} {ms : Nat}
    (hi : (name, ms) ∈ s.intervals) : 0 < ms := by
  unfold validate fault? at h
  split at h
  next => cases h
  next faultless =>
    split at faultless
    next => cases faultless
    next positive =>
      have := List.find?_eq_none.mp positive (name, ms) hi
      exact Nat.pos_of_ne_zero (by simpa using this)

/-- A time that the door may be unlocked for. -/
structure Allows (s : Settings) (ms : Nat) : Prop where
  pos : 0 < ms
  le : ms ≤ s.longest

/-- The times of all that unlocks the door for a time. -/
structure Lasting (s : Settings) : Prop where
  enter : s.Allows s.enter
  leave : s.Allows s.leave
  unlockPeriod : s.Allows s.unlockPeriod
  remoteUnlock : s.Allows s.remoteUnlock

theorem lasting {s : Settings} (h : s.validate = .ok ()) : s.Lasting := by
  have allows (name : String) {ms : Nat} (hi : (name, ms) ∈ s.intervals) (hle : ms ≤ s.longest) :
      s.Allows ms := ⟨interval_pos h hi, hle⟩
  constructor
  · exact allows "enter time" (by simp [intervals]) (by unfold longest; omega)
  · exact allows "leave time" (by simp [intervals]) (by unfold longest; omega)
  · exact allows "unlock period" (by simp [intervals]) (by unfold longest; omega)
  · exact allows "remote unlock time" (by simp [intervals]) (by unfold longest; omega)

end Settings

/-- A deadline exists in the timed mode only, and lies within the longest time from `now`. -/
structure Bounded (s : Settings) (now : Nat) (mode : Mode) (deadline : Option Nat) : Prop where
  isSome_iff : deadline.isSome ↔ mode = .timed
  le : ∀ d, deadline = some d → d ≤ now + s.longest

namespace Bounded

variable {s : Settings} {now later : Nat} {mode : Mode} {deadline : Option Nat}

theorem mono (h : Bounded s now mode deadline) (hle : now ≤ later) :
    Bounded s later mode deadline where
  isSome_iff := h.isSome_iff
  le d hd := Nat.le_trans (h.le d hd) (by omega)

theorem eq_none (h : Bounded s now mode deadline) (hm : mode ≠ .timed) : deadline = none := by
  cases deadline with
  | none => rfl
  | some d => exact absurd (h.isSome_iff.mp rfl) hm

theorem of_none (hm : mode ≠ .timed) : Bounded s now mode none where
  isSome_iff := by simp [hm]
  le d hd := by simp at hd

theorem of_some {d : Nat} (hd : d ≤ now + s.longest) : Bounded s now .timed (some d) where
  isSome_iff := by simp
  le := by simpa using hd

/-- The gateway's action keeps the bound: it removes the deadline, or sets a new one. -/
theorem commanded {c : Course} {i : Snapshot} (hs : s.Lasting)
    (h : Bounded s i.now c.mode c.deadline) :
    Bounded s i.now (c.commanded s i).mode (c.commanded s i).deadline := by
  unfold Course.commanded
  split
  · split
    · exact h
    · exact of_none (by simp)
  · exact of_some (Nat.add_le_add_left hs.remoteUnlock.le i.now)
  · exact h
  · exact h

end Bounded

/-- What holds after each turn, at the time that the turn looks at. -/
structure Settled (s : Settings) (i : Snapshot) (mode : Mode) (deadline : Option Nat) : Prop
    extends Bounded s i.now mode deadline where
  started : mode ≠ .initial
  ahead : ∀ d, deadline = some d → i.now < d
  day : mode = .opened → i.openDay = true

namespace Settled

variable {s : Settings} {i : Snapshot}

theorem locked : Settled s i .locked none where
  toBounded := .of_none (by simp)
  started := by simp
  ahead := by simp
  day := by simp

theorem opened (day : i.openDay = true) : Settled s i .opened none where
  toBounded := .of_none (by simp)
  started := by simp
  ahead := by simp
  day _ := day

theorem timed {ms : Nat} (h : s.Allows ms) : Settled s i .timed (some (i.now + ms)) where
  toBounded := .of_some (Nat.add_le_add_left h.le i.now)
  started := by simp
  ahead := by simpa using h.pos
  day := by simp

end Settled

/-- A passage settles the course, whatever bounded one it comes from. -/
theorem Passage.settled {s : Settings} {i : Snapshot} {mode mode' : Mode} {d d' : Option Nat}
    (hp : Passage s i mode d mode' d') (hs : s.Lasting) (hb : Bounded s i.now mode d) :
    Settled s i mode' d' := by
  cases hp with
  | begin | refuseDay | refuseCard | rest | close =>
      obtain rfl := hb.eq_none (by simp)
      exact .locked
  | openSpace _ _ day =>
      obtain rfl := hb.eq_none (by simp)
      exact .opened day
  | remain _ day =>
      obtain rfl := hb.eq_none (by simp)
      exact .opened day
  | pressGreen => exact .timed hs.unlockPeriod
  | acceptCard => exact .timed hs.enter
  | pressLeave => exact .timed hs.leave
  | relock => exact .locked
  | openEarly _ _ _ _ day => exact .opened day
  | prolong => exact .timed hs.leave
  | wait time _ ahead => exact ⟨hb, by simp, by simpa using ahead, by simp⟩

/-- A timed unlock whose deadline has come ends, whatever else is asked for. -/
theorem Passage.relocks {s : Settings} {i : Snapshot} {mode' : Mode} {time : Nat} {d' : Option Nat}
    (hp : Passage s i .timed (some time) mode' d') (due : time ≤ i.now) : mode' = .locked := by
  cases hp with
  | relock => rfl
  | openEarly _ _ ahead | prolong _ _ ahead | wait _ _ ahead => omega

namespace Run

variable {r : Run}

theorem settled_succ (hs : r.settings.Lasting) (n : Nat)
    (hb : Bounded r.settings (r.timeAt n) (r.stateAt n).mode (r.stateAt n).deadline) :
    Settled r.settings (r.snapshotAt n) (r.stateAt (n + 1)).mode (r.stateAt (n + 1)).deadline :=
  (r.passage n).settled hs (Bounded.commanded (c := (r.stateAt n).course) hs hb)

/-- The bound as a turn finds it: the last turn has left it, and no time has been lost since. -/
theorem bounded (hs : r.settings.Lasting) (ordered : r.Ordered) (n : Nat) :
    Bounded r.settings (r.timeAt n) (r.stateAt n).mode (r.stateAt n).deadline := by
  induction n with
  | zero => exact .of_none (by simp [stateAt])
  | succ n ih => exact (settled_succ hs n ih).toBounded.mono (ordered n)

/-- After each turn of a run with valid settings the door has begun, nothing waits to become a deadline,
a timed unlock and only that has a deadline, which lies ahead within the longest time, and the door is
open on an open day only. A turn that finds the deadline passed locks the door unless the gateway acts. -/
theorem timed_unlock_is_bounded (valid : r.settings.validate = .ok ()) (ordered : r.Ordered)
    (n : Nat) :
    (r.stateAt (n + 1)).mode ≠ .initial ∧
    (r.stateAt (n + 1)).pendingTimeout = none ∧
    ((r.stateAt (n + 1)).deadline.isSome ↔ (r.stateAt (n + 1)).mode = .timed) ∧
    (∀ d, (r.stateAt (n + 1)).deadline = some d → r.timeAt n < d ∧
      d ≤ r.timeAt n + max (max r.settings.enter r.settings.leave)
        (max r.settings.unlockPeriod r.settings.remoteUnlock)) ∧
    ((r.stateAt (n + 1)).mode = .opened → (r.snapshotAt n).openDay = true) ∧
    ((r.snapshotAt n).remote = none → (r.stateAt n).mode = .timed →
      (∀ d, (r.stateAt n).deadline = some d → d ≤ r.timeAt n) →
      (r.stateAt (n + 1)).mode = .locked) := by
  have hb := bounded (r.settings.lasting valid) ordered n
  have h := settled_succ (r.settings.lasting valid) n hb
  refine ⟨h.started, r.stateAt_pendingTimeout (n + 1), h.isSome_iff,
    fun d hd => ⟨h.ahead d hd, h.le d hd⟩, h.day, ?_⟩
  intro idle timed due
  obtain ⟨d, hd⟩ := Option.isSome_iff_exists.mp (hb.isSome_iff.mpr timed)
  have hp := r.passage n
  have hc : r.commandedAt n = (r.stateAt n).course := by
    unfold commandedAt Course.commanded
    rw [idle]
  simp only [hc, State.course, timed, hd] at hp
  exact hp.relocks (due d hd)

/-- The second turn unlocks the door for a quarter of an hour, and the third one ends that. -/
theorem greenHeld_relocks :
    greenHeld.settings.validate = .ok () ∧ greenHeld.Ordered ∧
      (greenHeld.stateAt 2).mode = .timed ∧ (greenHeld.stateAt 2).deadline = some 1800000 ∧
      (greenHeld.stateAt 3).mode = .locked := by
  have ordered : greenHeld.Ordered := fun n => Nat.mul_le_mul_right 900000 (Nat.le_succ n)
  have timed : (greenHeld.stateAt 2).mode = .timed := by rfl
  have deadline : (greenHeld.stateAt 2).deadline = some 1800000 := by rfl
  obtain ⟨-, -, -, -, -, relocks⟩ := timed_unlock_is_bounded (r := greenHeld) rfl ordered 2
  refine ⟨rfl, ordered, timed, deadline, relocks rfl timed ?_⟩
  intro d hd
  rw [deadline] at hd
  exact Nat.le_of_eq (Option.some.inj hd).symm

end Run

end DoorControl.Door
