/- What a configuration that is accepted rules out, and what it does not: capacities and times that are too
large. -/
import DoorControl.Config.Validation
import DoorControl.Proofs.Door.Overrun
import Mathlib.Algebra.Group.Nat.Defs

namespace DoorControl.Config.Configuration

open Outbox (maxCapacity Queue Outbound)

variable {c : Configuration}

theorem positive_pos (valid : c.fault? = none) {key : String} {n : Nat} (h : (key, n) ∈ c.positive) :
    0 < n := by
  unfold fault? at valid
  split at valid
  · cases valid
  · next found =>
      have nonzero := List.find?_eq_none.mp found (key, n) h
      exact Nat.pos_of_ne_zero (by simpa using nonzero)

theorem doorSettings_valid (valid : c.fault? = none) : c.doorSettings.validate = .ok () := by
  unfold fault? at valid
  split at valid
  · cases valid
  split at valid
  · cases valid
  split at valid
  · cases valid
  · assumption

/-- A queue can be made if its capacity is neither zero nor too large. -/
theorem create?_isSome {α : Type} {capacity : Nat} (pos : 0 < capacity) :
    (Queue.create? (α := α) capacity).isSome ↔ capacity ≤ maxCapacity := by
  unfold Queue.create?
  split <;> simp <;> omega

theorem queues?_isSome : c.queues?.isSome ↔
    (Queue.create? (α := Outbox.Item) c.dispatch.log).isSome ∧
      (Queue.create? (α := Outbox.Item) c.dispatch.chat).isSome ∧
      (Queue.create? (α := Outbox.Item) c.dispatch.membership).isSome := by
  unfold queues? Outbound.create?
  cases Queue.create? (α := Outbox.Item) c.dispatch.log <;>
    cases Queue.create? (α := Outbox.Item) c.dispatch.chat <;>
    cases Queue.create? (α := Outbox.Item) c.dispatch.membership <;> simp

theorem doorSettings_reach : c.doorSettings.reach =
    max (1000 * max (max c.controller.enter c.controller.leave)
      (max c.controller.unlockPeriod c.controller.remoteUnlock)) 10000 := by
  simp only [Door.Settings.reach, Door.Settings.longest, doorSettings]
  omega

/-- An accepted configuration demands nothing of zero length, and the door takes its settings. What it does
not rule out is too much: the queues can be made just if their capacities are in range, and the door tells
all times that it asks for up to `time`, whatever it meets, just if the longest of them still lies in its
clock's range. -/
theorem accepted_configuration_limits (valid : c.fault? = none) :
    (∀ key n, (key, n) ∈ c.positive → 0 < n) ∧
      c.doorSettings.validate = .ok () ∧
      (∀ name ms, (name, ms) ∈ c.doorSettings.intervals → 0 < ms) ∧
      (c.queues?.isSome ↔ c.dispatch.log ≤ maxCapacity ∧ c.dispatch.chat ≤ maxCapacity ∧
        c.dispatch.membership ≤ maxCapacity) ∧
      ∀ time, (∀ r : Door.Run, r.settings = c.doorSettings → ∀ n, r.timeAt n ≤ time →
          (r.turnAt n).overrun = false) ↔
        time + max (1000 * max (max c.controller.enter c.controller.leave)
          (max c.controller.unlockPeriod c.controller.remoteUnlock)) 10000 < Door.clockEnd := by
  have pos (key : String) {n : Nat} (h : (key, n) ∈ c.positive) : 0 < n := positive_pos valid h
  have accepted := doorSettings_valid valid
  refine ⟨fun key _ => pos key, accepted, fun _ _ => Door.Settings.interval_pos accepted, ?_, ?_⟩
  · rw [queues?_isSome, create?_isSome (pos "dispatch.log_capacity" (by simp [positive])),
      create?_isSome (pos "dispatch.chat_capacity" (by simp [positive])),
      create?_isSome (pos "dispatch.membership_capacity" (by simp [positive]))]
  · intro time
    rw [← doorSettings_reach]
    constructor
    · intro runs
      by_contra late
      have late : Door.clockEnd ≤ time + c.doorSettings.reach := Nat.le_of_not_lt late
      obtain ⟨r, settings, still, n, overrun⟩ := Door.Run.exists_overrun late
      rw [runs r settings n (still n).le] at overrun
      cases overrun
    · intro room r settings n early
      exact r.turnAt_in_time n (by rw [settings]; omega)

/-- The defaults leave room for as long as a door can work. -/
theorem defaults_in_time : ({} : Configuration).fault? = none ∧
    ({} : Configuration).queues?.isSome = true ∧
    ∀ r : Door.Run, r.settings = ({} : Configuration).doorSettings → ∀ n, r.timeAt n ≤ 10 ^ 18 →
      (r.turnAt n).overrun = false := by
  have valid : ({} : Configuration).fault? = none := by decide
  obtain ⟨-, -, -, queues, runs⟩ := accepted_configuration_limits valid
  exact ⟨valid, queues.mpr (by decide), (runs (10 ^ 18)).mpr (by decide)⟩

/-- A configuration with a log of too large a capacity is accepted, and so is one in which the gateway
unlocks the door for longer than its clock runs. -/
theorem too_much_accepted :
    ¬ (∀ c : Configuration, c.fault? = none → c.queues?.isSome = true) ∧
      ¬ ∀ c : Configuration, c.fault? = none → ∀ r : Door.Run, r.settings = c.doorSettings →
        (∀ n, r.timeAt n = 0) → ∀ n, (r.turnAt n).overrun = false := by
  constructor
  · intro works
    have made := works { dispatch := { log := 2305843009213693952 } } (by decide)
    exact absurd made (by decide)
  · intro works
    let c : Configuration := { controller := { remoteUnlock := 18446744073709551615 } }
    let r := Door.Run.standstill c.doorSettings 0 {} none .forbidden (.ok ()) (some .unlock)
    have told := works c (by decide) r rfl (fun _ => rfl) 0
    have overrun : (r.turnAt 0).overrun = true :=
      (Door.Moment.turn_overrun_iff _ _ _).mpr (.inl ⟨rfl, by decide⟩)
    rw [told] at overrun
    cases overrun

end DoorControl.Config.Configuration
