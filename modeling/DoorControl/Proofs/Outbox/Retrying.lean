/- Attempts at one item after the other: how many are made, when, and how they end. -/
import DoorControl.Outbox.Delivery
import Mathlib.Order.Bounds.Basic

namespace DoorControl.Outbox

variable {W : Type}

/-- No further attempt is made after this result, even if one is left. -/
def isFinal : Except DeliveryError Unit → Bool
  | .ok () => true
  | .error e => !e.isRetryable

namespace RetryPolicy

def most (policy : RetryPolicy) : Nat := max policy.attempts 1

/-- The wait between two attempts, cut to the longest one. -/
def pause (policy : RetryPolicy) : Nat := min policy.backoff Clock.longestWait

end RetryPolicy

namespace Sink

variable (sink : Sink W) (item : Item) (world : W)

/-- The world after so many attempts at an item in a row. -/
def worldAfter : Nat → W
  | 0 => world
  | n + 1 => (sink.deliver item (worldAfter n)).2

/-- The result of an attempt, told by its number, the first one being 1. -/
def outcome (number : Nat) : Except DeliveryError Unit :=
  (sink.deliver item (sink.worldAfter item world (number - 1))).1

def MayEnd (most number : Nat) : Prop :=
  0 < number ∧ (isFinal (sink.outcome item world number) = true ∨ number = most)

/-- The attempts end with this one: the first that succeeds, or fails for good, or is the last allowed. -/
def EndsWith (most number : Nat) : Prop := IsLeast {n | sink.MayEnd item world most n} number

variable {sink item world} {most number : Nat}

theorem worldAfter_succ (n : Nat) : sink.worldAfter item (sink.deliver item world).2 n =
    sink.worldAfter item world (n + 1) := by
  induction n with
  | zero => rfl
  | succ n ih => exact congrArg (fun w => (sink.deliver item w).2) ih

theorem outcome_succ (positive : 0 < number) :
    sink.outcome item (sink.deliver item world).2 number = sink.outcome item world (number + 1) := by
  obtain ⟨n, rfl⟩ := Nat.exists_eq_succ_of_ne_zero positive.ne'
  exact congrArg (fun w => (sink.deliver item w).1) (worldAfter_succ n)

theorem endsWith_one (final : isFinal (sink.outcome item world 1) = true ∨ most = 1) :
    sink.EndsWith item world most 1 :=
  ⟨⟨Nat.one_pos, final.imp_right Eq.symm⟩, fun _ ends => ends.1⟩

theorem EndsWith.succ (again : isFinal (sink.outcome item world 1) = false)
    (ends : sink.EndsWith item (sink.deliver item world).2 most number) (positive : 0 < most) :
    sink.EndsWith item world (most + 1) (number + 1) := by
  obtain ⟨⟨counted, last⟩, least⟩ := ends
  refine ⟨⟨Nat.succ_pos _, ?_⟩, ?_⟩
  · rw [← outcome_succ counted]
    exact last.imp_right (congrArg (· + 1))
  · rintro n ⟨some, ends⟩
    -- The first attempt is not the last one, and those after it are counted from the second on.
    match n with
    | 0 => exact absurd some (Nat.lt_irrefl 0)
    | 1 => simp [again, positive.ne'] at ends
    | n + 2 =>
        rw [← outcome_succ n.succ_pos] at ends
        exact Nat.succ_le_succ (least ⟨n.succ_pos, ends.imp_right Nat.succ.inj⟩)

end Sink

/-- All attempts at one item: when they begin, in which world, and how many there are. -/
structure Delivery (W : Type) where
  item : Item
  begun : Nat
  world : W
  count : Nat

namespace Delivery

variable (sink : Sink W) (policy : RetryPolicy) (d : Delivery W)

/-- One attempt after the other, with a wait between two of them. -/
def attempts : List Attempt :=
  (List.range d.count).map fun n => ⟨d.begun + n * policy.pause, d.item, sink.outcome d.item d.world (n + 1)⟩

/-- There is no wait after the last attempt. -/
def ended : Nat := d.begun + (d.count - 1) * policy.pause

def left : W := sink.worldAfter d.item d.world d.count

def warnings : List Warning :=
  match sink.outcome d.item d.world d.count with
  | .ok () => []
  | .error e => [.dropped e]

variable {sink policy} {item : Item} {begun : Nat} {world : W} {count : Nat}

theorem attempts_succ :
    attempts sink policy ⟨item, begun, world, count + 1⟩ = ⟨begun, item, sink.outcome item world 1⟩ ::
      attempts sink policy ⟨item, begun + policy.pause, (sink.deliver item world).2, count⟩ := by
  have later (n : Nat) : begun + (n + 1) * policy.pause = begun + policy.pause + n * policy.pause := by
    rw [Nat.succ_mul, Nat.add_assoc, Nat.add_comm policy.pause]
  simp [attempts, List.range_succ_eq_map, Function.comp_def, later, Sink.outcome_succ]

end Delivery

namespace Course

variable (sink : Sink W) (policy : RetryPolicy) (item : Item)

def attempt (c : Course W) : Except DeliveryError Unit × Course W :=
  let (result, world) := sink.deliver item c.world
  (result, { c with world, attempts := c.attempts ++ [⟨c.now, item, result⟩] })

def rest (c : Course W) : Course W := { c with now := Clock.after c.now policy.backoff }

def giveUp (cause : DeliveryError) (c : Course W) : Course W :=
  { c with warnings := c.warnings ++ [.dropped cause] }

/-- What is left of a delivery after an attempt, where `more` are allowed. -/
def proceed (more : Nat) : Except DeliveryError Unit × Course W → Course W
  | (.ok (), c) => c
  | (.error e, c) => match more with
      | 0 => c.giveUp e
      | more + 1 =>
          if e.isRetryable then deliver sink policy.backoff item more (c.rest policy) else c.giveUp e

theorem deliver_eq_proceed (more : Nat) (c : Course W) :
    deliver sink policy.backoff item more c = proceed sink policy item more (c.attempt sink item) := by
  unfold deliver attempt
  obtain ⟨result, world⟩ := sink.deliver item c.world
  cases result with
  | ok => rfl
  | error e => cases more <;> rfl

def after (d : Delivery W) (c : Course W) : Course W where
  world := d.left sink
  now := d.ended policy
  attempts := c.attempts ++ d.attempts sink policy
  warnings := c.warnings ++ d.warnings sink

variable {sink policy item} {more : Nat} {c : Course W}

/-- A delivery is its first attempt, a wait, and the delivery by the attempts after these. -/
theorem after_succ {count : Nat} (positive : 0 < count) :
    c.after sink policy ⟨item, c.now, c.world, count + 1⟩ =
      let c' := (c.attempt sink item).2.rest policy
      c'.after sink policy ⟨item, c'.now, c'.world, count⟩ := by
  have time : c.now + count * policy.pause = c.now + policy.pause + (count - 1) * policy.pause := by
    obtain ⟨n, rfl⟩ := Nat.exists_eq_succ_of_ne_zero positive.ne'
    rw [Nat.succ_mul, Nat.add_assoc, Nat.add_comm policy.pause, Nat.succ_sub_one]
  have world : sink.worldAfter item c.world (count + 1) =
      sink.worldAfter item (sink.deliver item c.world).2 count := (Sink.worldAfter_succ count).symm
  simp only [after, Delivery.attempts_succ, Delivery.left, Delivery.ended, Delivery.warnings, world,
    ← Sink.outcome_succ positive, Nat.add_sub_cancel, time]
  simp [attempt, rest, Clock.after, RetryPolicy.pause, Sink.outcome, Sink.worldAfter]

theorem proceed_last (last : isFinal (sink.outcome item c.world 1) = true ∨ more = 0) :
    proceed sink policy item more (c.attempt sink item) =
      c.after sink policy ⟨item, c.now, c.world, 1⟩ := by
  have result : (c.attempt sink item).1 = sink.outcome item c.world 1 := rfl
  have first : (c.attempt sink item).2 =
      { c with
        world := (sink.deliver item c.world).2
        attempts := c.attempts ++ [⟨c.now, item, sink.outcome item c.world 1⟩] } := rfl
  have ended : c.after sink policy ⟨item, c.now, c.world, 1⟩ =
      { (c.attempt sink item).2 with
        warnings := c.warnings ++ Delivery.warnings sink ⟨item, c.now, c.world, 1⟩ } := by
    simp [after, first, Delivery.left, Delivery.ended, Delivery.attempts, Sink.worldAfter]
  rw [ended, Delivery.warnings]
  generalize c.attempt sink item = tried at result first
  obtain ⟨outcome, c'⟩ := tried
  dsimp only at result first
  rw [← result] at last ⊢
  cases outcome with
  | ok => simp [proceed, first]
  | error e =>
      cases more with
      | zero => simp [proceed, giveUp, first]
      | succ more =>
          have lasting : e.isRetryable = false := by simpa [isFinal] using last
          simp [proceed, giveUp, lasting, first]

theorem proceed_again (again : isFinal (sink.outcome item c.world 1) = false) :
    proceed sink policy item (more + 1) (c.attempt sink item) =
      deliver sink policy.backoff item more ((c.attempt sink item).2.rest policy) := by
  have result : (c.attempt sink item).1 = sink.outcome item c.world 1 := rfl
  rw [← result] at again
  cases tried : c.attempt sink item with
  | mk outcome c' =>
      rw [tried] at again
      cases outcome with
      | ok => simp [isFinal] at again
      | error e =>
          have passing : e.isRetryable = true := by simpa [isFinal] using again
          simp [proceed, passing]

variable (sink policy item) in
theorem deliver_eq_after (more : Nat) (c : Course W) : ∃ count,
    sink.EndsWith item c.world (more + 1) count ∧
      deliver sink policy.backoff item more c = c.after sink policy ⟨item, c.now, c.world, count⟩ := by
  -- The induction is on the attempts that are left; the next one starts at another time in another world.
  induction more generalizing c with
  | zero =>
      rw [deliver_eq_proceed]
      exact ⟨1, Sink.endsWith_one (.inr rfl), proceed_last (.inr rfl)⟩
  | succ more ih =>
      rw [deliver_eq_proceed]
      cases final : isFinal (sink.outcome item c.world 1) with
      | true => exact ⟨1, Sink.endsWith_one (.inl final), proceed_last (.inl final)⟩
      | false =>
          obtain ⟨count, ends, delivered⟩ := ih ((c.attempt sink item).2.rest policy)
          refine ⟨count + 1, ends.succ final more.succ_pos, ?_⟩
          rw [proceed_again final, delivered, after_succ ends.1.1]

end Course

/-- Deliveries, one after the other, lead from one time and world to others. -/
inductive Deliveries (sink : Sink W) (policy : RetryPolicy) :
    Nat → W → List (Delivery W) → Nat → W → Prop
  | none {time : Nat} {world : W} : Deliveries sink policy time world [] time world
  | next {d : Delivery W} {later : List (Delivery W)} {time : Nat} {world : W}
      (ends : sink.EndsWith d.item d.world policy.most d.count)
      (rest : Deliveries sink policy (d.ended policy) (d.left sink) later time world) :
      Deliveries sink policy d.begun d.world (d :: later) time world

end DoorControl.Outbox
