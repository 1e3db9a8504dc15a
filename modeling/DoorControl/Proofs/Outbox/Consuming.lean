/- The consumer of a queue that producers still write to: which items it delivers, in which order, and when
it is done. -/
import DoorControl.Outbox.Queue
import DoorControl.Proofs.Outbox.Retrying
import Mathlib

namespace DoorControl.Outbox

variable {W : Type}

inductive Phase
  | waiting
  /-- It has an item to deliver, and may make `more` attempts after the next one. -/
  | holding (item : Item) (more : Nat)
  | returned
  deriving DecidableEq

/-- A producer offers an item, or the last producer goes; the consumer goes on. -/
inductive Move
  | offer (item : Item)
  | finish
  | work

/-- A queue and its consumer, with what has come into the queue and what has been taken out of it. -/
structure Consumer (W : Type) where
  queue : Queue Item
  course : Course W
  phase : Phase := .waiting
  accepted : List Item
  taken : List Item := []

namespace Consumer

def start (queue : Queue Item) (world : W) : Consumer W where
  queue
  course := { world }
  accepted := queue.items

def offer (item : Item) (s : Consumer W) : Consumer W :=
  -- Once the producers have gone nobody offers anything.
  if s.queue.finished then s
  else match s.queue.enqueue item with
    | (.accepted, queue) => { s with queue, accepted := s.accepted ++ [item] }
    | (.dropped, queue) => { s with queue }

variable (sink : Sink W) (policy : RetryPolicy)

/-- Takes the next item, or makes an attempt at the one that has been taken. -/
def work (s : Consumer W) : Consumer W :=
  match s.phase with
  | .waiting => match s.queue.receive with
      | (.item x, queue) =>
          let s := { s with queue, taken := s.taken ++ [x] }
          if sink.isConfigured then { s with phase := .holding x (policy.attempts - 1) }
          else { s with course := s.course.take sink policy x }
      | (.wait, _) => s
      | (.ended, _) => { s with phase := .returned }
  | .holding item more => match s.course.attempt sink item with
      | (.ok (), course) => { s with course, phase := .waiting }
      | (.error e, course) => match more with
          | 0 => { s with course := course.giveUp e, phase := .waiting }
          | more + 1 =>
              if e.isRetryable then
                { s with course := course.rest policy, phase := .holding item more }
              else { s with course := course.giveUp e, phase := .waiting }
  | .returned => s

def run (s : Consumer W) : Move → Consumer W
  | .offer item => s.offer item
  | .finish => { s with queue := s.queue.finish }
  | .work => s.work sink policy

def runAll (s : Consumer W) (moves : List Move) : Consumer W := moves.foldl (run sink policy) s

/-- The course once the item at hand has been delivered or given up. -/
def completed (s : Consumer W) : Course W :=
  match s.phase with
  | .holding item more => s.course.deliver sink policy.backoff item more
  | .waiting | .returned => s.course

end Consumer

namespace Course

variable {sink : Sink W} {policy : RetryPolicy}

theorem run_concat (items : List Item) (item : Item) (c : Course W) :
    c.run sink policy (items ++ [item]) = (c.run sink policy items).take sink policy item := by
  simp [run]

theorem attempts_deliver (item : Item) (more : Nat) (c : Course W) :
    c.attempts <+: (c.deliver sink policy.backoff item more).attempts := by
  obtain ⟨count, -, delivered⟩ := deliver_eq_after sink policy item more c
  exact ⟨_, (congrArg attempts delivered).symm⟩

/-- A sink without credentials is not tried; that is warned of once. -/
theorem run_unconfigured (missing : sink.isConfigured = false) (items : List Item) (world : W) :
    run sink policy items { world } =
      { world, warnings := if items = [] then [] else [.unconfigured] } := by
  induction items using List.reverseRecOn with
  | nil => rfl
  | append_singleton items item ih =>
      rw [run_concat, ih, take, missing]
      cases items <;> simp

variable (policy) in
/-- A sink with credentials gets the items one after the other. -/
theorem run_configured (there : sink.isConfigured = true) (items : List Item) (c : Course W) :
    ∃ ds : List (Delivery W), ds.map (·.item) = items ∧
      Deliveries sink policy c.now c.world ds (c.run sink policy items).now
        (c.run sink policy items).world ∧
      (c.run sink policy items).attempts = c.attempts ++ ds.flatMap (·.attempts sink policy) ∧
      (c.run sink policy items).warnings = c.warnings ++ ds.flatMap (·.warnings sink) := by
  induction items generalizing c with
  | nil => exact ⟨[], rfl, .none, by simp [run]⟩
  | cons item items ih =>
      obtain ⟨count, ends, delivered⟩ := deliver_eq_after sink policy item (policy.attempts - 1) c
      have most : policy.attempts - 1 + 1 = policy.most := by unfold RetryPolicy.most; omega
      have taken : c.take sink policy item = c.after sink policy ⟨item, c.now, c.world, count⟩ := by
        rw [take, if_pos there, delivered]
      obtain ⟨ds, same, later, attempts, warnings⟩ := ih (c.take sink policy item)
      rw [run, List.foldl_cons, ← run]
      rw [taken] at later attempts warnings ⊢
      refine ⟨⟨item, c.now, c.world, count⟩ :: ds, by rw [List.map_cons, same], ?_, ?_, ?_⟩
      · exact .next (most ▸ ends) later
      · rw [attempts, after, List.flatMap_cons, List.append_assoc]
      · rw [warnings, after, List.flatMap_cons, List.append_assoc]

end Course

namespace Consumer

variable {sink : Sink W} {policy : RetryPolicy} {queue : Queue Item} {world : W} {s : Consumer W}

theorem completed_of_waiting (waits : s.phase = .waiting) : s.completed sink policy = s.course := by
  rw [completed, waits]

theorem completed_of_holding {item : Item} {more : Nat} (holds : s.phase = .holding item more) :
    s.completed sink policy = Course.proceed sink policy item more (s.course.attempt sink item) := by
  rw [completed, holds]
  exact Course.deliver_eq_proceed sink policy item more s.course

theorem runAll_concat (moves : List Move) (move : Move) : s.runAll sink policy (moves ++ [move]) =
    (s.runAll sink policy moves).run sink policy move := by
  simp [runAll]

inductive Does (sink : Sink W) (policy : RetryPolicy) (s : Consumer W) : Consumer W → Prop
  | takes {x : Item} {rest : List Item} (waits : s.phase = .waiting) (there : sink.isConfigured = true)
      (items : s.queue.items = x :: rest) : Does sink policy s
        { s with queue.items := rest, taken := s.taken ++ [x], phase := .holding x (policy.attempts - 1) }
  | discards {x : Item} {rest : List Item} (waits : s.phase = .waiting)
      (missing : sink.isConfigured = false) (items : s.queue.items = x :: rest) : Does sink policy s
        { s with queue.items := rest, taken := s.taken ++ [x], course := s.course.take sink policy x }
  | waits (waits : s.phase = .waiting) (empty : s.queue.items = [])
      (producers : s.queue.finished = false) : Does sink policy s s
  | returns (waits : s.phase = .waiting) (empty : s.queue.items = [])
      (finished : s.queue.finished = true) : Does sink policy s { s with phase := .returned }
  | ends {item : Item} {more : Nat} (holds : s.phase = .holding item more)
      (last : isFinal (sink.outcome item s.course.world 1) = true ∨ more = 0) : Does sink policy s
        { s with
          course := Course.proceed sink policy item more (s.course.attempt sink item), phase := .waiting }
  | retries {item : Item} {more : Nat} (holds : s.phase = .holding item (more + 1))
      (again : isFinal (sink.outcome item s.course.world 1) = false) : Does sink policy s
        { s with course := (s.course.attempt sink item).2.rest policy, phase := .holding item more }
  | rests (done : s.phase = .returned) : Does sink policy s s

theorem does_attempt {item : Item} {more : Nat} (holds : s.phase = .holding item more) :
    s.Does sink policy (s.work sink policy) := by
  have result : (s.course.attempt sink item).1 = sink.outcome item s.course.world 1 := rfl
  have ends := @Does.ends W sink policy s item more holds
  rw [work, holds]
  dsimp only
  rw [← result] at ends
  cases tried : s.course.attempt sink item with
  | mk outcome course =>
      rw [tried] at ends result
      cases outcome with
      | ok => exact ends (.inl rfl)
      | error e =>
          cases more with
          | zero => exact ends (.inr rfl)
          | succ more =>
              cases passing : e.isRetryable with
              | false =>
                  have final : isFinal (.error e) = true := by simp [isFinal, passing]
                  simpa [Course.proceed, passing] using ends (.inl final)
              | true =>
                  have again : isFinal (sink.outcome item s.course.world 1) = false := by
                    simp [← result, isFinal, passing]
                  have retries := @Does.retries W sink policy s item more holds again
                  rw [tried] at retries
                  simpa [passing] using retries

variable (sink policy) in
theorem does_work (s : Consumer W) : s.Does sink policy (s.work sink policy) := by
  cases phase : s.phase with
  | waiting =>
      unfold work Queue.receive
      rw [phase]
      cases items : s.queue.items with
      | nil =>
          cases finished : s.queue.finished with
          | true => simpa using Does.returns phase items finished
          | false => simpa using Does.waits phase items finished
      | cons x rest =>
          cases configured : sink.isConfigured with
          | true => simpa using Does.takes phase configured items
          | false => simpa [phase] using @Does.discards W sink policy s x rest phase configured items
  | holding item more => exact does_attempt phase
  | returned =>
      rw [work, phase]
      exact .rests phase

/-- The consumer delivers what it has taken from the queue, in the order in which it came there. -/
structure Follows (sink : Sink W) (policy : RetryPolicy) (world : W) (s : Consumer W) : Prop where
  order : s.accepted = s.taken ++ s.queue.items
  course : s.completed sink policy = ({ world } : Course W).run sink policy s.taken
  started : s.course.attempts <+: (s.completed sink policy).attempts
  configured : ∀ item more, s.phase = .holding item more → sink.isConfigured = true
  empty : s.phase = .returned → s.queue.finished = true ∧ s.queue.items = []

namespace Follows

theorem start (sink : Sink W) (policy : RetryPolicy) (queue : Queue Item) (world : W) :
    (Consumer.start queue world).Follows sink policy world where
  order := rfl
  course := rfl
  started := List.prefix_refl _
  configured := nofun
  empty := nofun

theorem offer (h : s.Follows sink policy world) (item : Item) :
    (s.offer item).Follows sink policy world := by
  unfold Consumer.offer Queue.enqueue
  split
  · exact h
  · next producers =>
      have busy : s.phase ≠ .returned := fun done => producers (h.empty done).1
      split
      · next queue enqueued =>
          have queue_eq : queue = { s.queue with items := s.queue.items ++ [item] } := by
            grind
          subst queue_eq
          exact ⟨by simp [h.order], h.course, h.started, h.configured, fun done => absurd done busy⟩
      · next queue enqueued =>
          have kept : queue.items = s.queue.items := by grind
          exact ⟨by rw [h.order, kept], h.course, h.started, h.configured, fun done => absurd done busy⟩

theorem does (h : s.Follows sink policy world) {s' : Consumer W} (step : s.Does sink policy s') :
    s'.Follows sink policy world := by
  obtain ⟨order, course, started, configured, empty⟩ := h
  -- An attempt changes nothing of what the delivery will have come to, so that `course` is about its end.
  cases step with
  | takes waits there items =>
      have completed : s.completed sink policy = s.course := completed_of_waiting waits
      refine ⟨by simp [order, items], ?_, Course.attempts_deliver _ _ _, fun _ _ _ => there, nofun⟩
      rw [Course.run_concat, ← course, completed, Course.take, if_pos there]
      rfl
  | discards waits missing items =>
      rw [completed_of_waiting waits] at course
      refine ⟨by simp [order, items], ?_, ?_, configured, fun done => absurd (waits.symm.trans done) nofun⟩
      · rw [completed_of_waiting (by exact waits), Course.run_concat, course]
      · exact ⟨[], by rw [List.append_nil, completed_of_waiting (by exact waits)]⟩
  | waits => exact ⟨order, course, started, configured, empty⟩
  | returns waits none finished =>
      rw [completed_of_waiting waits] at course
      exact ⟨order, course, List.prefix_refl _, nofun, fun _ => ⟨finished, none⟩⟩
  | ends holds last =>
      rw [completed_of_holding holds] at course
      exact ⟨order, course, List.prefix_refl _, nofun, nofun⟩
  | retries holds again =>
      rw [completed_of_holding holds, Course.proceed_again again] at course
      exact ⟨order, course, Course.attempts_deliver _ _ _, fun _ _ _ => configured _ _ holds, nofun⟩
  | rests => exact ⟨order, course, started, configured, empty⟩

theorem run (h : s.Follows sink policy world) (move : Move) :
    (s.run sink policy move).Follows sink policy world := by
  cases move with
  | offer item => exact h.offer item
  | finish => exact ⟨h.order, h.course, h.started, h.configured, fun done => ⟨rfl, (h.empty done).2⟩⟩
  | work => exact h.does (s.does_work sink policy)

theorem runAll (sink : Sink W) (policy : RetryPolicy) (queue : Queue Item) (world : W)
    (moves : List Move) :
    ((Consumer.start queue world).runAll sink policy moves).Follows sink policy world := by
  induction moves using List.reverseRecOn with
  | nil => exact .start sink policy queue world
  | append_singleton moves move ih =>
      rw [runAll_concat]
      exact ih.run move

/-- Nothing of the course is missing while no item is at hand. -/
theorem course_eq (h : s.Follows sink policy world) (free : ∀ item more, s.phase ≠ .holding item more) :
    s.course = ({ world } : Course W).run sink policy s.taken := by
  rw [← h.course, completed]
  cases phase : s.phase with
  | waiting | returned => rfl
  | holding item more => exact absurd phase (free item more)

end Follows

theorem work_returned_iff : (s.work sink policy).phase = .returned ↔
    s.phase = .returned ∨ s.phase = .waiting ∧ s.queue.finished = true ∧ s.queue.items = [] := by
  have does := s.does_work sink policy
  generalize s.work sink policy = s' at does ⊢
  cases does with
  | takes waits _ items | discards waits _ items => simp [waits, items]
  | waits waits _ producers => simp [waits, producers]
  | returns waits empty finished => simp [waits, empty, finished]
  | ends holds | retries holds => simp [holds]
  | rests done => simp [done]

/-- How often the consumer goes on at most before it returns, if nothing is offered any more. -/
def load (policy : RetryPolicy) (s : Consumer W) : Nat :=
  s.queue.items.length * (policy.attempts + 2) +
    match s.phase with
    | .waiting => 1
    | .holding _ more => more + 2
    | .returned => 0

variable (sink) in
theorem load_work (finished : s.queue.finished = true) (busy : s.phase ≠ .returned) :
    (s.work sink policy).load policy < s.load policy ∧
      (s.work sink policy).queue.finished = true := by
  have does := s.does_work sink policy
  generalize s.work sink policy = s' at does ⊢
  cases does with
  | takes waits _ items | discards waits _ items =>
      refine ⟨?_, finished⟩
      simp only [load, waits, items, List.length_cons, Nat.succ_mul]
      omega
  | waits _ _ producers => simp [finished] at producers
  | returns waits empty => simp [load, waits, empty, finished]
  | ends holds | retries holds => simp [load, holds, finished]
  | rests done => exact absurd done busy

theorem returns_of_finished (finished : s.queue.finished = true) :
    ∃ n, (s.runAll sink policy (List.replicate n .work)).phase = .returned := by
  induction load : s.load policy using Nat.strong_induction_on generalizing s with
  | _ most ih =>
      by_cases done : s.phase = .returned
      · exact ⟨0, done⟩
      · obtain ⟨less, still⟩ := load_work sink finished done
        obtain ⟨n, returned⟩ := ih _ (load ▸ less) still rfl
        exact ⟨n + 1, returned⟩

theorem time_of_deliveries {time time' : Nat} {world world' : W} {ds : List (Delivery W)}
    (h : Deliveries sink policy time world ds time' world') :
    time' = time + (ds.map fun d => (d.count - 1) * policy.pause).sum := by
  induction h with
  | none => rfl
  | next _ _ ih => rw [ih, List.map_cons, List.sum_cons, ← Nat.add_assoc, Delivery.ended]

/-- Items are taken in the order in which they have come. A sink with credentials gets each of them in a
row of attempts that ends with the first one that succeeds, fails for good or is the last allowed; between
two attempts at one item there is a wait, and nowhere else. A sink without credentials gets none, and that
is warned of once. The consumer is done once there are neither producers nor items any more, and no sooner;
without producers it gets there. -/
theorem items_are_delivered_in_order (sink : Sink W) (policy : RetryPolicy) (queue : Queue Item)
    (world : W) (moves : List Move) :
    let s := (start queue world).runAll sink policy moves
    s.accepted = s.taken ++ s.queue.items ∧
      (sink.isConfigured = true → ∃ ds time left, Deliveries sink policy 0 world ds time left ∧
        ds.map (·.item) = s.taken ∧ time = (ds.map fun d => (d.count - 1) * policy.pause).sum ∧
        s.course.attempts <+: ds.flatMap (·.attempts sink policy) ∧
        ((∀ item more, s.phase ≠ .holding item more) → s.course = {
          world := left
          now := time
          attempts := ds.flatMap (·.attempts sink policy)
          warnings := ds.flatMap (·.warnings sink) })) ∧
      (sink.isConfigured = false →
        s.course = { world, warnings := if s.taken = [] then [] else [.unconfigured] }) ∧
      (s.phase = .returned → s.queue.finished = true ∧ s.queue.items = [] ∧
        s.course = ({ world } : Course W).run sink policy s.accepted) ∧
      ((s.run sink policy .work).phase = .returned ↔ s.phase = .returned ∨
        s.phase = .waiting ∧ s.queue.finished = true ∧ s.queue.items = []) ∧
      (s.queue.finished = true →
        ∃ n, (s.runAll sink policy (List.replicate n .work)).phase = .returned) := by
  intro s
  have follows : s.Follows sink policy world := .runAll sink policy queue world moves
  refine ⟨follows.order, ?_, ?_, ?_, work_returned_iff, returns_of_finished⟩
  · intro there
    obtain ⟨ds, items, deliveries, attempts, warnings⟩ :=
      Course.run_configured policy there s.taken { world }
    refine ⟨ds, _, _, deliveries, items, ?_, ?_, fun free => ?_⟩
    · simpa using time_of_deliveries deliveries
    · have started := follows.started
      rwa [follows.course, attempts] at started
    · rw [follows.course_eq free]
      exact congrArg₂ (Course.mk _ _) attempts warnings
  · intro missing
    have free (item : Item) (more : Nat) : s.phase ≠ .holding item more := fun holds =>
      Bool.false_ne_true (missing.symm.trans (follows.configured item more holds))
    rw [follows.course_eq free, Course.run_unconfigured missing]
  · intro done
    obtain ⟨finished, empty⟩ := follows.empty done
    refine ⟨finished, empty, ?_⟩
    rw [follows.course_eq (by simp [done]), follows.order, empty, List.append_nil]

end Consumer

def stumbling : Sink Nat where
  name := "stumbling"
  isConfigured := true
  deliver _ failures := if failures = 0 then (.error (.transport "reset"), 1) else (.ok (), failures)

/-- Two items that are left when the producers have gone. -/
def leftover : Queue Item where
  capacity := 2
  items := [⟨.debug, "a", none, 0⟩, ⟨.debug, "b", none, 0⟩]
  finished := true

/-- The first of them is delivered at the second attempt. -/
def served : Consumer Nat :=
  (Consumer.start leftover 0).runAll stumbling ⟨2, 250⟩ (List.replicate 6 .work)

theorem leftover_delivered : served.phase = .returned ∧ served.accepted = served.taken ∧
    ∃ ds : List (Delivery Nat), ds.map (·.item) = served.taken ∧
      served.course.attempts = ds.flatMap (·.attempts stumbling ⟨2, 250⟩) := by
  have returned : served.phase = .returned := by rfl
  obtain ⟨order, configured, -, done, -⟩ := Consumer.items_are_delivered_in_order stumbling ⟨2, 250⟩
    leftover 0 (List.replicate 6 .work)
  obtain ⟨ds, time, left, -, items, -, -, settled⟩ := configured rfl
  have free (item : Item) (more : Nat) : served.phase ≠ .holding item more := by
    rw [returned]
    nofun
  have empty : served.queue.items = [] := (done returned).2.1
  refine ⟨returned, ?_, ds, items, congrArg Course.attempts (settled free)⟩
  exact order.trans (by rw [← served, empty, List.append_nil])

/-- A wait that is longer than the longest one is cut. -/
theorem long_backoff_is_cut : ¬∀ (sink : Sink Nat) (policy : RetryPolicy) (item : Item) (world count : Nat),
    sink.isConfigured = true → sink.EndsWith item world policy.most count →
      (({ world } : Course Nat).run sink policy [item]).now = (count - 1) * policy.backoff := by
  intro waits
  let policy : RetryPolicy := ⟨2, Clock.longestWait + 1⟩
  let item : Item := ⟨.debug, "a", none, 0⟩
  have ends : stumbling.EndsWith item 0 policy.most 2 :=
    @Sink.EndsWith.succ Nat stumbling item 0 1 1 rfl (Sink.endsWith_one (.inr rfl)) Nat.one_pos
  have waited := waits stumbling policy item 0 2 rfl ends
  exact absurd waited (by decide)

end DoorControl.Outbox
