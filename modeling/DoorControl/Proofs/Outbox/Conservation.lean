/- No item is lost unseen: what a queue accepted was handed out, or was left behind, or is still there; what
it dropped while it had a consumer has been counted, or is about to be. -/
import DoorControl.Proofs.Outbox.Traffic
import Mathlib.Data.List.Induction

namespace DoorControl.Outbox

namespace Event

variable {α : Type}

def accepted : Event α → List α
  | .offered _ x .accepted => [x]
  | _ => []

def delivered : Event α → List α
  | .handed x => [x]
  | _ => []

def left : Event α → List α
  | .parted items => items
  | _ => []

def isParting : Event α → Bool
  | .parted _ => true
  | _ => false

def isDrop : Event α → Bool
  | .offered _ _ .dropped => true
  | _ => false

def isCount : Event α → Bool
  | .counted _ => true
  | _ => false

end Event

section Accounts

variable {α : Type}

/-- Whether the consumer is still there. -/
def attended (events : List (Event α)) : Bool := !events.any Event.isParting

/-- How many items were dropped while the consumer was there. -/
def drops : List (Event α) → Nat
  | [] => 0
  | e :: events => if e.isParting then 0 else (if e.isDrop then 1 else 0) + drops events

theorem attended_append (events later : List (Event α)) :
    attended (events ++ later) = (attended events && attended later) := by
  simp [attended]

theorem drops_append (events later : List (Event α)) :
    drops (events ++ later) = drops events + if attended events then drops later else 0 := by
  induction events with
  | nil => simp [drops, attended]
  | cons e events ih =>
      cases parts : e.isParting with
      | true => simp [drops, attended, parts]
      | false =>
          have same : attended (e :: events) = attended events := by simp [attended, parts]
          simp only [List.cons_append, drops, parts, Bool.false_eq_true, if_false, ih, same]
          omega

/-- A queue without a consumer holds nothing. -/
inductive Presence (events : List (Event α)) (q : Queue α) : Prop
  | there (attended : attended events = true) (closed : q.closed = false)
  | gone (attended : attended events = false) (closed : q.closed = true) (empty : q.items = [])

/-- A queue of capacity `n` holds what is left of the items seen to have been accepted. -/
structure Filled (n : Nat) (events : List (Event α)) (q : Queue α) : Prop where
  capacity : q.capacity = n
  room : q.items.length ≤ n
  items : events.flatMap Event.accepted =
    events.flatMap Event.delivered ++ events.flatMap Event.left ++ q.items
  presence : Presence events q

/-- The drops seen so far have been counted, or their producers are about to count them. -/
structure Tallied (events : List (Event α)) (s : Shared α) : Prop where
  counted : s.queue.overflows = events.countP Event.isCount
  underway : drops events = s.queue.overflows + s.uncounted.length

structure Balanced (n : Nat) (events : List (Event α)) (s : Shared α) : Prop where
  filled : Filled n events s.queue
  tallied : Tallied events s

variable {n : Nat} {events later : List (Event α)} {q r : Queue α} {s t : Shared α}

theorem Presence.attended_iff (presence : Presence events q) :
    attended events = true ↔ q.closed = false := by
  cases presence <;> simp_all

theorem left_eq_nil_of_attended {events : List (Event α)} (there : attended events = true) :
    events.flatMap Event.left = [] := by
  refine List.flatMap_eq_nil_iff.mpr fun e mem => ?_
  have stays : e.isParting = false := by simp [attended] at there; exact there e mem
  cases e <;> simp_all [Event.isParting, Event.left]

theorem Presence.append (presence : Presence events q)
    (stays : attended later = true) (same : r.closed = q.closed)
    (empty : q.closed = true → q.items = [] → r.items = []) :
    Presence (events ++ later) r := by
  have still : attended (events ++ later) = attended events := by simp [attended_append, stays]
  cases presence with
  | there attended closed => exact .there (still.trans attended) (same.trans closed)
  | gone attended closed items =>
      exact .gone (still.trans attended) (same.trans closed) (empty closed items)

/-- What moves no item leaves the queue as full as it was. -/
theorem Filled.append (filled : Filled n events q) (accepted : later.flatMap Event.accepted = [])
    (delivered : later.flatMap Event.delivered = []) (stays : attended later = true)
    (capacity : r.capacity = q.capacity) (items : r.items = q.items) (closed : r.closed = q.closed) :
    Filled n (events ++ later) r where
  capacity := capacity.trans filled.capacity
  room := items ▸ filled.room
  items := by simp [filled.items, accepted, delivered, left_eq_nil_of_attended stays, items]
  presence := filled.presence.append stays closed fun _ empty => items.trans empty

theorem Filled.take (filled : Filled n events q) (producer : Nat) (x : α) (there : q.closed = false)
    (free : q.items.length < q.capacity) :
    Filled n (events ++ [.offered producer x .accepted]) { q with items := q.items ++ [x] } where
  capacity := filled.capacity
  room := by simpa [filled.capacity] using Nat.succ_le_of_lt free
  items := by simp [filled.items, Event.accepted, Event.delivered, Event.left]
  presence := filled.presence.append rfl rfl (by simp [there])

theorem Filled.hand (filled : Filled n events q) {x : α} {rest : List α}
    (first : q.items = x :: rest) : Filled n (events ++ [.handed x]) { q with items := rest } where
  capacity := filled.capacity
  room := by
    have room := filled.room
    simp only [first, List.length_cons] at room
    exact Nat.le_of_succ_le room
  items := by
    -- The consumer has left nothing as long as there is an item to take.
    have kept : events.flatMap Event.left = [] := by
      cases filled.presence with
      | there attended closed => exact left_eq_nil_of_attended attended
      | gone attended closed empty => simp [first] at empty
    simp [filled.items, kept, first, Event.accepted, Event.delivered, Event.left]
  presence := filled.presence.append rfl rfl (by simp [first])

theorem Filled.part (filled : Filled n events q) :
    Filled n (events ++ [.parted q.items]) q.close where
  capacity := filled.capacity
  room := Nat.zero_le n
  items := by simp [filled.items, Event.accepted, Event.delivered, Event.left, Queue.close]
  presence := .gone (by simp [attended, Event.isParting]) rfl rfl

/-- What neither drops nor counts an item for the consumer leaves the tally as it was. -/
theorem Tallied.append (tallied : Tallied events s) (counts : later.countP Event.isCount = 0)
    (none : attended events = true → drops later = 0) (overflows : t.queue.overflows = s.queue.overflows)
    (uncounted : t.uncounted = s.uncounted) : Tallied (events ++ later) t where
  counted := by simpa [overflows, counts] using tallied.counted
  underway := by
    have same : drops (events ++ later) = drops events := by
      rw [drops_append]
      split
      · next attended => simp [none attended]
      · rfl
    rw [same, overflows, uncounted]
    exact tallied.underway

theorem Tallied.refuse (tallied : Tallied events s) (there : attended events = true) (producer : Nat)
    (x : α) : Tallied (events ++ [.offered producer x .dropped])
      { s with uncounted := producer :: s.uncounted } where
  counted := by simp [tallied.counted, Event.isCount]
  underway := by
    simp [drops_append, there, tallied.underway, drops, Event.isParting, Event.isDrop]
    omega

theorem Tallied.count (tallied : Tallied events s) {producer : Nat} (waits : producer ∈ s.uncounted) :
    Tallied (events ++ [.counted producer])
      { queue := s.queue.count, uncounted := s.uncounted.erase producer } where
  counted := by simp [tallied.counted, Event.isCount, Queue.count]
  underway := by
    have fewer := List.length_erase_of_mem waits
    have some := List.length_pos_of_mem waits
    simp [drops_append, tallied.underway, drops, Event.isDrop, Queue.count]
    omega

theorem Balanced.does {result : List (Event α) × Shared α} (balanced : Balanced n events s)
    (step : s.Does result) : Balanced n (events ++ result.1) result.2 := by
  obtain ⟨filled, tallied⟩ := balanced
  have attended := filled.presence.attended_iff
  cases step with
  | nothing => simpa using ⟨filled, tallied⟩
  | takes producer x there free =>
      exact ⟨filled.take producer x there free, tallied.append rfl (fun _ => rfl) rfl rfl⟩
  | refuses producer x there full =>
      exact ⟨filled.append rfl rfl rfl rfl rfl rfl, tallied.refuse (attended.mpr there) producer x⟩
  | loses producer x closed =>
      have unattended : ¬Outbox.attended events = true := by simp [attended, closed]
      refine ⟨filled.append rfl rfl rfl rfl rfl rfl, tallied.append rfl ?_ rfl rfl⟩
      exact fun there => absurd there unattended
  | counts producer waits =>
      exact ⟨filled.append rfl rfl rfl rfl rfl rfl, tallied.count waits⟩
  | hands x rest first =>
      exact ⟨filled.hand first, tallied.append rfl (fun _ => rfl) rfl rfl⟩
  | parts => exact ⟨filled.part, tallied.append rfl (fun _ => rfl) rfl rfl⟩
  | finishes =>
      exact ⟨filled.append rfl rfl rfl rfl rfl rfl, tallied.append rfl (fun _ => rfl) rfl rfl⟩

theorem Balanced.initial (n : Nat) : Balanced n ([] : List (Event α)) { queue := { capacity := n } } where
  filled := ⟨rfl, Nat.zero_le n, rfl, .there rfl rfl⟩
  tallied := ⟨rfl, rfl⟩

theorem balanced_runAll (n : Nat) (steps : List (Step α)) :
    Balanced n (Shared.runAll { queue := { capacity := n } } steps).1
      (Shared.runAll { queue := { capacity := n } } steps).2 := by
  induction steps using List.reverseRecOn with
  | nil => exact .initial n
  | append_singleton steps step ih =>
      rw [Shared.runAll_concat]
      exact ih.does (Shared.does_run _ step)

theorem Filled.answer (filled : Filled n events s.queue) (producer : Nat) (x : α) :
    (s.run (.put producer x)).1 = [.offered producer x
      (if attended events ∧ s.queue.items.length < n then .accepted else .dropped)] := by
  have there := filled.presence.attended_iff
  cases closed : s.queue.closed with
  | true => simp [Shared.run, Queue.put, Put.answer, there, closed]
  | false =>
      by_cases room : s.queue.items.length < n <;>
        simp [Shared.run, Queue.put, Put.answer, filled.capacity, there, closed, room]

theorem Queue.eq_of_create? (created : create? n = some q) : q = { capacity := n } := by
  unfold create? at created
  split at created
  · nomatch created
  · exact (Option.some.inj created).symm

end Accounts

namespace Logs

theorem balanced_runAll {d a : Nat} {o : Outbound} (debug : o.debug = { capacity := d })
    (audit : o.audit = { capacity := a }) (steps : List LogStep) :
    Balanced d ((of o).runAll steps).debug.seen ((of o).runAll steps).debug.shared ∧
      Balanced a ((of o).runAll steps).audit.seen ((of o).runAll steps).audit.shared := by
  induction steps using List.reverseRecOn with
  | nil =>
      simp only [runAll, List.foldl_nil, of, debug, audit]
      exact ⟨.initial d, .initial a⟩
  | append_singleton steps step ih =>
      simp only [runAll, List.foldl_append, List.foldl_cons, List.foldl_nil]
      cases step with
      | debug step => exact ⟨ih.1.does (Shared.does_run _ step), ih.2⟩
      | audit step => exact ⟨ih.1, ih.2.does (Shared.does_run _ step)⟩

end Logs

theorem Outbound.logs_of_create? {d a c m : Nat} {o : Outbound}
    (created : create? d a c m = some o) :
    o.debug = { capacity := d } ∧ o.audit = { capacity := a } := by
  simp only [create?, Option.bind_eq_bind, Option.bind_eq_some_iff] at created
  obtain ⟨debug, debugCreated, audit, auditCreated, chat, -, membership, -, made⟩ := created
  cases made
  exact ⟨Queue.eq_of_create? debugCreated, Queue.eq_of_create? auditCreated⟩

namespace Shared

/-- However its producers and its consumer take turns, a queue never holds more than it has room for, and what it
has accepted is what was handed out, left behind by the consumer and still there, in order. It accepts an item
exactly if the consumer is there and has room for it. Each drop while the consumer was there has been counted or
is about to be; so the two logs count exactly what they have lost. A producer that nobody comes between makes the
calls of the queue and of the logs. -/
theorem accepted_items_are_conserved {α : Type} {n : Nat} {q : Queue α}
    (created : Queue.create? n = some q) {steps : List (Step α)} {events : List (Event α)}
    {s : Shared α} (ran : runAll { queue := q } steps = (events, s))
    {d a c m : Nat} {o : Outbound} (opened : Outbound.create? d a c m = some o)
    {logSteps : List LogStep} {l : Logs} (logged : (Logs.of o).runAll logSteps = l) :
    s.queue.items.length ≤ n ∧
      events.flatMap Event.accepted =
        events.flatMap Event.delivered ++ events.flatMap Event.left ++ s.queue.items ∧
      (attended events = true → events.flatMap Event.left = []) ∧
      (attended events = false → s.queue.items = []) ∧
      (∀ producer x, (s.run (.put producer x)).1 = [.offered producer x
        (if attended events ∧ s.queue.items.length < n then .accepted else .dropped)]) ∧
      s.queue.overflows = events.countP Event.isCount ∧
      drops events = s.queue.overflows + s.uncounted.length ∧
      (∀ producer x, producer ∉ s.uncounted →
        (s.run (.put producer x)).1 = [.offered producer x (s.queue.enqueue x).1] ∧
          (s.runAll [.put producer x, .count producer]).2 = { s with queue := (s.queue.enqueue x).2 }) ∧
      drops l.debug.seen + drops l.audit.seen = (l.outbound o).overflows +
        l.debug.shared.uncounted.length + l.audit.shared.uncounted.length ∧
      ∀ producer item, l.Idle producer →
        (l.runAll (LogStep.offer producer item)).outbound ((l.outbound o).offer item).2 =
          ((l.outbound o).offer item).2 := by
  obtain rfl := Queue.eq_of_create? created
  have balanced : Balanced n events s := by
    simpa [ran] using balanced_runAll n steps
  obtain ⟨debug, audit⟩ := Outbound.logs_of_create? opened
  have logs := Logs.balanced_runAll debug audit logSteps
  rw [logged] at logs
  refine ⟨balanced.filled.room, balanced.filled.items, left_eq_nil_of_attended, ?_,
    balanced.filled.answer, balanced.tallied.counted, balanced.tallied.underway,
    fun producer x idle => s.runAll_enqueue x idle, ?_, fun producer item idle => l.runAll_offer o idle item⟩
  · intro gone
    cases balanced.filled.presence with
    | there attended closed => simp [attended] at gone
    | gone attended closed empty => exact empty
  · simp only [logs.1.tallied.underway, logs.2.tallied.underway, Outbound.overflows, Logs.outbound]
    omega

/-- Two producers, and a consumer that goes while one of them has something to count. -/
def rush : List (Step Nat) :=
  [.put 0 10, .put 1 11, .next, .put 0 12, .put 1 13, .count 1, .close, .put 0 14]

def rushEvents : List (Event Nat) :=
  [.offered 0 10 .accepted, .offered 1 11 .dropped, .handed 10, .offered 0 12 .accepted,
    .offered 1 13 .dropped, .counted 1, .parted [12], .offered 0 14 .dropped]

/-- Without a consumer, and with one drop still to be counted. -/
def rushed : Shared Nat := ⟨{ capacity := 1, overflows := 1, closed := true }, [1]⟩

/-- Two lines for a log that has room for one. -/
def lines : List LogStep :=
  LogStep.offer 0 (Outbound.logItem "State Locked -> Open" 0) ++
    LogStep.offer 1 (Outbound.logItem "State Open -> Locked" 1)

theorem rush_conserved :
    runAll { queue := { capacity := 1 } } rush = (rushEvents, rushed) ∧
      rushEvents.flatMap Event.accepted = [10] ++ [12] ++ [] ∧ drops rushEvents = 1 + 1 ∧
      (rushed.runAll [.put 0 15, .count 0]).2 = { rushed with queue := (rushed.queue.enqueue 15).2 } ∧
      ∃ o, Outbound.create? 1 1 1 1 = some o ∧
        1 = (((Logs.of o).runAll lines).outbound o).overflows := by
  have created : Queue.create? 1 = some ({ capacity := 1 } : Queue Nat) := by decide
  have ran : runAll { queue := { capacity := 1 } } rush = (rushEvents, rushed) := by decide
  let o : Outbound :=
    ⟨{ capacity := 1 }, { capacity := 1 }, { capacity := 1 }, { capacity := 1 }, none, none⟩
  have opened : Outbound.create? 1 1 1 1 = some o := by decide
  have logged : (Logs.of o).runAll lines = (Logs.of o).runAll lines := rfl
  obtain ⟨-, items, -, -, -, -, underway, calls, lost, -⟩ :=
    accepted_items_are_conserved created ran opened logged
  exact ⟨ran, items, underway, (calls 0 15 (by decide)).2, o, opened, lost⟩

end Shared

end DoorControl.Outbox
