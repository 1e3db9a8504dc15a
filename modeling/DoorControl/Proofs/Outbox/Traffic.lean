/- A queue that several producers and its consumer use at once. A producer whose item does not fit gives way
to the others before it counts that, and nowhere else. -/
import DoorControl.Outbox.Outbound
import Mathlib.Data.List.Basic

namespace DoorControl.Outbox

/-- How the attempt to put an item into a queue goes. -/
inductive Put
  | taken
  | full
  /-- The consumer is gone. -/
  | gone
  deriving DecidableEq

def Put.answer : Put → Enqueued
  | .taken => .accepted
  | .full | .gone => .dropped

namespace Queue

variable {α : Type}

def put (x : α) (q : Queue α) : Put × Queue α :=
  if q.closed then (.gone, q)
  else if q.items.length < q.capacity then (.taken, { q with items := q.items ++ [x] })
  else (.full, q)

def count (q : Queue α) : Queue α := { q with overflows := q.overflows + 1 }

end Queue

/-- A producer, told by its number, attempts to put an item in, or counts one that did not fit; the consumer
takes an item, with or without waiting for it, or goes; the last producer goes. -/
inductive Step (α : Type)
  | put (producer : Nat) (x : α)
  | count (producer : Nat)
  | next
  | receive
  | close
  | finish

inductive Event (α : Type)
  | offered (producer : Nat) (x : α) (answer : Enqueued)
  | counted (producer : Nat)
  | handed (x : α)
  /-- The consumer goes, and leaves these items behind. -/
  | parted (left : List α)
  deriving DecidableEq

/-- A queue, and the producers whose items did not fit and who have not counted that yet. -/
structure Shared (α : Type) where
  queue : Queue α
  uncounted : List Nat := []
  deriving DecidableEq

namespace Shared

variable {α : Type}

/-- A step, and what can be seen of it. Who has nothing to count counts nothing. -/
def run (s : Shared α) : Step α → List (Event α) × Shared α
  | .put producer x =>
      let (put, queue) := s.queue.put x
      let uncounted := if put = .full then producer :: s.uncounted else s.uncounted
      ([.offered producer x put.answer], { queue, uncounted })
  | .count producer =>
      if producer ∈ s.uncounted then
        ([.counted producer], { queue := s.queue.count, uncounted := s.uncounted.erase producer })
      else ([], s)
  | .next =>
      let (x, queue) := s.queue.next?
      (x.toList.map .handed, { s with queue })
  | .receive => match s.queue.receive with
      | (.item x, queue) => ([.handed x], { s with queue })
      | (.wait, queue) | (.ended, queue) => ([], { s with queue })
  | .close => ([.parted s.queue.items], { s with queue := s.queue.close })
  | .finish => ([], { s with queue := s.queue.finish })

def runAll (s : Shared α) : List (Step α) → List (Event α) × Shared α
  | [] => ([], s)
  | step :: steps =>
      let (events, s) := s.run step
      let (later, s) := s.runAll steps
      (events ++ later, s)

theorem runAll_concat (s : Shared α) (steps : List (Step α)) (step : Step α) :
    s.runAll (steps ++ [step]) =
      ((s.runAll steps).1 ++ ((s.runAll steps).2.run step).1, ((s.runAll steps).2.run step).2) := by
  induction steps generalizing s with
  | nil => simp [runAll]
  | cons first steps ih => simp [runAll, ih]

/-- What a step can do. -/
inductive Does (s : Shared α) : List (Event α) × Shared α → Prop
  | nothing : Does s ([], s)
  | takes (producer : Nat) (x : α) (attended : s.queue.closed = false)
      (room : s.queue.items.length < s.queue.capacity) :
      Does s ([.offered producer x .accepted], { s with queue.items := s.queue.items ++ [x] })
  | refuses (producer : Nat) (x : α) (attended : s.queue.closed = false)
      (full : s.queue.capacity ≤ s.queue.items.length) :
      Does s ([.offered producer x .dropped], { s with uncounted := producer :: s.uncounted })
  | loses (producer : Nat) (x : α) (closed : s.queue.closed = true) :
      Does s ([.offered producer x .dropped], s)
  | counts (producer : Nat) (waits : producer ∈ s.uncounted) :
      Does s ([.counted producer],
        { queue := s.queue.count, uncounted := s.uncounted.erase producer })
  | hands (x : α) (rest : List α) (items : s.queue.items = x :: rest) :
      Does s ([.handed x], { s with queue.items := rest })
  | parts : Does s ([.parted s.queue.items], { s with queue := s.queue.close })
  | finishes : Does s ([], { s with queue := s.queue.finish })

theorem does_put (s : Shared α) (producer : Nat) (x : α) : Does s (s.run (.put producer x)) := by
  cases closed : s.queue.closed with
  | true => simpa [run, Queue.put, Put.answer, closed] using Does.loses producer x closed
  | false =>
      by_cases room : s.queue.items.length < s.queue.capacity
      · simpa [run, Queue.put, Put.answer, closed, room] using Does.takes producer x closed room
      · have full := Nat.le_of_not_lt room
        simpa [run, Queue.put, Put.answer, closed, room] using Does.refuses producer x closed full

theorem does_run (s : Shared α) (step : Step α) : Does s (s.run step) := by
  cases step with
  | put producer x => exact s.does_put producer x
  | count producer =>
      by_cases waits : producer ∈ s.uncounted
      · simpa only [run, if_pos waits] using Does.counts producer waits
      · simpa only [run, if_neg waits] using Does.nothing
  | next =>
      cases items : s.queue.items with
      | nil => simpa [run, Queue.next?, items] using Does.nothing
      | cons x rest => simpa [run, Queue.next?, items] using Does.hands x rest items
  | receive =>
      cases items : s.queue.items with
      | nil =>
          cases finished : s.queue.finished <;>
            simpa [run, Queue.receive, items, finished] using Does.nothing
      | cons x rest => simpa [run, Queue.receive, items] using Does.hands x rest items
  | close => exact .parts
  | finish => exact .finishes

/-- A producer that nobody comes between makes the call as the queue has it. -/
theorem runAll_enqueue (s : Shared α) (x : α) {producer : Nat} (idle : producer ∉ s.uncounted) :
    (s.run (.put producer x)).1 = [.offered producer x (s.queue.enqueue x).1] ∧
      (s.runAll [.put producer x, .count producer]).2 =
        { s with queue := (s.queue.enqueue x).2 } := by
  unfold runAll Queue.enqueue
  cases closed : s.queue.closed with
  | true => simp [run, runAll, Queue.put, closed, Put.answer, idle]
  | false =>
      by_cases room : s.queue.items.length < s.queue.capacity
      · simp [run, runAll, Queue.put, closed, room, Put.answer, idle]
      · simp [run, runAll, Queue.put, closed, room, Put.answer, Queue.count]

end Shared

/-- A log as producers and its consumer use it, with all that has been seen of it. -/
structure Log where
  shared : Shared Item
  seen : List (Event Item) := []

def Log.run (l : Log) (step : Step Item) : Log where
  shared := (l.shared.run step).2
  seen := l.seen ++ (l.shared.run step).1

/-- The two logs. -/
structure Logs where
  debug : Log
  audit : Log

inductive LogStep
  | debug (step : Step Item)
  | audit (step : Step Item)

/-- What a producer that nobody comes between does to the logs with an item. -/
def LogStep.offer (producer : Nat) (item : Item) : List LogStep :=
  match item.kind with
  | .debug => [.debug (.put producer item), .debug (.count producer)]
  | .audit | .unknownCard => [.audit (.put producer item), .audit (.count producer)]
  | .chat _ | .membership => []

namespace Logs

def of (o : Outbound) : Logs where
  debug := { shared := { queue := o.debug } }
  audit := { shared := { queue := o.audit } }

/-- What is sent out, with the queues of these logs. -/
def outbound (l : Logs) (o : Outbound) : Outbound :=
  { o with debug := l.debug.shared.queue, audit := l.audit.shared.queue }

def run (l : Logs) : LogStep → Logs
  | .debug step => { l with debug := l.debug.run step }
  | .audit step => { l with audit := l.audit.run step }

def runAll (l : Logs) (steps : List LogStep) : Logs := steps.foldl run l

/-- The producer has nothing to count in either log. -/
def Idle (l : Logs) (producer : Nat) : Prop :=
  producer ∉ l.debug.shared.uncounted ∧ producer ∉ l.audit.shared.uncounted

/-- A producer that nobody comes between offers an item as the door does. -/
theorem runAll_offer (l : Logs) (o : Outbound) {producer : Nat} (idle : l.Idle producer) (item : Item) :
    (l.runAll (LogStep.offer producer item)).outbound ((l.outbound o).offer item).2 =
      ((l.outbound o).offer item).2 := by
  have alone (s : Shared Item) (idle : producer ∉ s.uncounted) :
      (s.runAll [.put producer item, .count producer]).2 = { s with queue := (s.queue.enqueue item).2 } :=
    (Shared.runAll_enqueue s item idle).2
  simp only [Shared.runAll] at alone
  obtain ⟨debug, audit⟩ := idle
  cases kind : item.kind <;>
    simp [LogStep.offer, Outbound.offer, kind, runAll, run, Log.run, outbound, alone, debug, audit]

end Logs

end DoorControl.Outbox
