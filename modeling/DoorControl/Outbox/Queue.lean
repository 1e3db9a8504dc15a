/- Bounded queues between producers that never wait and one consumer. What does not fit is lost, and
counted. -/

namespace DoorControl.Outbox

inductive Enqueued
  | accepted
  | dropped
  deriving DecidableEq, Repr

/-- What a consumer that asks for the next item meets. -/
inductive Received (α : Type)
  | item (x : α)
  /-- Nothing so far. -/
  | wait
  /-- Nothing any more. -/
  | ended
  deriving DecidableEq, Repr

/-- The largest capacity. -/
def maxCapacity : Nat := 2305843009213693951

structure Queue (α : Type) where
  capacity : Nat
  items : List α := []
  /-- How many items did not fit so far. -/
  overflows : Nat := 0
  /-- Whether the consumer is gone. -/
  closed : Bool := false
  /-- Whether all producers are gone. -/
  finished : Bool := false
  deriving DecidableEq, Repr

namespace Queue

variable {α : Type}

/-- A queue has room for one item at least. -/
def create? (capacity : Nat) : Option (Queue α) :=
  if capacity = 0 ∨ maxCapacity < capacity then none else some { capacity }

/-- Offers an item. An item for a consumer that is gone is lost without being counted. -/
def enqueue (x : α) (q : Queue α) : Enqueued × Queue α :=
  if q.closed then (.dropped, q)
  else if q.items.length < q.capacity then (.accepted, { q with items := q.items ++ [x] })
  else (.dropped, { q with overflows := q.overflows + 1 })

/-- Takes the oldest item. -/
def next? (q : Queue α) : Option α × Queue α :=
  match q.items with
  | [] => (none, q)
  | x :: rest => (some x, { q with items := rest })

/-- Takes the oldest item, and tells whether there may be another one without it. -/
def receive (q : Queue α) : Received α × Queue α :=
  match q.items with
  | [] => (if q.finished then .ended else .wait, q)
  | x :: rest => (.item x, { q with items := rest })

/-- Takes all items. -/
def drain (q : Queue α) : List α × Queue α := (q.items, { q with items := [] })

/-- The consumer goes, and with it what it has not taken. -/
def close (q : Queue α) : Queue α := { q with items := [], closed := true }

/-- The last producer goes. -/
def finish (q : Queue α) : Queue α := { q with finished := true }

end Queue

end DoorControl.Outbox
