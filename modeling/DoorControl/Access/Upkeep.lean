/- Background tasks that refresh a cache, on a clock that one foreground task moves. They take turns:
a background task runs only while the foreground waits. -/
import DoorControl.Access.Cache
import DoorControl.Clock

namespace DoorControl.Access

structure Upkeep (W : Type) where
  now : Nat := 0
  cache : Cache
  world : W
  /-- When each background task goes on, the latest started first. -/
  tasks : List Nat := []
  /-- Whether the latest started task can be stopped. The earlier ones cannot. -/
  held : Bool := false

namespace Upkeep

variable {W : Type}

/-- One round of a task at the present time, and when its next one is: a refresh if there are
credentials, then a wait. A refresh that fails keeps what is remembered. -/
def round (source : Source W) (u : Upkeep W) : Nat × Upkeep W :=
  if source.isConfigured u.world then
    let (_, cache, world) := u.cache.refresh source u.now u.world
    (Clock.after u.now u.cache.timing.refreshInterval, { u with cache, world })
  else (Clock.after u.now u.cache.timing.unconfiguredRetry, u)

/-- A round of each task whose time has come by `due`, the one started first before the others. -/
def roundsOf (source : Source W) (due : Nat) : List Nat → Upkeep W → List Nat × Upkeep W
  | [], u => ([], u)
  | wake :: tasks, u =>
      let (tasks, u) := roundsOf source due tasks u
      let (wake, u) := if wake ≤ due then u.round source else (wake, u)
      (wake :: tasks, u)

/-- Lets the tasks run whose time has come by `due`. -/
def yield (source : Source W) (due : Nat) (u : Upkeep W) : Upkeep W :=
  let (tasks, u) := roundsOf source due u.tasks u
  { u with tasks }

/-- The rounds that begin before `limit`, at no more than `times` different times. -/
def roundsBefore (source : Source W) (limit : Nat) : (times : Nat) → Upkeep W → Upkeep W
  | 0, u => u
  | times + 1, u => match (u.tasks.filter (· < limit)).min? with
      | none => u
      | some wake =>
          let u := { u with now := max u.now wake }
          roundsBefore source limit times (u.yield source u.now)

/-- The foreground waits. When it and a task are due at one time, the foreground goes on first. -/
def sleep (source : Source W) (ms : Nat) (u : Upkeep W) : Upkeep W :=
  if ms = 0 then u
  else
    let limit := Clock.after u.now ms
    { roundsBefore source limit (limit - u.now + 1) u with now := limit }

/-- The clock jumps, and then the tasks run whose time had come before. -/
def advance (source : Source W) (ms : Nat) (u : Upkeep W) : Upkeep W :=
  { u with now := u.now + ms }.yield source u.now

def start (u : Upkeep W) : Upkeep W := { u with tasks := u.now :: u.tasks, held := true }

/-- Stops the latest started task, once. -/
def stop (u : Upkeep W) : Upkeep W :=
  if u.held then { u with tasks := u.tasks.tail, held := false } else u

end Upkeep

end DoorControl.Access
