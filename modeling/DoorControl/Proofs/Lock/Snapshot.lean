/- The status of a lock session after a state change, whatever order the sections of its threads come in:
which replies can change it again. -/
import DoorControl.Proofs.Lock.Threads
import Mathlib.Data.Nat.Init

namespace DoorControl.Lock

open Serial
open Text (Utf8.encode)

/-- Steps in any order, from a new session with a device on. -/
structure Schedule (d : Device) where
  timing : Timing := {}
  steps : Nat → Step

namespace Schedule

variable {d : Device}

/-- The steps of a list; no thread goes on after them. -/
def ofList (d : Device) (steps : List Step) : Schedule d where
  steps n := steps.getD n (.wait 0)

variable (S : Schedule d)

/-- The threads before a step. -/
def stateAt : Nat → Threads d
  | 0 => { session := { link := { port := {} }, timing := S.timing } }
  | n + 1 => ((stateAt n).run (S.steps n)).2

def heardAt (n : Nat) : List (List UInt8) := (S.stateAt n).session.heard

def boltAt (n : Nat) : BoltState := (S.stateAt n).session.status.bolt

def CalmAt (n : Nat) : Prop := Calm (S.stateAt n).session.link

def Returns (n : Nat) (desired : BoltState) : Prop :=
  .returned desired (.ok ()) ∈ ((S.stateAt n).run (S.steps n)).1

/-- A poll stores the status that its reply reports. -/
def Stores (n : Nat) (reply : String) : Prop := (S.stateAt n).Stores (S.steps n) reply

/-- A poll that holds a reply before step `n` has fetched it in step `f`. -/
structure Fetches (f n : Nat) (reply : String) : Prop where
  before : f < n
  goes : S.steps f = .poll
  fetched : (S.stateAt f).session.fetchStatus.1 = .ok reply
  holds : ∀ j, f < j → j ≤ n → (S.stateAt j).fetched = some reply

/-- The device's answer to a status line that it hears in step `f`. -/
def Answers (f : Nat) (reply : String) : Prop :=
  (d.answer (S.heardAt f) (Utf8.encode Command.status.word)).replyTo? Command.status.word = some reply

/-- A state change that waits for its end before step `n` has been acknowledged in step `a`. -/
structure Acknowledges (a n : Nat) (command : Command) (desired : BoltState) : Prop where
  before : a < n
  goes : S.steps a = .command
  drives : Command.towards? desired = some command
  exchanged : ∃ deadline,
    (S.stateAt a).session.commandUntil command deadline = (.ok (), (S.stateAt (a + 1)).session)
  waits : ∀ j, a < j → j ≤ n → (S.stateAt j).stage = .acknowledged desired

variable {S} {a f k n w : Nat} {command : Command} {desired : BoltState} {reply : String}

theorem line_stateAt (n : Nat) : (S.stateAt n).session.link.port.line = [] := by
  induction n with
  | zero => rfl
  | succ n ih => exact (Threads.run_heard ih (S.steps n)).1

theorem heardAt_grows (h : k ≤ n) : S.heardAt k <+: S.heardAt n := by
  induction n, h using Nat.le_induction with
  | base => exact List.prefix_rfl
  | succ n _ ih => exact ih.trans (Threads.run_heard (line_stateAt n) (S.steps n)).2

theorem drives_stateAt (n : Nat) : (S.stateAt n).stage.Drives := by
  induction n with
  | zero => trivial
  | succ n ih => exact Threads.run_drives ih (S.steps n)

/-- What holds now and did not hold at first has begun at some step, and has held since then. -/
theorem exists_since {Holds Begins : Nat → Prop} (never : ¬Holds 0)
    (step : ∀ n, Holds (n + 1) → Holds n ∨ Begins n) (h : Holds n) :
    ∃ b, b < n ∧ Begins b ∧ ∀ j, b < j → j ≤ n → Holds j := by
  induction n with
  | zero => exact absurd h never
  | succ n ih =>
      obtain held | begins := step n h
      · obtain ⟨b, earlier, begins, since⟩ := ih held
        refine ⟨b, Nat.lt_succ_of_lt earlier, begins, ?_⟩
        intro j after before
        obtain before | rfl := Nat.le_succ_iff.mp before
        · exact since j after before
        · exact h
      · refine ⟨n, Nat.lt_succ_self n, begins, ?_⟩
        intro j after before
        obtain rfl : j = n + 1 := by omega
        exact h

theorem exists_fetches (h : (S.stateAt n).fetched = some reply) : ∃ f, S.Fetches f n reply := by
  let Holds (n : Nat) := (S.stateAt n).fetched = some reply
  let Begins (f : Nat) := S.steps f = .poll ∧ (S.stateAt f).session.fetchStatus.1 = .ok reply
  have step (n : Nat) (h : Holds (n + 1)) : Holds n ∨ Begins n :=
    (Threads.run_fetched h).imp_left And.left
  obtain ⟨f, before, ⟨goes, fetched⟩, holds⟩ := exists_since (fun start => nomatch start) step h
  exact ⟨f, before, goes, fetched, holds⟩

theorem exists_acknowledges (h : (S.stateAt n).stage = .acknowledged desired) :
    ∃ a command, S.Acknowledges a n command desired := by
  let Holds (n : Nat) := (S.stateAt n).stage = .acknowledged desired
  have step (n : Nat) (h : Holds (n + 1)) := Threads.run_acknowledged h
  obtain ⟨a, before, ⟨goes, c, stage, rfl, ok⟩, waits⟩ :=
    @exists_since n Holds _ (fun start => nomatch start) step h
  have drives : (S.stateAt a).stage.Drives := drives_stateAt a
  rw [stage] at drives
  exact ⟨a, c.command, before, goes, drives, ⟨c.deadline, ok⟩, waits⟩

/-- A reply is stored once: a poll that goes on with it holds it no longer. -/
theorem Fetches.not_stores {j : Nat} (h : S.Fetches f n reply) (after : f < j) (before : j < n)
    (other : String) : ¬S.Stores j other := by
  intro stores
  have held := h.holds (j + 1) (by omega) before
  have released : (S.stateAt (j + 1)).fetched = none := by
    rw [stateAt, stores.goes, Threads.run, stores.holds]
  rw [released] at held
  cases held

theorem Fetches.answers (h : S.Fetches f n reply) (calm : S.CalmAt f) : S.Answers f reply := by
  have exchange : (S.stateAt f).session.link.exchange Command.status.word
      (S.stateAt f).session.timing.statusTimeout = (.ok reply, _) := Prod.ext h.fetched rfl
  exact (Calm.exchange calm exchange).1

theorem Acknowledges.acknowledged (h : S.Acknowledges a n command desired) (calm : S.CalmAt a) :
    Acknowledged d command (S.heardAt a) (S.heardAt (a + 1)) := by
  obtain ⟨deadline, ok⟩ := h.exchanged
  exact Session.commandUntil_ok calm ok

theorem boltAt_stands (returns : S.Returns w desired) (later : w < n)
    (still : ∀ k, w < k → k < n → (∀ reply, ¬S.Stores k reply) ∧ ∀ other, ¬S.Returns k other) :
    S.boltAt n = desired := by
  induction n, later using Nat.le_induction with
  | base => exact (Threads.run_returned returns).2
  | succ n after ih =>
      obtain ⟨unstored, unreturned⟩ := still n after (Nat.lt_succ_self n)
      have same : (S.stateAt (n + 1)).session.status = (S.stateAt n).session.status := by
        obtain same | ⟨reply, stores⟩ | ⟨other, returned⟩ :=
          Threads.run_status (line_stateAt n) (S.steps n)
        · exact same
        · exact absurd stores (unstored reply)
        · exact absurd returned (unreturned other)
      rw [boltAt, same]
      exact ih fun k after before => still k after (Nat.lt_succ_of_lt before)

/-- A state that a state change has returned stands until a status reply is stored, or the next state
change returns. A reply that is stored was fetched after the command had been acknowledged, so that the
device, if none of its answers is late, has given it after the acknowledgement. The one exception is a
reply that a poll had fetched before and holds from then on: it can only be the first one stored. -/
theorem reached_state_stands (returns : S.Returns w desired) :
    ∃ a command, S.Acknowledges a w command desired ∧
      (S.CalmAt a → Acknowledged d command (S.heardAt a) (S.heardAt (a + 1))) ∧
      (∀ n, w < n →
        (∀ k, w < k → k < n → (∀ reply, ¬S.Stores k reply) ∧ ∀ other, ¬S.Returns k other) →
        S.boltAt n = desired) ∧
      ∀ k reply, w < k → S.Stores k reply → ∃ f, S.Fetches f k reply ∧
        (a < f ∧ S.heardAt (a + 1) <+: S.heardAt f ∧ (S.CalmAt f → S.Answers f reply) ∨
          f < a ∧ ∀ j, w < j → j < k → ∀ other, ¬S.Stores j other) := by
  obtain ⟨a, command, acknowledges⟩ := exists_acknowledges (Threads.run_returned returns).1
  refine ⟨a, command, acknowledges, acknowledges.acknowledged, ?_, ?_⟩
  · intro n later still
    exact boltAt_stands returns later still
  · intro k reply later stores
    obtain ⟨f, fetches⟩ := exists_fetches stores.holds
    refine ⟨f, fetches, ?_⟩
    -- the poll has fetched its reply before or after the command was acknowledged
    obtain before | same | after := Nat.lt_trichotomy f a
    · refine .inr ⟨before, ?_⟩
      intro j afterReturn beforeStore other
      exact fetches.not_stores (by have := acknowledges.before; omega) beforeStore other
    · subst same
      cases fetches.goes.symm.trans acknowledges.goes
    · exact .inl ⟨after, heardAt_grows after, fetches.answers⟩

/-- A lock whose bolt is open until it hears `lock`, and whose answers are never late. -/
def promptLock : Device where
  answer heard line :=
    if line = Utf8.encode "lock" then lockedLine
    else if Utf8.encode "lock" ∈ heard then
      ⟨Utf8.encode "OK: status locked closed lowered 5", by decide, by decide⟩
    else unlockedLine
  lead n := n
  reading _ := .ok readChunk
  clock _ := 0
  patience _ _ := 1

/-- A poll fetches a reply before the bolt is driven and stores it after that; the next poll follows. -/
def crossing : Schedule promptLock :=
  .ofList promptLock
    [.poll, .poll, .poll, .begin .locked, .command, .command, .poll, .poll, .poll]

theorem crossing_returns : crossing.Returns 5 .locked := List.mem_singleton_self _

/-- The poll in the middle stores what it fetched before the command. -/
theorem crossing_stores_earlier :
    crossing.Stores 6 "OK: status unlocked closed lowered 5" ∧
      crossing.Fetches 2 6 "OK: status unlocked closed lowered 5" := by
  refine ⟨⟨rfl, by rfl, _, by rfl⟩, by decide, rfl, by rfl, ?_⟩
  intro j after before
  have place : j = 3 ∨ j = 4 ∨ j = 5 ∨ j = 6 := by omega
  obtain rfl | rfl | rfl | rfl := place <;> rfl

/-- The poll after it stores what the lock has answered after it acknowledged the command. -/
theorem crossing_follows_lock :
    crossing.Returns 5 .locked ∧ crossing.Stores 8 "OK: status locked closed lowered 5" ∧
      Acknowledged promptLock .lock (crossing.heardAt 4) (crossing.heardAt 5) ∧
      crossing.heardAt 5 <+: crossing.heardAt 7 ∧
      crossing.Answers 7 "OK: status locked closed lowered 5" := by
  have stores : crossing.Stores 8 "OK: status locked closed lowered 5" := ⟨rfl, by rfl, _, by rfl⟩
  obtain ⟨a, command, acknowledges, acknowledged, -, replies⟩ := reached_state_stands crossing_returns
  have waiting : 4 ≤ a := Nat.le_of_not_lt fun before => by
    cases acknowledges.waits 4 before (by decide)
  obtain rfl : a = 4 := Nat.le_antisymm (Nat.le_of_lt_succ acknowledges.before) waiting
  obtain rfl : Command.lock = command := Option.some.inj acknowledges.drives
  obtain ⟨f, fetches, ⟨-, heard, answers⟩ | ⟨-, first⟩⟩ := replies 8 _ (by decide) stores
  · have holding : 7 ≤ f := Nat.le_of_not_lt fun before => by
      cases fetches.holds 7 before (by decide)
    obtain rfl : f = 7 := Nat.le_antisymm (Nat.le_of_lt_succ fetches.before) holding
    exact ⟨crossing_returns, stores, acknowledged ⟨rfl, rfl⟩, heard, answers ⟨rfl, rfl⟩⟩
  · exact absurd crossing_stores_earlier.1 (first 6 (by decide) (by decide) _)

/-- A reply that was fetched before a state change began can undo it after it has returned. -/
theorem earlier_reply_undoes_command :
    ¬ ∀ (d : Device) (S : Schedule d) b w n desired, S.steps b = .begin desired →
      (S.stateAt b).stage = .idle → b < w → S.Returns w desired → w < n →
      (∀ k, w < k → k < n → ∀ other, ¬S.Returns k other) →
      (∀ k reply, w < k → k < n → S.Stores k reply → ∃ f < b, S.Fetches f k reply) →
      S.boltAt n = desired := by
  intro stands
  have undone : crossing.boltAt 7 = .unlocked := by rfl
  have locked := stands promptLock crossing 3 5 7 .locked rfl rfl (by decide) crossing_returns
    (by decide) ?_ ?_
  · rw [undone] at locked
    cases locked
  · intro k after before other returns
    obtain rfl : k = 6 := by omega
    have ends := (Threads.run_returned returns).1
    cases ends
  · intro k reply after before stores
    obtain rfl : k = 6 := by omega
    obtain ⟨earlier, fetches⟩ := crossing_stores_earlier
    obtain rfl : reply = "OK: status unlocked closed lowered 5" :=
      Option.some.inj (stores.holds.symm.trans earlier.holds)
    exact ⟨2, by decide, fetches⟩

end Schedule

end DoorControl.Lock
