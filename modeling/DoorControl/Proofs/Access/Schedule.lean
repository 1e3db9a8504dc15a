/- Runs of a cache that several tasks use, in every order: what the cache remembers is what it was told last,
and what it is told is what the service has answered. -/
import DoorControl.Proofs.Access.Shared
import Mathlib.Order.Monotone.Basic
import Mathlib.Data.Nat.Init

namespace DoorControl.Access

/-- Steps in any order, from a new cache on. -/
structure Schedule where
  timing : CacheTiming := {}
  steps : Nat → Step

namespace Schedule

/-- The steps of a list; nothing happens after them. -/
def ofList (timing : CacheTiming) (steps : List Step) : Schedule where
  timing
  steps n := steps.getD n (.wait 0)

variable (S : Schedule)

/-- The state before a step. -/
def stateAt : Nat → Shared
  | 0 => { cache := { timing := S.timing } }
  | n + 1 => ((stateAt n).run (S.steps n)).2

def eventsAt (n : Nat) : List Event := ((S.stateAt n).run (S.steps n)).1

def timeAt (n : Nat) : Nat := (S.stateAt n).now

def noticeAt (n : Nat) (card : CardId) : Option Notice := (S.stateAt n).notice? card (S.steps n)

/-- How often a task has asked the service before a step. -/
def lookups (task : Nat) (n : Nat) : Nat :=
  ((List.range n).flatMap S.eventsAt).countP (·.isLookupOf task)

/-- A call goes on with the service's answer, which the service has given it after it asked. -/
structure Settles (n id : Nat) (card : CardId) (answer : LookupAnswer) : Prop where
  resumes : S.steps n = .resume id
  answered : ∃ serial, (S.stateAt n).tasks[id]? = some (.answered card answer serial)
  asked : ∃ j m, j < m ∧ m < n ∧ .lookup id card ∈ S.eventsAt j ∧ S.steps m = .answer id answer

/-- A refresh goes on with the service's answer, which the service has given it after it began. -/
structure TakesOver (n id : Nat) (answer : ListAnswer) : Prop where
  resumes : S.steps n = .resume id
  listed : ∃ serial, (S.stateAt n).tasks[id]? = some (.listed answer serial)
  fetched : ∃ j m, j < m ∧ m < n ∧ S.steps j = .fetch ∧ (S.stateAt j).tasks.length = id ∧
    S.steps m = .list id answer

/-- The cache is told that a user has access with a card. -/
inductive Receives (n : Nat) (card : CardId) (user : UserRef) : Prop
  | permission {id : Nat} (settles : S.Settles n id card (.ok (.allowed user)))
  | list {id : Nat} {grants : List Grant} (takesOver : S.TakesOver n id (.ok grants))
      (last : lastGrant? card grants = some user)

/-- The last that the cache was told about a card before a step, and when. -/
structure LastTold (n : Nat) (card : CardId) (k : Nat) (notice : Notice) : Prop where
  before : k < n
  told : S.noticeAt k card = some notice
  since : ∀ j, k < j → j < n → S.noticeAt j card = none

variable {S : Schedule} {n : Nat} {card : CardId}

@[simp] theorem timing_stateAt (n : Nat) : (S.stateAt n).cache.timing = S.timing := by
  induction n with
  | zero => rfl
  | succ n ih => exact (Shared.run_timing (S.stateAt n) (S.steps n)).trans ih

theorem timeAt_mono : Monotone S.timeAt :=
  monotone_nat_of_le_succ fun n => Shared.now_le_run (S.stateAt n) (S.steps n)

theorem tasks_length_mono : Monotone fun n => (S.stateAt n).tasks.length :=
  monotone_nat_of_le_succ fun n => Shared.tasks_length_run (S.steps n)

theorem LastTold.succ {k : Nat} {notice : Notice} (last : S.LastTold n card k notice)
    (untold : S.noticeAt n card = none) : S.LastTold (n + 1) card k notice where
  before := Nat.lt_succ_of_lt last.before
  told := last.told
  since j after before := by
    obtain earlier | rfl := Nat.lt_succ_iff_lt_or_eq.mp before
    · exact last.since j after earlier
    · exact untold

/-- What is remembered about a card is what the cache was told last, and as old as that. -/
theorem exists_lastTold {e : Entry} (h : Cache.entry? card (S.stateAt n).cache = some e) :
    ∃ k serial, S.LastTold n card k ⟨serial, some e.user⟩ ∧ S.timeAt k = e.refreshed := by
  -- A step that tells the cache nothing about the card keeps its entry, whatever it does to other cards.
  induction n with
  | zero => cases h
  | succ n ih =>
      rw [stateAt, Shared.run_entry?] at h
      cases told : S.noticeAt n card with
      | none =>
          rw [noticeAt] at told
          rw [told] at h
          obtain ⟨k, serial, last, time⟩ := ih h
          exact ⟨k, serial, last.succ told, time⟩
      | some notice =>
          rw [noticeAt] at told
          rw [told] at h
          obtain ⟨user, owner, rfl⟩ := Option.map_eq_some_iff.mp h
          obtain ⟨serial, _⟩ := notice
          cases owner
          refine ⟨n, serial, ⟨Nat.lt_succ_self n, told, ?_⟩, rfl⟩
          intro j after before
          omega

/-- Where a task stands it once came to stand. -/
theorem exists_becomes {id : Nat} {task : Task} (h : (S.stateAt n).tasks[id]? = some task) :
    ∃ k < n, (S.stateAt k).Becomes (S.steps k) id task := by
  induction n with
  | zero => simp [stateAt] at h
  | succ n ih =>
      by_cases before : (S.stateAt n).tasks[id]? = some task
      · obtain ⟨k, earlier, becomes⟩ := ih before
        exact ⟨k, Nat.lt_succ_of_lt earlier, becomes⟩
      · exact ⟨n, Nat.lt_succ_self n, Shared.run_becomes h before⟩

theorem settles_of_answered {id serial : Nat} {answer : LookupAnswer} (resumes : S.steps n = .resume id)
    (answered : (S.stateAt n).tasks[id]? = some (.answered card answer serial)) :
    S.Settles n id card answer where
  resumes := resumes
  answered := ⟨serial, answered⟩
  asked := by
    obtain ⟨m, before, becomes⟩ := exists_becomes answered
    obtain ⟨answers, asking⟩ := becomes.of_answered
    obtain ⟨j, earlier, begins⟩ := exists_becomes asking
    exact ⟨j, m, earlier, before, Shared.lookup_mem_run_iff.mpr begins.of_asking, answers⟩

theorem takesOver_of_listed {id serial : Nat} {answer : ListAnswer}
    (resumes : S.steps n = .resume id)
    (listed : (S.stateAt n).tasks[id]? = some (.listed answer serial)) :
    S.TakesOver n id answer where
  resumes := resumes
  listed := ⟨serial, listed⟩
  fetched := by
    obtain ⟨m, before, becomes⟩ := exists_becomes listed
    obtain ⟨lists, listing⟩ := becomes.of_listed
    obtain ⟨j, earlier, begins⟩ := exists_becomes listing
    obtain ⟨fetches, position⟩ := begins.of_listing
    exact ⟨j, m, earlier, before, fetches, position.symm, lists⟩

/-- The cache is told of a permission by a call's answer or by a list. -/
theorem receives_of_notice {serial : Nat} {user : UserRef}
    (told : S.noticeAt n card = some ⟨serial, some user⟩) : S.Receives n card user := by
  have tells := Shared.tells_of_notice? told
  generalize resumes : S.steps n = step at tells
  generalize owner : some user = owner? at tells
  cases tells with
  | permission answered =>
      cases owner
      exact .permission (settles_of_answered resumes answered)
  | list listed => exact .list (takesOver_of_listed resumes listed) owner.symm

end Schedule

end DoorControl.Access
