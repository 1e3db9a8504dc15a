/- How long a permission that was taken back can live on: until the cache is told so, and again when it is
told of an older permission after that. -/
import DoorControl.Proofs.Access.Schedule
import Mathlib.Order.Defs.LinearOrder

namespace DoorControl.Access.Schedule

/-- A call is answered from what is remembered. -/
structure Hit (S : Schedule) (n : Nat) (card : CardId) (user : UserRef) : Prop where
  asks : S.steps n = .ask card
  replies : .reply (S.stateAt n).tasks.length card (.allowed user) ∈ S.eventsAt n

/-- Of all that the cache was told about a card before a step, this is the answer the service gave last. -/
structure Newest (S : Schedule) (n : Nat) (card : CardId) (j : Nat) (notice : Notice) : Prop where
  before : j < n
  told : S.noticeAt j card = some notice
  newest : ∀ i < n, ∀ other ∈ S.noticeAt i card, other.serial ≤ notice.serial

variable {S : Schedule} {n : Nat} {card : CardId} {user : UserRef}

theorem served_grows {m : Nat} (h : m ≤ n) : (S.stateAt m).served <+: (S.stateAt n).served := by
  induction n, h using Nat.le_induction with
  | base => exact List.prefix_rfl
  | succ n _ ih => exact ih.trans (Shared.served_run (S.steps n))

theorem served_at {m serial id : Nat} (h : m ≤ n) (served : (S.stateAt m).served[serial]? = some id) :
    (S.stateAt n).served[serial]? = some id := by
  obtain ⟨inside, rfl⟩ := List.getElem?_eq_some_iff.mp served
  exact List.prefix_iff_getElem?.mp (served_grows h) serial inside

/-- The answer with which a task goes on bears the task's place among the answers given. -/
theorem served_of_task {id serial : Nat} {task : Task} (stands : (S.stateAt n).tasks[id]? = some task)
    (answered : task.serial? = some serial) : (S.stateAt n).served[serial]? = some id := by
  obtain ⟨m, before, becomes⟩ := exists_becomes stands
  exact served_at before (becomes.served answered)

theorem ended_at {m id : Nat} (h : m ≤ n) (ended : (S.stateAt m).tasks[id]? = some .done) :
    (S.stateAt n).tasks[id]? = some .done := by
  induction n, h using Nat.le_induction with
  | base => exact ended
  | succ n _ ih => exact Shared.ended_run ih

theorem task_of_notice {notice : Notice} (told : S.noticeAt n card = some notice) :
    ∃ id task, S.steps n = .resume id ∧ (S.stateAt n).tasks[id]? = some task ∧
      task.serial? = some notice.serial := by
  have tells := Shared.tells_of_notice? told
  generalize S.steps n = step at tells ⊢
  cases tells with
  | permission answered => exact ⟨_, _, rfl, answered, rfl⟩
  | list listed => exact ⟨_, _, rfl, listed, rfl⟩

/-- An answer is told to the cache once. -/
theorem serial_ne {j k : Nat} {earlier later : Notice} (before : j < k)
    (toldEarlier : S.noticeAt j card = some earlier) (toldLater : S.noticeAt k card = some later) :
    earlier.serial ≠ later.serial := by
  intro same
  -- Equal numbers belong to one task, and this task has ended with the first notice.
  obtain ⟨id, task, resumes, stands, answered⟩ := task_of_notice toldEarlier
  obtain ⟨other, task', -, stands', answered'⟩ := task_of_notice toldLater
  have served := served_at (Nat.le_of_lt before) (served_of_task stands answered)
  rw [same, served_of_task stands' answered'] at served
  cases served
  have ended : (S.stateAt (j + 1)).tasks[id]? = some .done := by
    rw [stateAt, resumes]
    exact Shared.resume_ends stands answered
  rw [ended_at before ended] at stands'
  cases stands'
  cases answered'

theorem Hit.fresh (hit : S.Hit n card user) :
    (S.stateAt n).cache.fresh? card (S.stateAt n).now = some user := by
  obtain ⟨-, fresh⟩ | ⟨resumes, -⟩ := Shared.allowed_mem_run hit.replies
  · exact fresh
  · rw [hit.asks] at resumes
    cases resumes

theorem LastTold.denied_before {k j : Nat} {told denial : Notice} (last : S.LastTold n card k told)
    (affirmed : told.owner.isSome) (before : j < n) (denied : S.noticeAt j card = some denial)
    (none : denial.owner = none) : j < k := by
  obtain earlier | rfl | later := Nat.lt_trichotomy j k
  · exact earlier
  · rw [last.told] at denied
    cases denied
    rw [none] at affirmed
    cases affirmed
  · rw [last.since j later before] at denied
    cases denied

/-- A call is answered from what is remembered when the last answer about the card that the cache was told
names its owner, and it was told so less than the staleness window ago. So it was told after every list
without the card. The answer that the service gave last need not be that one: where it denies the card, an
answer given before was told after it. -/
theorem hit_follows_last_told (hit : S.Hit n card user) :
    ∃ k serial, S.LastTold n card k ⟨serial, some user⟩ ∧
      S.timeAt n - S.timeAt k < S.timing.staleness ∧
      (∀ j < n, ∀ denial ∈ S.noticeAt j card, denial.owner = none → j < k) ∧
      ∀ j newest, S.Newest n card j newest →
        newest.owner.isSome ∨ j < k ∧ serial < newest.serial := by
  obtain ⟨e, remembered, young, rfl⟩ := Cache.fresh?_eq_some_iff.mp hit.fresh
  obtain ⟨k, serial, last, time⟩ := exists_lastTold remembered
  rw [timing_stateAt, ← time] at young
  have denied : ∀ j < n, ∀ denial ∈ S.noticeAt j card, denial.owner = none → j < k :=
    fun j before denial told none => last.denied_before rfl before told none
  refine ⟨k, serial, last, young, denied, ?_⟩
  intro j newest top
  cases owner : newest.owner with
  | some _ => exact .inl rfl
  | none =>
      have overtaken : j < k := denied j top.before newest top.told owner
      have older : serial ≤ newest.serial := top.newest k last.before _ last.told
      exact .inr ⟨overtaken, Nat.lt_of_le_of_ne older (serial_ne overtaken top.told last.told).symm⟩

/-- A call is answered before a refresh and goes on after it: a list without the card, and then the older
permission. -/
def overtaken : Schedule :=
  .ofList {} [.ask .smallest, .answer 0 (.ok (.allowed ⟨42, 7⟩)), .fetch, .list 1 (.ok []),
    .resume 1, .resume 0, .ask .smallest]

theorem overtaken_hit : overtaken.Hit 6 .smallest ⟨42, 7⟩ where
  asks := rfl
  replies := by decide

theorem overtaken_newest : overtaken.Newest 6 .smallest 4 ⟨1, none⟩ where
  before := by decide
  told := by decide
  newest := by decide

/-- The list was the last answer and denies the card; what was told after it was older. -/
theorem overtaken_follows_older :
    overtaken.Hit 6 .smallest ⟨42, 7⟩ ∧
      overtaken.Newest 6 .smallest 4 ⟨1, none⟩ ∧
      ∃ k serial, overtaken.LastTold 6 .smallest k ⟨serial, some ⟨42, 7⟩⟩ ∧
        4 < k ∧ serial < 1 := by
  obtain ⟨k, serial, last, -, -, older⟩ := hit_follows_last_told overtaken_hit
  obtain affirmed | ⟨after, older⟩ := older 4 _ overtaken_newest
  · cases affirmed
  · exact ⟨overtaken_hit, overtaken_newest, k, serial, last, after, older⟩

/-- The answer that the service gave last need not name an owner. -/
theorem revocation_undone_by_older_answer :
    ¬ ∀ (S : Schedule) n card user, S.Hit n card user →
      ∀ j newest, S.Newest n card j newest → newest.owner.isSome := by
  intro lasting
  have affirmed := lasting overtaken 6 _ _ overtaken_hit 4 _ overtaken_newest
  cases affirmed

end DoorControl.Access.Schedule
