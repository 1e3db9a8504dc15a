/- A cache that several tasks use at once: calls about cards, and refreshes. A task gives way to the others
where it waits for the service, and nowhere else. -/
import DoorControl.Proofs.Access.Entries

namespace DoorControl.Access

/-- Where a task stands: a call or a refresh waits for the service, or has its answer and has not gone on
yet. An answer has a serial number, which counts the answers given before. -/
inductive Task
  | asking (card : CardId)
  | answered (card : CardId) (answer : LookupAnswer) (serial : Nat)
  | listing
  | listed (answer : ListAnswer) (serial : Nat)
  | done

def Task.serial? : Task → Option Nat
  | .answered _ _ serial => some serial
  | .listed _ serial => some serial
  | .asking _ | .listing | .done => none

/-- The clock goes on, a call or a refresh begins, the service answers one of them, or one of them goes on
with its answer. -/
inductive Step
  | wait (ms : Nat)
  | ask (card : CardId)
  | fetch
  | answer (task : Nat) (answer : LookupAnswer)
  | list (task : Nat) (answer : ListAnswer)
  | resume (task : Nat)

/-- A call asks the service, or ends with a result. -/
inductive Event
  | lookup (task : Nat) (card : CardId)
  | reply (task : Nat) (card : CardId) (result : AccessResult)
  deriving DecidableEq

def Event.isLookupOf (task : Nat) : Event → Bool
  | .lookup id _ => id == task
  | .reply .. => false

/-- A cache and its tasks, in the order in which they began and in the order in which they were answered. -/
structure Shared where
  cache : Cache
  now : Nat := 0
  tasks : List Task := []
  served : List Nat := []

/-- What an answer that the cache takes over says about a card: its owner, or that it has no access. -/
structure Notice where
  serial : Nat
  owner : Option UserRef
  deriving DecidableEq

namespace Shared

def begin (task : Task) (s : Shared) : Shared := { s with tasks := s.tasks ++ [task] }

def move (id : Nat) (task : Task) (s : Shared) : Shared := { s with tasks := s.tasks.set id task }

def serve (id : Nat) (task : Task) (s : Shared) : Shared :=
  { s with tasks := s.tasks.set id task, served := s.served ++ [id] }

/-- A step, and what can be seen of it. A step that no task is ready for does nothing. -/
def run (s : Shared) : Step → List Event × Shared
  | .wait ms => ([], { s with now := s.now + ms })
  | .ask card => match s.cache.fresh? card s.now with
      | some user => ([.reply s.tasks.length card (.allowed user)], s.begin .done)
      | none => ([.lookup s.tasks.length card], s.begin (.asking card))
  | .fetch => ([], s.begin .listing)
  | .answer id answer => match s.tasks[id]? with
      | some (.asking card) => ([], s.serve id (.answered card answer s.served.length))
      | _ => ([], s)
  | .list id answer => match s.tasks[id]? with
      | some .listing => ([], s.serve id (.listed answer s.served.length))
      | _ => ([], s)
  | .resume id => match s.tasks[id]? with
      | some (.answered card answer _) =>
          let (result, cache) := s.cache.settle card answer s.now
          ([.reply id card result], { s.move id .done with cache })
      | some (.listed answer _) =>
          let (_, cache) := s.cache.replace answer s.now
          ([], { s.move id .done with cache })
      | _ => ([], s)

/-- What the cache is told about a card in a step, by a permission for it or by a list. -/
def notice? (s : Shared) (card : CardId) : Step → Option Notice
  | .resume id => match s.tasks[id]? with
      | some (.answered c (.ok (.allowed user)) serial) =>
          if c = card then some ⟨serial, some user⟩ else none
      | some (.listed (.ok grants) serial) => some ⟨serial, lastGrant? card grants⟩
      | _ => none
  | _ => none

def runAll (s : Shared) : List Step → List Event × Shared
  | [] => ([], s)
  | step :: steps =>
      let (events, s) := s.run step
      let (later, s) := s.runAll steps
      (events ++ later, s)

end Shared

namespace Shared

open Cache

variable {s : Shared} {id : Nat}

/-- What a step can do. -/
inductive Does (s : Shared) : Step → List Event × Shared → Prop
  | waits (ms : Nat) : Does s (.wait ms) ([], { s with now := s.now + ms })
  | remembers {card : CardId} {user : UserRef} (fresh : s.cache.fresh? card s.now = some user) :
      Does s (.ask card) ([.reply s.tasks.length card (.allowed user)], s.begin .done)
  | asks {card : CardId} (stale : s.cache.fresh? card s.now = none) :
      Does s (.ask card) ([.lookup s.tasks.length card], s.begin (.asking card))
  | fetches : Does s .fetch ([], s.begin .listing)
  | answers {id : Nat} {card : CardId} (answer : LookupAnswer)
      (asking : s.tasks[id]? = some (.asking card)) :
      Does s (.answer id answer) ([], s.serve id (.answered card answer s.served.length))
  | lists {id : Nat} (answer : ListAnswer) (listing : s.tasks[id]? = some .listing) :
      Does s (.list id answer) ([], s.serve id (.listed answer s.served.length))
  | settles {id : Nat} {card : CardId} {answer : LookupAnswer} {serial : Nat}
      (answered : s.tasks[id]? = some (.answered card answer serial)) :
      Does s (.resume id) ([.reply id card (s.cache.settle card answer s.now).1],
        { s.move id .done with cache := (s.cache.settle card answer s.now).2 })
  | replaces {id : Nat} {answer : ListAnswer} {serial : Nat}
      (listed : s.tasks[id]? = some (.listed answer serial)) :
      Does s (.resume id)
        ([], { s.move id .done with cache := (s.cache.replace answer s.now).2 })
  | idles {step : Step} (untold : ∀ card, s.notice? card step = none) : Does s step ([], s)

theorem does_run (s : Shared) (step : Step) : Does s step (s.run step) := by
  cases step with
  | wait ms => exact .waits ms
  | ask card =>
      cases h : s.cache.fresh? card s.now with
      | some user => simpa only [run, h] using Does.remembers h
      | none => simpa only [run, h] using Does.asks h
  | fetch => exact .fetches
  | answer id answer =>
      cases h : s.tasks[id]? with
      | none => simpa only [run, h] using Does.idles fun _ => rfl
      | some task => cases task with
          | asking card => simpa only [run, h] using Does.answers answer h
          | answered | listing | listed | done => simpa only [run, h] using Does.idles fun _ => rfl
  | list id answer =>
      cases h : s.tasks[id]? with
      | none => simpa only [run, h] using Does.idles fun _ => rfl
      | some task => cases task with
          | listing => simpa only [run, h] using Does.lists answer h
          | asking | answered | listed | done => simpa only [run, h] using Does.idles fun _ => rfl
  | resume id =>
      cases h : s.tasks[id]? with
      | none => simpa only [run, h] using Does.idles fun _ => by simp only [notice?, h]
      | some task => cases task with
          | answered card answer serial => simpa only [run, h] using Does.settles h
          | listed answer serial => simpa only [run, h] using Does.replaces h
          | asking | listing | done =>
              simpa only [run, h] using Does.idles fun _ => by simp only [notice?, h]

/-- What is remembered about a card changes when the cache is told about it, and only then. -/
theorem run_entry? (s : Shared) (card : CardId) (step : Step) :
    Cache.entry? card (s.run step).2.cache = match s.notice? card step with
      | some notice => notice.owner.map (⟨·, s.now⟩)
      | none => s.cache.entry? card := by
  have h := s.does_run step
  generalize s.run step = after at h ⊢
  cases h with
  | waits | remembers | asks | fetches | answers | lists => rfl
  | @settles id c answer serial answered =>
      simp only [notice?, answered]
      match answer with
      | .ok (.allowed user) =>
          refine (entry?_settle_allowed c card user s.now s.cache).trans ?_
          by_cases same : c = card
          · simp only [same, if_true, Option.map_some]
          · have other : card ≠ c := fun e => same e.symm
            simp only [same, other, if_false]
      | .ok .forbidden | .ok .unknown | .error _ => rfl
  | @replaces id answer serial listed =>
      simp only [notice?, listed]
      match answer with
      | .ok grants => exact entry?_replace_ok card grants s.now s.cache
      | .error _ => rfl
  | idles untold => rw [untold card]

/-- A refusal or a failure that a call ends with leaves the cache as it is. -/
theorem run_refused {card : CardId} {answer : LookupAnswer} {serial : Nat}
    (answered : s.tasks[id]? = some (.answered card answer serial))
    (refused : ∀ user, answer ≠ .ok (.allowed user)) : (s.run (.resume id)).2.cache = s.cache := by
  simpa only [run, answered] using settle_eq_self refused

theorem run_failed {e : AccessError} {serial : Nat}
    (listed : s.tasks[id]? = some (.listed (.error e) serial)) :
    (s.run (.resume id)).2.cache = s.cache := by
  simp only [run, listed, replace]

@[simp] theorem run_timing (s : Shared) (step : Step) :
    (s.run step).2.cache.timing = s.cache.timing := by
  have h := s.does_run step
  generalize s.run step = after at h ⊢
  cases h with
  | waits | remembers | asks | fetches | answers | lists | idles => rfl
  | settles => exact settle_timing ..
  | replaces => exact replace_timing ..

theorem now_le_run (s : Shared) (step : Step) : s.now ≤ (s.run step).2.now := by
  have h := s.does_run step
  generalize s.run step = after at h ⊢
  cases h with
  | waits ms => exact Nat.le_add_right s.now ms
  | remembers | asks | fetches | answers | lists | settles | replaces | idles => exact Nat.le_refl _

/-- A permission that a call ends with is remembered or the service's answer to this call. -/
theorem allowed_mem_run {s : Shared} {step : Step} {id : Nat} {card : CardId} {user : UserRef}
    (h : .reply id card (.allowed user) ∈ (s.run step).1) :
    step = .ask card ∧ s.cache.fresh? card s.now = some user ∨
      step = .resume id ∧
        ∃ serial, s.tasks[id]? = some (.answered card (.ok (.allowed user)) serial) := by
  have does := s.does_run step
  generalize s.run step = after at does h
  cases does with
  | waits | asks | fetches | answers | lists | replaces | idles => simp at h
  | remembers fresh =>
      simp only [List.mem_singleton, Event.reply.injEq, AccessResult.allowed.injEq] at h
      obtain ⟨-, rfl, rfl⟩ := h
      exact .inl ⟨rfl, fresh⟩
  | settles answered =>
      simp only [List.mem_singleton, Event.reply.injEq] at h
      obtain ⟨rfl, rfl, result⟩ := h
      cases settle_allowed_iff.mp result.symm
      exact .inr ⟨rfl, _, answered⟩

/-- How a task comes to stand where it has not stood before. -/
inductive Becomes (s : Shared) : Step → Nat → Task → Prop
  | asked {card : CardId} (stale : s.cache.fresh? card s.now = none) :
      Becomes s (.ask card) s.tasks.length (.asking card)
  | fetched : Becomes s .fetch s.tasks.length .listing
  | answered {id : Nat} {card : CardId} {answer : LookupAnswer}
      (asking : s.tasks[id]? = some (.asking card)) :
      Becomes s (.answer id answer) id (.answered card answer s.served.length)
  | listed {id : Nat} {answer : ListAnswer} (listing : s.tasks[id]? = some .listing) :
      Becomes s (.list id answer) id (.listed answer s.served.length)
  | ended {step : Step} {id : Nat} : Becomes s step id .done

namespace Becomes

variable {step : Step} {card : CardId}

theorem of_asking (h : Becomes s step id (.asking card)) :
    step = .ask card ∧ id = s.tasks.length ∧ s.cache.fresh? card s.now = none := by
  cases h with
  | asked stale => exact ⟨rfl, rfl, stale⟩

theorem of_listing (h : Becomes s step id .listing) : step = .fetch ∧ id = s.tasks.length := by
  cases h with
  | fetched => exact ⟨rfl, rfl⟩

theorem of_answered {answer : LookupAnswer} {serial : Nat}
    (h : Becomes s step id (.answered card answer serial)) :
    step = .answer id answer ∧ s.tasks[id]? = some (.asking card) := by
  cases h with
  | answered asking => exact ⟨rfl, asking⟩

theorem of_listed {answer : ListAnswer} {serial : Nat} (h : Becomes s step id (.listed answer serial)) :
    step = .list id answer ∧ s.tasks[id]? = some .listing := by
  cases h with
  | listed listing => exact ⟨rfl, listing⟩

/-- The serial number of an answer is its place among the answers given. -/
theorem served {task : Task} {serial : Nat} (h : Becomes s step id task)
    (answered : task.serial? = some serial) : (s.run step).2.served[serial]? = some id := by
  cases h with
  | asked | fetched | ended => cases answered
  | answered asking =>
      cases answered
      simp [run, asking, serve]
  | listed listing =>
      cases answered
      simp [run, listing, serve]

end Becomes

theorem becomes_of_append {new task : Task} (h : (s.tasks ++ [new])[id]? = some task)
    (changed : s.tasks[id]? ≠ some task) : s.tasks.length = id ∧ new = task := by
  by_cases inside : id < s.tasks.length
  · rw [List.getElem?_append_left inside] at h
    exact absurd h changed
  · rw [List.getElem?_append_right (Nat.le_of_not_lt inside), List.getElem?_singleton] at h
    split at h
    · cases h
      exact ⟨by omega, rfl⟩
    · cases h

theorem becomes_of_set {other : Nat} {new task : Task}
    (h : (s.tasks.set other new)[id]? = some task) (changed : s.tasks[id]? ≠ some task) :
    other = id ∧ new = task := by
  by_cases same : other = id
  · subst same
    rw [List.getElem?_set_self'] at h
    obtain ⟨-, -, rfl⟩ := Option.map_eq_some_iff.mp h
    exact ⟨rfl, rfl⟩
  · rw [List.getElem?_set_ne same] at h
    exact absurd h changed

theorem run_becomes {step : Step} {task : Task}
    (h : (s.run step).2.tasks[id]? = some task) (changed : s.tasks[id]? ≠ some task) :
    Becomes s step id task := by
  have does := s.does_run step
  generalize s.run step = after at does h
  -- One task moves in a step; where the list of tasks is the old one nothing has changed.
  cases does with
  | waits | idles => exact absurd h changed
  | remembers =>
      obtain ⟨-, rfl⟩ := becomes_of_append h changed
      exact .ended
  | asks stale =>
      obtain ⟨rfl, rfl⟩ := becomes_of_append h changed
      exact .asked stale
  | fetches =>
      obtain ⟨rfl, rfl⟩ := becomes_of_append h changed
      exact .fetched
  | answers answer asking =>
      obtain ⟨rfl, rfl⟩ := becomes_of_set h changed
      exact .answered asking
  | lists answer listing =>
      obtain ⟨rfl, rfl⟩ := becomes_of_set h changed
      exact .listed listing
  | settles | replaces =>
      obtain ⟨-, rfl⟩ := becomes_of_set h changed
      exact .ended

theorem ended_append (ended : s.tasks[id]? = some .done) (new : Task) :
    (s.tasks ++ [new])[id]? = some .done := by
  obtain ⟨inside, -⟩ := List.getElem?_eq_some_iff.mp ended
  rw [List.getElem?_append_left inside, ended]

theorem ended_set {other : Nat} {old : Task} (ended : s.tasks[id]? = some .done)
    (running : s.tasks[other]? = some old) (live : old ≠ .done) (new : Task) :
    (s.tasks.set other new)[id]? = some .done := by
  have different : other ≠ id := by
    rintro rfl
    exact live (Option.some.inj (running.symm.trans ended))
  rw [List.getElem?_set_ne different, ended]

/-- A task that has ended does not begin again. -/
theorem ended_run {step : Step} (ended : s.tasks[id]? = some .done) :
    (s.run step).2.tasks[id]? = some .done := by
  have does := s.does_run step
  generalize s.run step = after at does ⊢
  cases does with
  | waits | idles => exact ended
  | remembers | asks | fetches => exact ended_append ended _
  | answers answer asking => exact ended_set ended asking (by simp) _
  | lists answer listing => exact ended_set ended listing (by simp) _
  | settles answered => exact ended_set ended answered (by simp) _
  | replaces listed => exact ended_set ended listed (by simp) _

theorem resume_ends {task : Task} {serial : Nat} (h : s.tasks[id]? = some task)
    (answered : task.serial? = some serial) : (s.run (.resume id)).2.tasks[id]? = some .done := by
  obtain ⟨inside, -⟩ := List.getElem?_eq_some_iff.mp h
  have ends : (s.tasks.set id .done)[id]? = some .done := by
    rw [List.getElem?_set_self inside]
  cases task with
  | answered | listed => simpa only [run, h, move] using ends
  | asking | listing | done => cases answered

/-- What tells the cache about a card. -/
inductive Tells (s : Shared) (card : CardId) : Step → Notice → Prop
  | permission {id serial : Nat} {user : UserRef}
      (answered : s.tasks[id]? = some (.answered card (.ok (.allowed user)) serial)) :
      Tells s card (.resume id) ⟨serial, some user⟩
  | list {id serial : Nat} {grants : List Grant}
      (listed : s.tasks[id]? = some (.listed (.ok grants) serial)) :
      Tells s card (.resume id) ⟨serial, lastGrant? card grants⟩

theorem tells_of_notice? {card : CardId} {step : Step} {notice : Notice}
    (h : s.notice? card step = some notice) : Tells s card step notice := by
  cases step with
  | resume id =>
      simp only [notice?] at h
      split at h
      next c user serial answered =>
        split at h
        next same =>
          cases same
          cases h
          exact .permission answered
        next => cases h
      next grants serial listed =>
        cases h
        exact .list listed
      next => cases h
  | wait | ask | fetch | answer | list => cases h

theorem served_run (step : Step) : s.served <+: (s.run step).2.served := by
  have does := s.does_run step
  generalize s.run step = after at does ⊢
  cases does with
  | waits | remembers | asks | fetches | settles | replaces | idles => exact List.prefix_rfl
  | answers | lists => exact List.prefix_append s.served _

theorem tasks_length_run (step : Step) : s.tasks.length ≤ (s.run step).2.tasks.length := by
  have does := s.does_run step
  generalize s.run step = after at does ⊢
  cases does with
  | waits | idles => exact Nat.le_refl _
  | remembers | asks | fetches => simp [begin]
  | answers | lists => simp [serve]
  | settles | replaces => simp [move]

@[simp] theorem run_ask_tasks_length (s : Shared) (card : CardId) :
    (s.run (.ask card)).2.tasks.length = s.tasks.length + 1 := by
  simp only [run]
  split <;> simp [begin]

/-- A call asks the service when it begins, for a card that is not remembered. -/
theorem lookup_mem_run_iff {step : Step} {card : CardId} :
    .lookup id card ∈ (s.run step).1 ↔
      step = .ask card ∧ id = s.tasks.length ∧ s.cache.fresh? card s.now = none := by
  constructor
  · intro h
    have does := s.does_run step
    generalize s.run step = after at does h
    cases does with
    | waits | remembers | fetches | answers | lists | settles | replaces | idles => simp at h
    | asks stale =>
        simp only [List.mem_singleton, Event.lookup.injEq] at h
        obtain ⟨rfl, rfl⟩ := h
        exact ⟨rfl, rfl, stale⟩
  · rintro ⟨rfl, rfl, stale⟩
    simp [run, stale]

theorem countP_run_ask (s : Shared) (card : CardId) :
    (s.run (.ask card)).1.countP (·.isLookupOf s.tasks.length) =
      if (s.cache.fresh? card s.now).isSome then 0 else 1 := by
  simp only [run]
  cases s.cache.fresh? card s.now <;> simp [Event.isLookupOf]

section Alone

variable {W : Type} (source : Source W) (s : Shared) (world : W)

/-- The steps of a call, and below of a refresh, that no other task comes between. -/
def callSteps (card : CardId) : List Step :=
  [.ask card, .answer s.tasks.length (source.lookup card world).1, .resume s.tasks.length]

def refreshSteps : List Step :=
  [.fetch, .list s.tasks.length (source.listAll world).1, .resume s.tasks.length]

/-- A call alone is a decision of the cache, as a refresh alone is a refresh of it. -/
theorem runAll_callSteps (card : CardId) :
    let (result, cache, _) := s.cache.decide source card s.now world
    .reply s.tasks.length card result ∈ (s.runAll (callSteps source s world card)).1 ∧
      (s.runAll (callSteps source s world card)).2.cache = cache := by
  cases fresh : s.cache.fresh? card s.now with
  | some user => simp [callSteps, runAll, run, Cache.decide, begin, fresh]
  | none => simp [callSteps, runAll, run, Cache.decide, begin, serve, move, fresh]

theorem runAll_refreshSteps :
    (s.runAll (refreshSteps source s world)).2.cache = (s.cache.refresh source s.now world).2.1 := by
  simp [refreshSteps, runAll, run, Cache.refresh, begin, serve, move]

end Alone

end Shared

end DoorControl.Access
