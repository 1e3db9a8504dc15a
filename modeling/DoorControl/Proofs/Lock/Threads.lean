/- The poll thread and the commanding thread of a lock session. They take turns in sections under a mutex:
an exchange over the link, or a change of the status. -/
import DoorControl.Proofs.Lock.Attribution

namespace DoorControl.Lock

open Serial
open Text (Utf8.encode)

variable {d : Device}

/-- An exchange leads from `s` to `s'`. -/
structure Session.Leads (s s' : Session (Remote d)) : Prop where
  line : s'.link.port.line = []
  heard : s.heard <+: s'.heard
  status : s'.status = s.status

namespace Session

variable {s s' : Session (Remote d)} {command : Command} {deadline : Nat}

theorem leads_exchange (h : s.link.port.line = []) (command : Command) (timeout : Nat) :
    s.Leads { s with link := (s.link.exchange command.word timeout).2 } where
  line := Link.exchange_line command.word_oneLine h
  heard := by
    change s.link.port.heard <+: (s.link.exchange command.word timeout).2.port.heard
    rw [Link.exchange_eq command.word_oneLine h, ← s.link.sending_later.heard]
    split
    · exact List.prefix_refl _
    · rw [(Link.awaitReply_later _ _ _ _).heard]
      exact List.prefix_append _ _
  status := rfl

theorem leads_fetchStatus {result : Except DeviceError String} (h : s.link.port.line = [])
    (goes : s.fetchStatus = (result, s')) : s.Leads s' := by
  obtain ⟨-, rfl⟩ := Prod.mk.inj goes
  exact leads_exchange h .status s.timing.statusTimeout

theorem leads_exchangeUntil {result : Except DeviceError String} (h : s.link.port.line = [])
    (goes : s.exchangeUntil command deadline = (result, s')) : s.Leads s' := by
  unfold exchangeUntil at goes
  dsimp only at goes
  split at goes
  · obtain ⟨-, rfl⟩ := Prod.mk.inj goes
    exact ⟨h, List.prefix_refl _, rfl⟩
  · obtain ⟨-, rfl⟩ := Prod.mk.inj goes
    exact leads_exchange h command _

theorem leads_commandUntil {result : Except DeviceError Unit} (h : s.link.port.line = [])
    (goes : s.commandUntil command deadline = (result, s')) : s.Leads s' := by
  unfold commandUntil at goes
  split at goes
  · next exchanged =>
      obtain ⟨-, rfl⟩ := Prod.mk.inj goes
      exact leads_exchangeUntil h exchanged
  · next exchanged =>
      have leads := leads_exchangeUntil h exchanged
      split at goes <;> exact (Prod.mk.inj goes).2 ▸ leads

theorem leads_calibrateUntil {result : Except DeviceError Calibration} (h : s.link.port.line = [])
    (goes : s.calibrateUntil deadline = (result, s')) : s.Leads s' := by
  unfold calibrateUntil at goes
  split at goes
  · next exchanged =>
      obtain ⟨-, rfl⟩ := Prod.mk.inj goes
      exact leads_exchangeUntil h exchanged
  · next exchanged =>
      obtain ⟨line, heard, status⟩ := leads_exchangeUntil h exchanged
      split at goes <;> exact (Prod.mk.inj goes).2 ▸ ⟨line, heard, status⟩

end Session

structure Change where
  desired : BoltState
  command : Command
  deadline : Nat
  /-- The lock has refused the command once. -/
  again : Bool := false

/-- What a state change does next: one of its exchanges, or the change of the status. -/
inductive Stage
  | idle
  | calibrating (c : Change)
  | driving (c : Change)
  | acknowledged (desired : BoltState)

/-- The command of a state change leads to the state. -/
def Stage.Drives : Stage → Prop
  | .calibrating c | .driving c => Command.towards? c.desired = some c.command
  | .idle | .acknowledged _ => True

/-- A session and where its threads stand. -/
structure Threads (d : Device) where
  session : Session (Remote d)
  /-- The reply that a poll has fetched and not looked at yet. -/
  fetched : Option String := none
  stage : Stage := .idle

/-- Time passes, a state change is asked for, or one of the threads goes on. -/
inductive Step
  | wait (reads : Nat)
  | poll
  | begin (desired : BoltState)
  | command

inductive Event
  | polled (result : Except DeviceError Status)
  | returned (desired : BoltState) (result : Except DeviceError Unit)

namespace Threads

/-- Time passes on the line, which counts it in reads. -/
def elapse (reads : Nat) (s : Session (Remote d)) : Session (Remote d) :=
  { s with link.port.reads := s.link.port.reads + reads }

/-- The first stage of a state change, if there is a command for it. -/
def opening? (desired : BoltState) (s : Session (Remote d)) : Option Stage :=
  (Command.towards? desired).map fun command =>
    let c : Change := { desired, command, deadline := s.commandDeadline }
    if s.status.bolt = .unknown then .calibrating c else .driving c

/-- A step, and what ends with it. A step that no thread is ready for does nothing. -/
def run (t : Threads d) : Step → List Event × Threads d
  | .wait reads => ([], { t with session := elapse reads t.session })
  | .poll => match t.fetched with
      | none => match t.session.fetchStatus with
          | (.ok reply, session) => ([], { t with session, fetched := some reply })
          | (.error e, session) => ([.polled (.error e)], { t with session })
      | some reply =>
          let (result, session) := t.session.storeStatus reply
          ([.polled result], { t with session, fetched := none })
  | .begin desired => match t.stage with
      | .idle => match opening? desired t.session with
          | some stage => ([], { t with stage })
          | none =>
              ([.returned desired (.error (.other "cannot drive the lock into an unknown state"))], t)
      | _ => ([], t)
  | .command => match t.stage with
      | .idle => ([], t)
      | .calibrating c => match t.session.calibrateUntil c.deadline with
          | (.ok _, session) => ([], { t with session, stage := .driving c })
          | (.error e, session) => ([.returned c.desired (.error e)], { t with session, stage := .idle })
      | .driving c => match t.session.commandUntil c.command c.deadline with
          | (.ok (), session) => ([], { t with session, stage := .acknowledged c.desired })
          | (.error e, session) =>
              if e = .protocol .notCalibrated ∧ c.again = false then
                ([], { t with session, stage := .calibrating { c with again := true } })
              else ([.returned c.desired (.error e)], { t with session, stage := .idle })
      | .acknowledged desired =>
          ([.returned desired (.ok ())],
            { t with session := t.session.storeBolt desired, stage := .idle })

def runAll (t : Threads d) : List Step → List Event × Threads d
  | [] => ([], t)
  | step :: steps =>
      let (events, t) := t.run step
      let (later, t) := t.runAll steps
      (events ++ later, t)

inductive Does (t : Threads d) : Step → List Event × Threads d → Prop
  | waits (reads : Nat) : Does t (.wait reads) ([], { t with session := elapse reads t.session })
  | fetches {reply : String} {session : Session (Remote d)} (free : t.fetched = none)
      (ok : t.session.fetchStatus = (.ok reply, session)) :
      Does t .poll ([], { t with session, fetched := some reply })
  | fails {e : DeviceError} {session : Session (Remote d)} (free : t.fetched = none)
      (failed : t.session.fetchStatus = (.error e, session)) :
      Does t .poll ([.polled (.error e)], { t with session })
  | stores {reply : String} (holds : t.fetched = some reply) :
      Does t .poll ([.polled (t.session.storeStatus reply).1],
        { t with session := (t.session.storeStatus reply).2, fetched := none })
  | opens {desired : BoltState} {stage : Stage} (idle : t.stage = .idle)
      (opening : opening? desired t.session = some stage) : Does t (.begin desired) ([], { t with stage })
  | calibrates {c : Change} {ranges : Calibration} {session : Session (Remote d)}
      (stage : t.stage = .calibrating c)
      (ok : t.session.calibrateUntil c.deadline = (.ok ranges, session)) :
      Does t .command ([], { t with session, stage := .driving c })
  | acknowledges {c : Change} {session : Session (Remote d)} (stage : t.stage = .driving c)
      (ok : t.session.commandUntil c.command c.deadline = (.ok (), session)) :
      Does t .command ([], { t with session, stage := .acknowledged c.desired })
  | retries {c : Change} {e : DeviceError} {session : Session (Remote d)} (stage : t.stage = .driving c)
      (failed : t.session.commandUntil c.command c.deadline = (.error e, session))
      (refused : e = .protocol .notCalibrated ∧ c.again = false) :
      Does t .command ([], { t with session, stage := .calibrating { c with again := true } })
  | givesUp {c : Change} {e : DeviceError} {session : Session (Remote d)}
      (failed : t.stage = .calibrating c ∧ t.session.calibrateUntil c.deadline = (.error e, session) ∨
        t.stage = .driving c ∧ t.session.commandUntil c.command c.deadline = (.error e, session)) :
      Does t .command ([.returned c.desired (.error e)], { t with session, stage := .idle })
  | returns {desired : BoltState} (stage : t.stage = .acknowledged desired) :
      Does t .command ([.returned desired (.ok ())],
        { t with session := t.session.storeBolt desired, stage := .idle })
  | idles {step : Step} {events : List Event} (other : step ≠ .poll)
      (silent : ∀ desired, .returned desired (.ok ()) ∉ events) : Does t step (events, t)

theorem does_run (t : Threads d) (step : Step) : Does t step (t.run step) := by
  cases step with
  | wait reads => exact .waits reads
  | poll =>
      cases holds : t.fetched with
      | some reply => simpa only [run, holds] using Does.stores holds
      | none =>
          cases fetched : t.session.fetchStatus with
          | mk result session =>
              cases result with
              | ok reply => simpa only [run, holds, fetched] using Does.fetches holds fetched
              | error e => simpa only [run, holds, fetched] using Does.fails holds fetched
  | begin desired =>
      cases stage : t.stage with
      | idle =>
          cases opening : opening? desired t.session with
          | some first => simpa only [run, stage, opening] using Does.opens stage opening
          | none => simpa only [run, stage, opening] using Does.idles (by nofun) (by simp)
      | calibrating | driving | acknowledged =>
          simpa only [run, stage] using Does.idles (by nofun) (by simp)
  | command =>
      cases stage : t.stage with
      | idle => simpa only [run, stage] using Does.idles (by nofun) (by simp)
      | calibrating c =>
          cases done : t.session.calibrateUntil c.deadline with
          | mk result session =>
              cases result with
              | ok ranges => simpa only [run, stage, done] using Does.calibrates stage done
              | error e => simpa only [run, stage, done] using Does.givesUp (.inl ⟨stage, done⟩)
      | driving c =>
          cases done : t.session.commandUntil c.command c.deadline with
          | mk result session =>
              cases result with
              | ok => simpa only [run, stage, done] using Does.acknowledges stage done
              | error e =>
                  simp only [run, stage, done]
                  split
                  · next refused => exact .retries stage done refused
                  · exact .givesUp (.inr ⟨stage, done⟩)
      | acknowledged desired => simpa only [run, stage] using Does.returns stage

variable {t : Threads d} {step : Step} {desired : BoltState} {reply : String}

/-- The poll thread takes over the status that its reply reports. -/
structure Stores (t : Threads d) (step : Step) (reply : String) : Prop where
  goes : step = .poll
  holds : t.fetched = some reply
  readable : ∃ status, readStatus reply = .ok status

/-- Only a poll that stores a reply and the end of a state change do more than an exchange. -/
theorem run_session (h : t.session.link.port.line = []) (step : Step) :
    t.session.Leads (t.run step).2.session ∨
      (∃ reply, step = .poll ∧ t.fetched = some reply ∧
        (t.run step).2.session = (t.session.storeStatus reply).2) ∨
      ∃ desired, .returned desired (.ok ()) ∈ (t.run step).1 ∧
        (t.run step).2.session = t.session.storeBolt desired := by
  have does := t.does_run step
  generalize t.run step = after at does ⊢
  cases does with
  | waits | opens | idles => exact .inl ⟨h, List.prefix_refl _, rfl⟩
  | fetches free ok => exact .inl (Session.leads_fetchStatus h ok)
  | fails free failed => exact .inl (Session.leads_fetchStatus h failed)
  | stores holds => exact .inr (.inl ⟨_, rfl, holds, rfl⟩)
  | calibrates stage ok => exact .inl (Session.leads_calibrateUntil h ok)
  | acknowledges stage ok => exact .inl (Session.leads_commandUntil h ok)
  | retries stage failed => exact .inl (Session.leads_commandUntil h failed)
  | givesUp failed =>
      obtain ⟨-, failed⟩ | ⟨-, failed⟩ := failed
      · exact .inl (Session.leads_calibrateUntil h failed)
      · exact .inl (Session.leads_commandUntil h failed)
  | returns stage => exact .inr (.inr ⟨_, List.mem_singleton_self _, rfl⟩)

/-- Only the replies to polls and the ends of state changes are seen in the status. -/
theorem run_status (h : t.session.link.port.line = []) (step : Step) :
    (t.run step).2.session.status = t.session.status ∨ (∃ reply, t.Stores step reply) ∨
      ∃ desired, .returned desired (.ok ()) ∈ (t.run step).1 := by
  obtain leads | ⟨reply, goes, holds, same⟩ | ⟨desired, returned, -⟩ := t.run_session h step
  · exact .inl leads.status
  · cases read : readStatus reply with
    | ok status => exact .inr (.inl ⟨reply, goes, holds, status, read⟩)
    | error e =>
        rw [same, Session.storeStatus, read]
        exact .inl rfl
  · exact .inr (.inr ⟨desired, returned⟩)

/-- No step leaves a command line unfinished, and what the device has heard only grows. -/
theorem run_heard (h : t.session.link.port.line = []) (step : Step) :
    (t.run step).2.session.link.port.line = [] ∧
      t.session.heard <+: (t.run step).2.session.heard := by
  obtain leads | ⟨reply, -, -, same⟩ | ⟨desired, -, same⟩ := t.run_session h step
  · exact ⟨leads.line, leads.heard⟩
  · rw [same, Session.storeStatus]
    split <;> exact ⟨h, List.prefix_refl _⟩
  · rw [same]
    exact ⟨h, List.prefix_refl _⟩

/-- A state change that returns has been acknowledged, and changes the status now. -/
theorem run_returned (h : .returned desired (.ok ()) ∈ (t.run step).1) :
    t.stage = .acknowledged desired ∧ (t.run step).2.session.status.bolt = desired := by
  have does := t.does_run step
  generalize t.run step = after at does h ⊢
  cases does with
  | waits | fetches | fails | stores | opens | calibrates | acknowledges | retries | givesUp => simp at h
  | returns stage =>
      simp only [List.mem_singleton, Event.returned.injEq, and_true] at h
      subst h
      exact ⟨stage, rfl⟩
  | idles _ silent => exact absurd h (silent desired)

/-- A poll holds a reply from the exchange that gives it until it goes on. -/
theorem run_fetched (h : (t.run step).2.fetched = some reply) :
    (t.fetched = some reply ∧ step ≠ .poll) ∨
      step = .poll ∧ t.session.fetchStatus.1 = .ok reply := by
  have does := t.does_run step
  generalize t.run step = after at does h
  cases does with
  | waits | opens | calibrates | acknowledges | retries | givesUp | returns => exact .inl ⟨h, nofun⟩
  | fetches free ok =>
      cases h
      exact .inr ⟨rfl, congrArg Prod.fst ok⟩
  | fails free => simp [free] at h
  | stores => simp at h
  | idles other => exact .inl ⟨h, other⟩

/-- A state change waits for its end from the exchange in which the command was acknowledged. -/
theorem run_acknowledged (h : (t.run step).2.stage = .acknowledged desired) :
    t.stage = .acknowledged desired ∨ step = .command ∧ ∃ c, t.stage = .driving c ∧
      c.desired = desired ∧
      t.session.commandUntil c.command c.deadline = (.ok (), (t.run step).2.session) := by
  have does := t.does_run step
  generalize t.run step = after at does h ⊢
  cases does with
  | waits | fetches | fails | stores | idles => exact .inl h
  | opens idle opening =>
      obtain ⟨command, -, rfl⟩ := Option.map_eq_some_iff.mp opening
      split at h <;> cases h
  | calibrates | retries | givesUp | returns => cases h
  | acknowledges stage ok =>
      cases h
      exact .inr ⟨rfl, _, stage, rfl, ok⟩

theorem run_drives (h : t.stage.Drives) (step : Step) : (t.run step).2.stage.Drives := by
  have does := t.does_run step
  generalize t.run step = after at does ⊢
  cases does with
  | waits | fetches | fails | stores | idles => exact h
  | opens idle opening =>
      obtain ⟨command, towards, rfl⟩ := Option.map_eq_some_iff.mp opening
      split <;> exact towards
  | calibrates stage ok =>
      rw [stage] at h
      exact h
  | retries stage failed =>
      rw [stage] at h
      exact h
  | acknowledges | givesUp | returns => trivial

/-- Left alone, the poll thread polls. -/
theorem runAll_poll (t : Threads d) (free : t.fetched = none) :
    ∃ n, t.runAll (List.replicate n .poll) =
      ([.polled t.session.poll.1], { t with session := t.session.poll.2 }) := by
  unfold Session.poll
  cases fetched : t.session.fetchStatus with
  | mk result session =>
      cases result with
      | error e => exact ⟨1, by simp [runAll, run, free, fetched]⟩
      | ok reply => exact ⟨2, by simp [runAll, run, free, fetched]⟩

/-- Left alone, the commanding thread ends a state change with these results. -/
def Ends (t : Threads d) (desired : BoltState)
    (results : Except DeviceError Unit × Session (Remote d)) : Prop :=
  ∃ n, t.runAll (List.replicate n .command) =
    ([.returned desired results.1], { t with session := results.2, stage := .idle })

theorem Ends.earlier {t t' : Threads d} {desired : BoltState}
    {results : Except DeviceError Unit × Session (Remote d)} (h : t'.Ends desired results)
    (goes : t.run .command = ([], t')) (same : t'.fetched = t.fetched) : t.Ends desired results := by
  obtain ⟨n, done⟩ := h
  refine ⟨n + 1, ?_⟩
  rw [List.replicate_succ, runAll, goes]
  dsimp only
  rw [done, same]
  rfl

theorem ends_at_once {t : Threads d} {desired : BoltState}
    {results : Except DeviceError Unit × Session (Remote d)}
    (goes : t.run .command = ([.returned desired results.1],
      { t with session := results.2, stage := .idle })) : t.Ends desired results := by
  refine ⟨1, ?_⟩
  rw [List.replicate_one, runAll, goes]
  rfl

/-- What a state change makes of its exchanges. -/
def settle (desired : BoltState) :
    Except DeviceError Unit × Session (Remote d) → Except DeviceError Unit × Session (Remote d)
  | (.ok (), s) => (.ok (), s.storeBolt desired)
  | (.error e, s) => (.error e, s)

theorem ends_acknowledged {t : Threads d} {desired : BoltState}
    (stage : t.stage = .acknowledged desired) : t.Ends desired (settle desired (.ok (), t.session)) :=
  ends_at_once (by simp only [run, stage, settle])

theorem ends_again {t : Threads d} {c : Change} (stage : t.stage = .driving c) (again : c.again = true) :
    t.Ends c.desired (settle c.desired (t.session.commandUntil c.command c.deadline)) := by
  cases done : t.session.commandUntil c.command c.deadline with
  | mk result session =>
      cases result with
      | ok =>
          have next := ends_acknowledged (t := { t with session, stage := .acknowledged c.desired }) rfl
          exact next.earlier (by simp only [run, stage, done]) rfl
      | error e => exact ends_at_once (by simp [run, stage, done, again, settle])

/-- A calibration that fails ends the state change, and one that succeeds goes on with the command. -/
theorem ends_calibrating {t : Threads d} {c : Change}
    {results : Except DeviceError Unit × Session (Remote d)} (stage : t.stage = .calibrating c)
    (failed : ∀ e session, t.session.calibrateUntil c.deadline = (.error e, session) →
      results = (.error e, session))
    (ok : ∀ ranges session, t.session.calibrateUntil c.deadline = (.ok ranges, session) →
      Ends { t with session, stage := .driving c } c.desired (settle c.desired results)) :
    t.Ends c.desired (settle c.desired results) := by
  cases done : t.session.calibrateUntil c.deadline with
  | mk result session =>
      cases result with
      | ok ranges => exact (ok ranges session done).earlier (by simp only [run, stage, done]) rfl
      | error e =>
          rw [failed e session done]
          exact ends_at_once (by simp only [run, stage, done, settle])

theorem ends_driving {t : Threads d} {c : Change} (stage : t.stage = .driving c) (first : c.again = false) :
    t.Ends c.desired (settle c.desired (t.session.driveUntil c.command c.deadline)) := by
  unfold Session.driveUntil
  cases done : t.session.commandUntil c.command c.deadline with
  | mk result session =>
      cases result with
      | ok =>
          have next := ends_acknowledged (t := { t with session, stage := .acknowledged c.desired }) rfl
          exact next.earlier (by simp only [run, stage, done]) rfl
      | error e =>
          by_cases refused : e = .protocol .notCalibrated
          · subst refused
            let c' : Change := { c with again := true }
            let t' : Threads d := { t with session, stage := .calibrating c' }
            have goes : t.run .command = ([], t') := by simp [run, stage, done, first, t', c']
            refine Ends.earlier (ends_calibrating (t := t') (c := c') rfl ?_ ?_) goes rfl
            · intro e session done
              dsimp only [t'] at done ⊢
              rw [done]
            · intro ranges session done
              dsimp only [t'] at done ⊢
              rw [done]
              exact ends_again (c := c') rfl rfl
          · have goes : t.run .command =
                ([.returned c.desired (.error e)], { t with session, stage := .idle }) := by
              simp [run, stage, done, refused]
            split
            · next same => exact absurd (Except.error.inj (Prod.mk.inj same).1) refused
            · next same =>
                obtain ⟨rfl, rfl⟩ := Prod.mk.inj same
                exact ends_at_once goes

theorem ends_opening {t : Threads d} {desired : BoltState} {stage : Stage}
    (opening : opening? desired t.session = some stage) :
    Ends { t with stage } desired (settle desired (t.session.driveTo desired)) := by
  unfold opening? at opening
  unfold Session.driveTo
  obtain ⟨command, towards, rfl⟩ := Option.map_eq_some_iff.mp opening
  let c : Change := { desired, command, deadline := t.session.commandDeadline }
  rw [towards]
  dsimp only
  split
  · refine ends_calibrating (c := c) rfl ?_ ?_
    · intro e session done
      dsimp only [c] at done ⊢
      rw [done]
    · intro ranges session done
      dsimp only [c] at done ⊢
      rw [done]
      exact ends_driving (c := c) rfl rfl
  · exact ends_driving (c := c) rfl rfl

/-- Left alone, the commanding thread drives the bolt to a state. -/
theorem runAll_setState (t : Threads d) (idle : t.stage = .idle) (desired : BoltState) :
    ∃ n, t.runAll (.begin desired :: List.replicate n .command) =
      ([.returned desired (t.session.setState desired).1],
        { t with session := (t.session.setState desired).2 }) := by
  have whole : t.session.setState desired = settle desired (t.session.driveTo desired) := by
    unfold Session.setState settle
    split <;> simp_all
  have same (session : Session (Remote d)) :
      ({ t with session } : Threads d) = { t with session, stage := .idle } := by rw [idle]
  rw [whole, same]
  cases opening : opening? desired t.session with
  | some stage =>
      obtain ⟨n, done⟩ := ends_opening opening
      refine ⟨n, ?_⟩
      simp only [runAll, run, idle, opening, done, List.nil_append]
  | none =>
      have towards : Command.towards? desired = none := Option.map_eq_none_iff.mp opening
      have result : t.session.driveTo desired =
          (.error (.other "cannot drive the lock into an unknown state"), t.session) := by
        unfold Session.driveTo
        rw [towards]
      refine ⟨0, ?_⟩
      simp only [runAll, run, idle, opening, result, settle, List.replicate_zero, List.append_nil,
        ← same]

end Threads

end DoorControl.Lock
