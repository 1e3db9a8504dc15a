/- A link that the door and rounds of the exchange with the gateway use at once. A round gives way to the
others where it waits for the gateway, and nowhere else. -/
import DoorControl.Gateway.Client

namespace DoorControl.Gateway

/-- Where a round stands: it waits for the reply to the status, or for the reply to the question. -/
inductive Round
  | telling (status : Status)
  | asking
  | done

/-- The door publishes its status, takes the action or looks whether the day is an open one; a reply is
taken over; a round begins, or goes on with the gateway's reply to it. -/
inductive Step
  | report (status : Status)
  | take
  | look
  | record (action : Option Action) (allowOpen : Bool)
  | begin
  | answer (round : Nat) (reply : Http.Reply)

/-- What is taken over, what the door gets to see, and how rounds end. -/
inductive Event
  | recorded (action : Option Action) (allowOpen : Bool)
  | took (action : Option Action)
  | saw (allowOpen : Bool)
  | ended (round : Nat) (result : Except GatewayError Unit)

/-- How a round has ended. -/
def Event.result? : Event → Option (Except GatewayError Unit)
  | .ended _ result => some result
  | _ => none

/-- A link and the rounds on it, in the order in which they began. -/
structure Shared where
  link : Link := {}
  rounds : List Round := []

/-- The gateway gives this reply to any request. -/
def replying (reply : Http.Reply) : Http.Transport Unit := fun _ world => (reply, world)

namespace Shared

def move (id : Nat) (round : Round) (s : Shared) : Shared :=
  { s with rounds := s.rounds.set id round }

/-- A step, and what can be seen of it. A reply to a round that has ended does nothing. -/
def run (c : Client) (s : Shared) : Step → List Event × Shared
  | .report status => ([], { s with link := s.link.setStatus status })
  | .take =>
      let (action, link) := s.link.takeAction
      ([.took action], { s with link })
  | .look => ([.saw s.link.allowOpen], s)
  | .record action allowOpen =>
      ([.recorded action allowOpen], { s with link := s.link.record action allowOpen })
  | .begin =>
      let round : Round := match s.link.status with
        | some status => .telling status
        | none => .asking
      ([], { s with rounds := s.rounds ++ [round] })
  | .answer id reply => match s.rounds[id]? with
      | some (.telling status) => match (Client.postStatus (replying reply) c status ()).1 with
          | .error e => ([.ended id (.error e)], s.move id .done)
          | .ok () => ([], s.move id .asking)
      | some .asking => match (Client.query (replying reply) c ()).1 with
          | .error e => ([.ended id (.error e)], s.move id .done)
          | .ok q =>
              let action := q.action.bind Action.parse?
              let allowOpen := q.allowOpen.getD false
              ([.recorded action allowOpen, .ended id (.ok ())],
                { s.move id .done with link := s.link.record action allowOpen })
      | some .done | none => ([], s)

def runAll (c : Client) (s : Shared) : List Step → List Event × Shared
  | [] => ([], s)
  | step :: steps =>
      let (events, s) := s.run c step
      let (later, s) := s.runAll c steps
      (events ++ later, s)

def Waits (s : Shared) (id : Nat) : Prop := ∃ round, s.rounds[id]? = some round ∧ round ≠ .done

/-- What a reply to a round can lead to. -/
inductive Does (s : Shared) (id : Nat) : List Event × Shared → Prop
  | nothing : Does s id ([], s)
  | asks (waits : s.Waits id) : Does s id ([], s.move id .asking)
  | fails (waits : s.Waits id) (e : GatewayError) :
      Does s id ([.ended id (.error e)], s.move id .done)
  | succeeds (waits : s.Waits id) (action : Option Action) (allowOpen : Bool) :
      Does s id ([.recorded action allowOpen, .ended id (.ok ())],
        { s.move id .done with link := s.link.record action allowOpen })

theorem does_answer (c : Client) (s : Shared) (id : Nat) (reply : Http.Reply) :
    Does s id (s.run c (.answer id reply)) := by
  cases stage : s.rounds[id]? with
  | none => simpa only [run, stage] using Does.nothing
  | some round =>
      cases round with
      | done => simpa only [run, stage] using Does.nothing
      | telling status =>
          cases told : (Client.postStatus (replying reply) c status ()).1 with
          | error e => simpa only [run, stage, told] using Does.fails ⟨_, stage, nofun⟩ e
          | ok done => simpa only [run, stage, told] using Does.asks ⟨_, stage, nofun⟩
      | asking =>
          cases asked : (Client.query (replying reply) c ()).1 with
          | error e => simpa only [run, stage, asked] using Does.fails ⟨_, stage, nofun⟩ e
          | ok q =>
              simpa only [run, stage, asked] using Does.succeeds ⟨_, stage, nofun⟩
                (q.action.bind Action.parse?) (q.allowOpen.getD false)

variable {c : Client} {s : Shared} {id : Nat}

theorem Waits.move_self (waits : s.Waits id) (round : Round) :
    (s.move id round).rounds[id]? = some round := by
  obtain ⟨before, stage, -⟩ := waits
  exact List.getElem?_set_self (List.getElem?_eq_some_iff.mp stage).1

theorem not_waits_of_done (done : s.rounds[id]? = some .done) : ¬s.Waits id := by
  rintro ⟨round, stage, unfinished⟩
  rw [done] at stage
  exact unfinished (Option.some.inj stage).symm

theorem Waits.move_done {other : Nat} (waits : s.Waits other) (done : s.rounds[id]? = some .done)
    (round : Round) : (s.move other round).rounds[id]? = some .done := by
  have differ : other ≠ id := by
    rintro rfl
    exact not_waits_of_done done waits
  exact (List.getElem?_set_ne differ).trans done

theorem answer_link (reply : Http.Reply) : (s.run c (.answer id reply)).2.link = s.link ∨
    .ended id (.ok ()) ∈ (s.run c (.answer id reply)).1 := by
  have does := s.does_answer c id reply
  generalize s.run c (.answer id reply) = after at does ⊢
  cases does with
  | nothing | asks | fails => exact .inl rfl
  | succeeds => exact .inr (by simp)

/-- A round ends by a reply that it has waited for. -/
theorem run_ended {step : Step} {result : Except GatewayError Unit}
    (ends : .ended id result ∈ (s.run c step).1) :
    s.Waits id ∧ (s.run c step).2.rounds[id]? = some .done ∧
      ∀ e, result = .error e → (s.run c step).2.link = s.link := by
  cases step with
  | report | begin => cases ends
  | take | look | record => simp [run] at ends
  | answer other reply =>
      have does := s.does_answer c other reply
      generalize s.run c (.answer other reply) = after at does ends ⊢
      cases does with
      | nothing | asks => cases ends
      | fails waits e =>
          obtain ⟨rfl, rfl⟩ := Event.ended.inj (List.mem_singleton.mp ends)
          exact ⟨waits, waits.move_self .done, fun _ _ => rfl⟩
      | succeeds waits action allowOpen =>
          obtain ⟨rfl, rfl⟩ : id = other ∧ result = .ok () := by simpa using ends
          exact ⟨waits, waits.move_self .done, nofun⟩

theorem run_done (done : s.rounds[id]? = some .done) (step : Step) :
    (s.run c step).2.rounds[id]? = some .done := by
  cases step with
  | report | take | look | record => exact done
  | begin => exact (List.getElem?_append_left (List.getElem?_eq_some_iff.mp done).1).trans done
  | answer other reply =>
      have does := s.does_answer c other reply
      generalize s.run c (.answer other reply) = after at does ⊢
      cases does with
      | nothing => exact done
      | asks waits => exact waits.move_done done .asking
      | fails waits | succeeds waits => exact waits.move_done done .done

section

variable {W : Type} (transport : Http.Transport W) (c : Client) (link : Link) (world : W)

/-- The replies that a round gets which has the link to itself. -/
def repliesTo : List Http.Reply :=
  match link.status with
  | none => [(transport c.queryRequest world).1]
  | some status =>
      let (reply, world) := transport (c.statusRequest status) world
      match (Client.postStatus (replying reply) c status ()).1 with
      | .error _ => [reply]
      | .ok () => [reply, (transport c.queryRequest world).1]

/-- What a client makes of a reply does not depend on where the reply comes from. -/
theorem postStatus_replying (status : Status) : Client.postStatus transport c status world =
    ((Client.postStatus (replying (transport (c.statusRequest status) world).1) c status ()).1,
      (transport (c.statusRequest status) world).2) := by
  unfold Client.postStatus Client.send replying
  obtain ⟨reply, later⟩ := transport (c.statusRequest status) world
  cases reply <;> rfl

theorem query_replying : Client.query transport c world =
    ((Client.query (replying (transport c.queryRequest world).1) c ()).1,
      (transport c.queryRequest world).2) := by
  unfold Client.query Client.send replying
  obtain ⟨reply, later⟩ := transport c.queryRequest world
  cases reply with
  | error f => rfl
  | ok r =>
      cases success : r.isSuccess with
      | false => simp [success]
      | true => cases body : r.json?.bind Client.query? <;> simp [success, body]

/-- A round that has the link to itself is one of the client's. -/
theorem runAll_sync :
    (runAll c { link } (.begin :: (repliesTo transport c link world).map (.answer 0))).2 =
      { link := (c.sync transport link world).2.1, rounds := [.done] } ∧
    (runAll c { link } (.begin :: (repliesTo transport c link world).map (.answer 0))).1.filterMap Event.result? =
      [(c.sync transport link world).1] := by
  unfold repliesTo Client.sync
  cases status : link.status with
  | none =>
      dsimp only
      rw [query_replying]
      cases asked : (Client.query (replying (transport c.queryRequest world).1) c ()).1 <;>
        simp [runAll, run, status, asked, move, List.filterMap_cons, Event.result?]
  | some told =>
      dsimp only
      rw [postStatus_replying transport c world told]
      cases posted : (Client.postStatus (replying (transport (c.statusRequest told) world).1) c told ()).1 with
      | error e => simp [runAll, run, status, posted, move, Event.result?]
      | ok done =>
          dsimp only
          rw [query_replying transport c]
          cases asked : (Client.query
            (replying (transport c.queryRequest (transport (c.statusRequest told) world).2).1) c ()).1 <;>
              simp [runAll, run, status, posted, asked, move, List.filterMap_cons, Event.result?]

end

end Shared

theorem Client.sync_of_error {W : Type} {transport : Http.Transport W} {c : Client} {link : Link}
    {world : W} {e : GatewayError} (fails : (c.sync transport link world).1 = .error e) :
    (c.sync transport link world).2.1 = link := by
  unfold sync at fails ⊢
  dsimp only at fails ⊢
  split
  · rfl
  · split
    · rfl
    · simp_all

end DoorControl.Gateway
