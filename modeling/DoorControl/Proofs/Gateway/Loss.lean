/- When the exchange with the gateway is given up, whatever the door does to the link meanwhile. -/
import DoorControl.Proofs.Gateway.Handover
import Mathlib.Data.List.DropRight

namespace DoorControl.Gateway

section

variable {c : Client} {results : List (Except GatewayError Unit)} {count : Except GatewayError Nat} {failed : Nat}

/-- The failures at the end of some results. -/
def row (results : List (Except GatewayError Unit)) : List (Except GatewayError Unit) :=
  results.rtakeWhile fun result => !result.isOk

@[simp] theorem row_concat_ok : row (results ++ [.ok ()]) = [] :=
  List.rtakeWhile_concat_neg _ _ _ (by simp [Except.isOk, Except.toBool])

@[simp] theorem row_concat_error (cause : GatewayError) :
    row (results ++ [.error cause]) = row results ++ [.error cause] :=
  List.rtakeWhile_concat_pos _ _ _ (by simp [Except.isOk, Except.toBool])

/-- What is counted of rounds that end with some results: the failures in a row, or that there are too many. -/
inductive Counted (c : Client) (results : List (Except GatewayError Unit)) : Except GatewayError Nat → Prop
  | few (within : (row results).length < c.maxFailures) : Counted c results (.ok (row results).length)
  | many {cause : GatewayError} (last : results.getLast? = some (.error cause))
      (full : (row results).length = c.maxFailures) :
      Counted c results (.error (.tooManyFailures c.maxFailures cause.message))

theorem Counted.next (h : Counted c results (.ok failed)) (result : Except GatewayError Unit) :
    Counted c (results ++ [result]) (c.afterRound failed result) := by
  cases h with
  | few within =>
      cases result with
      | ok =>
          have counted : Counted c (results ++ [.ok ()]) (.ok (row (results ++ [.ok ()])).length) :=
            .few (by simpa using Nat.zero_lt_of_lt within)
          rwa [row_concat_ok] at counted
      | error cause =>
          have longer : (row (results ++ [.error cause])).length = (row results).length + 1 := by simp
          simp only [Client.afterRound]
          split
          · have full : (row results).length + 1 = c.maxFailures := by omega
            rw [full]
            exact .many List.getLast?_concat (longer.trans full)
          · rw [← longer]
            exact .few (by omega)

theorem Counted.error_iff (h : Counted c results count) (e : GatewayError) : count = .error e ↔
    (row results).length = c.maxFailures ∧ ∃ cause, results.getLast? = some (.error cause) ∧
      e = .tooManyFailures c.maxFailures cause.message := by
  cases h with
  | few within => simp [Nat.ne_of_lt within]
  | many last full => simp [last, full, eq_comm]

theorem Counted.ok_iff (h : Counted c results count) (failed : Nat) : count = .ok failed ↔
    (row results).length = failed ∧ failed < c.maxFailures := by
  cases h with
  | few within =>
      rw [Except.ok.injEq]
      exact ⟨fun same => ⟨same, same ▸ within⟩, And.left⟩
  | many last full =>
      refine ⟨nofun, ?_⟩
      rintro ⟨rfl, within⟩
      exact absurd full (Nat.ne_of_lt within)

/-- What is counted of rounds before which there have not been too many failures in a row. -/
structure Tally (c : Client) (results : List (Except GatewayError Unit)) (count : Except GatewayError Nat) :
    Prop where
  counted : Counted c results count
  before : ∀ earlier, earlier <+: results → earlier ≠ results → (row earlier).length < c.maxFailures

theorem Tally.next (h : Tally c results (.ok failed)) (result : Except GatewayError Unit) :
    Tally c (results ++ [result]) (c.afterRound failed result) where
  counted := h.counted.next result
  before earlier first differ := by
    obtain rfl | first := List.prefix_concat_iff.mp first
    · exact absurd rfl differ
    · by_cases same : earlier = results
      · subst same
        cases h.counted with
        | few within => exact within
      · exact h.before earlier first same

end

/-- The door publishes its status, takes the action or looks whether the day is an open one; the next round is due, or
the gateway replies. -/
inductive Occasion
  | report (status : Status)
  | take
  | look
  | due
  | reply (reply : Http.Reply)

/-- The exchange with the gateway, over a link that the door uses meanwhile. One round comes after the other. -/
structure Exchange where
  shared : Shared := {}
  /-- The failed rounds in a row, or why the exchange has ended. -/
  count : Except GatewayError Nat := .ok 0

namespace Exchange

/-- A step on the link, and what its client makes of a round that ends by it. -/
def perform (c : Client) (x : Exchange) (step : Step) : List Event × Exchange :=
  let (events, shared) := x.shared.run c step
  (events, { shared, count := x.count >>= (events.filterMap Event.result?).foldlM c.afterRound })

/-- Whether the next round can begin: the one before has ended, and the exchange has not. -/
def isReady (x : Exchange) : Bool :=
  match x.count, x.shared.rounds with
  | .ok _, [] | .ok _, [.done] => true
  | _, _ => false

/-- The rounds that have ended are forgotten. -/
def afresh (x : Exchange) : Exchange := { x with shared := { link := x.shared.link } }

def run (c : Client) (x : Exchange) : Occasion → List Event × Exchange
  | .report status => x.perform c (.report status)
  | .take => x.perform c .take
  | .look => x.perform c .look
  | .due => if x.isReady then x.afresh.perform c .begin else ([], x)
  | .reply reply => x.perform c (.answer 0 reply)

def runAll (c : Client) (x : Exchange) : List Occasion → List Event × Exchange
  | [] => ([], x)
  | occasion :: later =>
      let (events, x) := x.run c occasion
      let (further, x) := x.runAll c later
      (events ++ further, x)

variable {c : Client} {x : Exchange} {results : List (Except GatewayError Unit)}

theorem count_of_isReady (ready : x.isReady = true) : ∃ failed, x.count = .ok failed := by
  unfold isReady at ready
  split at ready
  · exact ⟨_, ‹_›⟩
  · exact ⟨_, ‹_›⟩
  · cases ready

/-- A step on a link where one round at most waits. -/
inductive Moves (s : Shared) (after : List Event × Shared) : Prop
  | on (silent : after.1.filterMap Event.result? = []) (waits : after.2.Waits 0 → s.Waits 0)
  | ends (waits : s.Waits 0) {result : Except GatewayError Unit}
      (one : after.1.filterMap Event.result? = [result]) (done : ¬after.2.Waits 0)

theorem moves_answer (c : Client) (s : Shared) (reply : Http.Reply) : Moves s (s.run c (.answer 0 reply)) := by
  have does := s.does_answer c 0 reply
  generalize s.run c (.answer 0 reply) = after at does ⊢
  cases does with
  | nothing => exact .on rfl id
  | asks waits => exact .on rfl fun _ => waits
  | fails waits | succeeds waits => exact .ends waits rfl (Shared.not_waits_of_done (waits.move_self .done))

/-- What is counted is what there is to be counted, and no round waits once the exchange has ended. -/
structure Keeps (c : Client) (results : List (Except GatewayError Unit)) (x : Exchange) : Prop where
  tally : Tally c results x.count
  ended : ∀ e, x.count = .error e → ¬x.shared.Waits 0

theorem Keeps.perform (h : Keeps c results x) {step : Step} (moves : Moves x.shared (x.shared.run c step)) :
    Keeps c (results ++ (x.perform c step).1.filterMap Event.result?) (x.perform c step).2 := by
  unfold Exchange.perform
  cases moves with
  | on silent waits =>
      simp only [silent, List.append_nil, List.foldlM_nil, bind_pure]
      exact ⟨h.tally, fun e lost still => h.ended e lost (waits still)⟩
  | ends waits one done =>
      cases counted : x.count with
      -- No round waits that could end after the exchange has.
      | error e => exact absurd waits (h.ended e counted)
      | ok failed =>
          have tally := h.tally
          rw [counted] at tally
          simp only [one, List.foldlM_cons, List.foldlM_nil, bind_pure]
          exact ⟨tally.next _, fun _ _ => done⟩

theorem Keeps.run (h : Keeps c results x) (occasion : Occasion) :
    Keeps c (results ++ (x.run c occasion).1.filterMap Event.result?) (x.run c occasion).2 := by
  cases occasion with
  | report | take | look => exact h.perform (.on rfl id)
  | reply reply => exact h.perform (moves_answer c x.shared reply)
  | due =>
      rw [Exchange.run]
      split
      case isTrue ready =>
        obtain ⟨failed, counted⟩ := count_of_isReady ready
        have silent : (x.afresh.perform c .begin).1.filterMap Event.result? = [] := rfl
        have same : (x.afresh.perform c .begin).2.count = x.count := bind_pure _
        rw [silent, List.append_nil]
        constructor
        · rw [same]
          exact h.tally
        · intro e lost
          rw [same, counted] at lost
          cases lost
      case isFalse => simpa using h

theorem Keeps.runAll (h : Keeps c results x) (occasions : List Occasion) :
    Keeps c (results ++ (x.runAll c occasions).1.filterMap Event.result?) (x.runAll c occasions).2 := by
  induction occasions generalizing x results with
  | nil => simpa [Exchange.runAll] using h
  | cons occasion occasions ih =>
      have rest := ih (h.run occasion)
      rwa [List.append_assoc, ← List.filterMap_append] at rest

/-- What can be seen of an exchange while some things happen to it. A round that succeeds takes over the reply to its
question, and nothing else does. -/
inductive Orderly (c : Client) : List Occasion → List Event → Prop
  | nil : Orderly c [] []
  | silent (occasion : Occasion) {occasions events} (rest : Orderly c occasions events) :
      Orderly c (occasion :: occasions) events
  | took (action : Option Action) {occasions events} (rest : Orderly c occasions events) :
      Orderly c (.take :: occasions) (.took action :: events)
  | saw (allowOpen : Bool) {occasions events} (rest : Orderly c occasions events) :
      Orderly c (.look :: occasions) (.saw allowOpen :: events)
  | fails (reply : Http.Reply) (e : GatewayError) {occasions events} (rest : Orderly c occasions events) :
      Orderly c (.reply reply :: occasions) (.ended 0 (.error e) :: events)
  | succeeds {reply : Http.Reply} {q : Client.Query} (asked : (Client.query (replying reply) c ()).1 = .ok q)
      {occasions events} (rest : Orderly c occasions events) :
      Orderly c (.reply reply :: occasions)
        (.recorded (q.action.bind Action.parse?) (q.allowOpen.getD false) :: .ended 0 (.ok ()) :: events)

theorem recorded_of_answer (s : Shared) (id : Nat) (reply : Http.Reply) (action : Option Action) (allowOpen : Bool)
    (takes : .recorded action allowOpen ∈ (s.run c (.answer id reply)).1) :
    ∃ q, (Client.query (replying reply) c ()).1 = .ok q ∧ action = q.action.bind Action.parse? ∧
      allowOpen = q.allowOpen.getD false := by
  cases stage : s.rounds[id]? with
  | none => simp [Shared.run, stage] at takes
  | some round =>
      cases round with
      | done => simp [Shared.run, stage] at takes
      | telling status =>
          cases told : (Client.postStatus (replying reply) c status ()).1 <;> simp [Shared.run, stage, told] at takes
      | asking =>
          cases asked : (Client.query (replying reply) c ()).1 with
          | error e => simp [Shared.run, stage, asked] at takes
          | ok q =>
              simp only [Shared.run, stage, asked] at takes
              exact ⟨q, rfl, by simpa using takes⟩

theorem orderly_run (x : Exchange) (occasion : Occasion) {occasions : List Occasion} {events : List Event}
    (rest : Orderly c occasions events) :
    Orderly c (occasion :: occasions) ((x.run c occasion).1 ++ events) := by
  cases occasion with
  | report status => exact .silent _ rest
  | take => exact .took _ rest
  | look => exact .saw _ rest
  | due =>
      rw [Exchange.run]
      split <;> exact .silent _ rest
  | reply reply =>
      have source := recorded_of_answer (c := c) x.shared 0 reply
      have does := x.shared.does_answer c 0 reply
      change Orderly c _ ((x.shared.run c (.answer 0 reply)).1 ++ events)
      generalize x.shared.run c (.answer 0 reply) = after at does source ⊢
      cases does with
      | nothing | asks => exact .silent _ rest
      | fails waits e => exact .fails reply e rest
      | succeeds waits action allowOpen =>
          obtain ⟨q, asked, rfl, rfl⟩ := source action allowOpen List.mem_cons_self
          exact .succeeds asked rest

theorem orderly_runAll (x : Exchange) (occasions : List Occasion) : Orderly c occasions (x.runAll c occasions).1 := by
  induction occasions generalizing x with
  | nil => exact .nil
  | cons occasion occasions ih => exact orderly_run x occasion (ih _)

theorem run_passes (x : Exchange) (occasion : Occasion) :
    Passes x.shared.link.action x.shared.link.allowOpen (x.run c occasion).1
      (x.run c occasion).2.shared.link.action (x.run c occasion).2.shared.link.allowOpen := by
  cases occasion with
  | report status => exact Shared.run_passes c x.shared (.report status)
  | take => exact Shared.run_passes c x.shared .take
  | look => exact Shared.run_passes c x.shared .look
  | reply reply => exact Shared.run_passes c x.shared (.answer 0 reply)
  | due =>
      rw [Exchange.run]
      split <;> exact .nil

theorem runAll_passes (x : Exchange) (occasions : List Occasion) :
    Passes x.shared.link.action x.shared.link.allowOpen (x.runAll c occasions).1
      (x.runAll c occasions).2.shared.link.action (x.runAll c occasions).2.shared.link.allowOpen := by
  induction occasions generalizing x with
  | nil => exact .nil
  | cons occasion occasions ih => exact (x.run_passes occasion).append (ih _)

section

variable {W : Type} (transport : Http.Transport W) (c : Client)

/-- What happens to an exchange that has the link to itself, in some rounds at most. -/
def alone : (rounds failed : Nat) → Link → W → List Occasion
  | 0, _, _, _ => []
  | rounds + 1, failed, link, world =>
      let (result, after, later) := c.sync transport link world
      .due :: (Shared.repliesTo transport c link world).map .reply ++
        match c.afterRound failed result with
        | .ok failed => alone rounds failed after later
        | .error _ => []

theorem runAll_append (x : Exchange) (first later : List Occasion) : (x.runAll c (first ++ later)).2 =
    ((x.runAll c first).2.runAll c later).2 := by
  induction first generalizing x with
  | nil => rfl
  | cons occasion first ih => exact ih (x.run c occasion).2

/-- Why an exchange has ended. -/
def loss? (x : Exchange) : Option GatewayError :=
  match x.count with
  | .ok _ => none
  | .error e => some e

theorem run_count (x : Exchange) (occasion : Occasion) : (x.run c occasion).2.count =
    x.count >>= ((x.run c occasion).1.filterMap Event.result?).foldlM c.afterRound := by
  cases occasion with
  | report | take | look | reply => rfl
  | due =>
      rw [run]
      split
      · rfl
      · exact (bind_pure _).symm

theorem runAll_count (x : Exchange) (occasions : List Occasion) : (x.runAll c occasions).2.count =
    x.count >>= ((x.runAll c occasions).1.filterMap Event.result?).foldlM c.afterRound := by
  induction occasions generalizing x with
  | nil => exact (bind_pure _).symm
  | cons occasion occasions ih =>
      simp only [runAll, List.filterMap_append, List.foldlM_append]
      rw [ih, run_count, bind_assoc]

/-- The replies to a round do to the link what they do without the exchange around it. -/
theorem runAll_replies (x : Exchange) (replies : List Http.Reply) :
    (x.runAll c (replies.map .reply)).1 = (x.shared.runAll c (replies.map (.answer 0))).1 ∧
    (x.runAll c (replies.map .reply)).2.shared = (x.shared.runAll c (replies.map (.answer 0))).2 := by
  induction replies generalizing x with
  | nil => exact ⟨rfl, rfl⟩
  | cons reply replies ih =>
      obtain ⟨events, shared⟩ := ih (x.run c (.reply reply)).2
      exact ⟨congrArg _ events, shared⟩

theorem runAll_round {x : Exchange} (ready : x.isReady = true) {failed : Nat} (counted : x.count = .ok failed)
    (world : W) : (x.runAll c (.due :: (Shared.repliesTo transport c x.shared.link world).map .reply)).2 =
      { shared := { link := (c.sync transport x.shared.link world).2.1, rounds := [.done] }
        count := c.afterRound failed (c.sync transport x.shared.link world).1 } := by
  obtain ⟨shared, results⟩ := Shared.runAll_sync transport c x.shared.link world
  obtain ⟨events, same⟩ :=
    runAll_replies c (x.afresh.perform c .begin).2 (Shared.repliesTo transport c x.shared.link world)
  have counts := runAll_count c (x.afresh.perform c .begin).2
    ((Shared.repliesTo transport c x.shared.link world).map .reply)
  have begins : x.run c .due = x.afresh.perform c .begin := if_pos ready
  have one : ((x.afresh.perform c .begin).2.runAll c
      ((Shared.repliesTo transport c x.shared.link world).map .reply)).1.filterMap Event.result? =
        [(c.sync transport x.shared.link world).1] := by
    rw [events]
    exact results
  have still : (x.afresh.perform c .begin).2.count = .ok failed := (bind_pure _).trans counted
  rw [one, still] at counts
  rw [runAll, begins]
  exact congrArg₂ Exchange.mk (same.trans shared) (counts.trans (bind_pure (c.afterRound failed _)))

/-- An exchange that has the link to itself is the one of its client. -/
theorem runAll_alone {x : Exchange} (ready : x.isReady = true) {failed : Nat} (counted : x.count = .ok failed)
    (rounds : Nat) (world : W) :
    ((x.runAll c (alone transport c rounds failed x.shared.link world)).2.loss?,
      (x.runAll c (alone transport c rounds failed x.shared.link world)).2.shared.link) =
    ((c.syncUntilLost transport rounds failed x.shared.link world).1,
      (c.syncUntilLost transport rounds failed x.shared.link world).2.1) := by
  induction rounds generalizing x failed world with
  | zero => simp [alone, runAll, Client.syncUntilLost, loss?, counted]
  | succ rounds ih =>
      -- Both sides go on with what one round leaves of the count, the link and the world.
      have after := runAll_round transport c ready counted world
      rw [alone, Client.syncUntilLost, runAll_append, after]
      cases next : c.afterRound failed (c.sync transport x.shared.link world).1 with
      | error e =>
          simp only [next]
          rfl
      | ok failed =>
          simp only [next]
          exact ih rfl rfl _

end

/-- What can be seen of an exchange over a link, and what it comes to. -/
def course (c : Client) (link : Link) (occasions : List Occasion) : List Event × Exchange :=
  ({ shared := { link } } : Exchange).runAll c occasions

/-- How its rounds have ended so far. -/
def outcomes (c : Client) (link : Link) (occasions : List Occasion) : List (Except GatewayError Unit) :=
  (course c link occasions).1.filterMap Event.result?

theorem tally_course {c : Client} (allowed : 1 ≤ c.maxFailures) (link : Link) (occasions : List Occasion) :
    Tally c (outcomes c link occasions) (course c link occasions).2.count := by
  have start : Keeps c [] { shared := { link } } := {
    tally := { counted := .few allowed, before := fun _ first differ => absurd (List.prefix_nil.mp first) differ }
    ended := nofun }
  exact (start.runAll occasions).tally

/-- The exchange is given up by the last of as many failures in a row as its client puts up with, the first time that
there are so many, with their number and the text of the last one. Until then the failures since the last success
are counted. The link takes over one reply for each round that succeeds, in their order, and nothing else. The
rounds of a client that has the link to itself are one such exchange. -/
theorem given_up_after_failures_in_a_row {c : Client} (allowed : 1 ≤ c.maxFailures) (link : Link)
    (occasions : List Occasion) :
    (∀ e, (course c link occasions).2.count = .error e ↔
      (row (outcomes c link occasions)).length = c.maxFailures ∧
        ∃ cause, (outcomes c link occasions).getLast? = some (.error cause) ∧
          e = .tooManyFailures c.maxFailures cause.message) ∧
    (∀ earlier, earlier <+: outcomes c link occasions → earlier ≠ outcomes c link occasions →
      (row earlier).length < c.maxFailures) ∧
    (∀ failed, (course c link occasions).2.count = .ok failed ↔
      (row (outcomes c link occasions)).length = failed ∧ failed < c.maxFailures) ∧
    Orderly c occasions (course c link occasions).1 ∧
    Passes link.action link.allowOpen (course c link occasions).1
      (course c link occasions).2.shared.link.action (course c link occasions).2.shared.link.allowOpen ∧
    ∀ {W : Type} (transport : Http.Transport W) (rounds : Nat) (world : W),
      ((course c link (alone transport c rounds 0 link world)).2.loss?,
        (course c link (alone transport c rounds 0 link world)).2.shared.link) =
      ((c.syncUntilLost transport rounds 0 link world).1, (c.syncUntilLost transport rounds 0 link world).2.1) := by
  obtain ⟨counted, before⟩ := tally_course allowed link occasions
  refine ⟨counted.error_iff, before, counted.ok_iff, orderly_runAll _ _,
    runAll_passes { shared := { link } } occasions, ?_⟩
  intro W transport rounds world
  exact runAll_alone (x := { shared := { link } }) transport c rfl rfl rounds world

/-- A success between failures, and an action that the door takes meanwhile. -/
def recovering : List Occasion :=
  [.due, .reply (.ok { status := 500 }), .due, .reply (.ok { body := "\x7b\"action\": \"unlock\"\x7d" }), .due, .take,
    .reply (.ok { status := 502 }), .due, .reply (.ok { status := 500 }), .due]

theorem recovering_outcomes : outcomes (.new "http://gateway" "secret" 10000 2 5000) {} recovering =
    [.error (.status 500), .ok (), .error (.status 502), .error (.status 500)] := by rfl

theorem recovering_given_up : 1 ≤ (Client.new "http://gateway" "secret" 10000 2 5000).maxFailures ∧
    (course (.new "http://gateway" "secret" 10000 2 5000) {} recovering).2.count =
      .error (.tooManyFailures 2 "HTTP 500") := by
  have allowed : 1 ≤ (Client.new "http://gateway" "secret" 10000 2 5000).maxFailures := by decide
  obtain ⟨lost, -⟩ := given_up_after_failures_in_a_row allowed {} recovering
  refine ⟨allowed, (lost _).mpr ⟨?_, .status 500, ?_, rfl⟩⟩
  · rw [recovering_outcomes]
    rfl
  · rw [recovering_outcomes]
    rfl

end Exchange

end DoorControl.Gateway
