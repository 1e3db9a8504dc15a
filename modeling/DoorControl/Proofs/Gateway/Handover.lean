/- How the actions that the gateway asks for are handed over to the door, whatever order the steps on their
link come in. -/
import DoorControl.Proofs.Gateway.Rounds
import Mathlib.Data.Nat.Init

namespace DoorControl.Gateway

namespace Event

def recorded? : Event → Option Action
  | .recorded action _ => action
  | _ => none

def taken? : Event → Option Action
  | .took action => action
  | _ => none

def allowOpen? : Event → Option Bool
  | .recorded _ allowOpen => some allowOpen
  | _ => none

/-- Whether an event leaves the action that the door is to take as it is. -/
def isQuiet : Event → Bool
  | .recorded action _ => action.isNone
  | .took _ => false
  | .saw _ | .ended _ _ => true

end Event

/-- Events that lead from an action that waits for the door, and a flag for the open day, to others. -/
inductive Passes : Option Action → Bool → List Event → Option Action → Bool → Prop
  | nil {a : Option Action} {o : Bool} : Passes a o [] a o
  | recorded {a a' : Option Action} {o o' : Bool} {later : List Event} (action : Option Action)
      (allowOpen : Bool) (rest : Passes (action.or a) allowOpen later a' o') :
      Passes a o (.recorded action allowOpen :: later) a' o'
  | took {a a' : Option Action} {o o' : Bool} {later : List Event} (rest : Passes none o later a' o') :
      Passes a o (.took a :: later) a' o'
  | saw {a a' : Option Action} {o o' : Bool} {later : List Event} (rest : Passes a o later a' o') :
      Passes a o (.saw o :: later) a' o'
  | ended {a a' : Option Action} {o o' : Bool} {later : List Event} (id : Nat)
      (result : Except GatewayError Unit) (rest : Passes a o later a' o') :
      Passes a o (.ended id result :: later) a' o'

namespace Passes

variable {a a' a'' : Option Action} {o o' o'' : Bool} {events later : List Event} {x : Action}

theorem append (h : Passes a o events a' o') (rest : Passes a' o' later a'' o'') :
    Passes a o (events ++ later) a'' o'' := by
  induction h with
  | nil => exact rest
  | recorded action allowOpen _ ih => exact .recorded action allowOpen (ih rest)
  | took _ ih => exact .took (ih rest)
  | saw _ ih => exact .saw (ih rest)
  | ended id result _ ih => exact .ended id result (ih rest)

theorem split (h : Passes a o (events ++ later) a'' o'') :
    ∃ a' o', Passes a o events a' o' ∧ Passes a' o' later a'' o'' := by
  induction events generalizing a o with
  | nil => exact ⟨a, o, .nil, h⟩
  | cons e events ih =>
      cases h with
      | recorded action allowOpen rest =>
          obtain ⟨a', o', first, second⟩ := ih rest
          exact ⟨a', o', .recorded action allowOpen first, second⟩
      | took rest =>
          obtain ⟨a', o', first, second⟩ := ih rest
          exact ⟨a', o', .took first, second⟩
      | saw rest =>
          obtain ⟨a', o', first, second⟩ := ih rest
          exact ⟨a', o', .saw first, second⟩
      | ended id result rest =>
          obtain ⟨a', o', first, second⟩ := ih rest
          exact ⟨a', o', .ended id result first, second⟩

theorem taken_sublist (h : Passes a o events a' o') :
    (events.filterMap Event.taken?).Sublist (a.toList ++ events.filterMap Event.recorded?) := by
  induction h with
  | nil => exact List.nil_sublist _
  | @recorded a _ _ _ _ action _ _ ih =>
      cases action with
      | none => exact ih
      | some action => exact ih.trans (List.sublist_append_right _ _)
  | @took a _ _ _ _ _ ih =>
      cases a with
      | none => exact ih
      | some action => exact ih.cons_cons action
  | saw _ ih | ended _ _ _ ih => exact ih

theorem quiet_keeps (h : Passes a o events a' o') (quiet : ∀ e ∈ events, e.isQuiet = true) :
    a' = a := by
  induction h with
  | nil => rfl
  | @recorded _ _ _ _ _ action _ _ ih =>
      obtain ⟨silent, still⟩ := List.forall_mem_cons.mp quiet
      obtain rfl : action = none := Option.isNone_iff_eq_none.mp silent
      exact ih still
  | took _ _ => cases quiet _ List.mem_cons_self
  | saw _ ih | ended _ _ _ ih => exact ih fun e member => quiet e (List.mem_cons_of_mem _ member)

/-- An action that waits now has waited from the beginning, or since it was taken over. -/
theorem exists_recorded (h : Passes a o events a' o') (waits : a' = some x) :
    (a = some x ∧ ∀ e ∈ events, e.isQuiet = true) ∨
      ∃ before allowOpen after, events = before ++ .recorded (some x) allowOpen :: after ∧
        ∀ e ∈ after, e.isQuiet = true := by
  -- what is found behind an event is found behind it in the longer list too
  have behind {events : List Event} (e : Event)
      (found : ∃ before allowOpen after, events = before ++ .recorded (some x) allowOpen :: after ∧
        ∀ e ∈ after, e.isQuiet = true) :
      ∃ before allowOpen after, e :: events = before ++ .recorded (some x) allowOpen :: after ∧
        ∀ e ∈ after, e.isQuiet = true := by
    obtain ⟨before, allowOpen, after, rfl, quiet⟩ := found
    exact ⟨e :: before, allowOpen, after, rfl, quiet⟩
  induction h with
  | nil => exact .inl ⟨waits, nofun⟩
  | recorded action allowOpen _ ih =>
      obtain ⟨start, quiet⟩ | found := ih waits
      · cases action with
        | none => exact .inl ⟨start, List.forall_mem_cons.mpr ⟨rfl, quiet⟩⟩
        | some action =>
            obtain rfl : action = x := Option.some.inj start
            exact .inr ⟨[], allowOpen, _, rfl, quiet⟩
      · exact .inr (behind _ found)
  | took _ ih =>
      obtain ⟨none, -⟩ | found := ih waits
      · cases none
      · exact .inr (behind _ found)
  | saw _ ih | ended _ _ _ ih =>
      obtain ⟨start, quiet⟩ | found := ih waits
      · exact .inl ⟨start, List.forall_mem_cons.mpr ⟨rfl, quiet⟩⟩
      · exact .inr (behind _ found)

theorem allowOpen_eq (h : Passes a o events a' o') :
    o' = (events.filterMap Event.allowOpen?).getLast?.getD o := by
  induction h with
  | nil => rfl
  | recorded action allowOpen _ ih =>
      rw [List.filterMap_cons, Event.allowOpen?, List.getLast?_cons]
      exact ih
  | took _ ih | saw _ ih | ended _ _ _ ih => exact ih

end Passes

theorem Shared.run_passes (c : Client) (s : Shared) (step : Step) :
    Passes s.link.action s.link.allowOpen (s.run c step).1 (s.run c step).2.link.action
      (s.run c step).2.link.allowOpen := by
  cases step with
  | report | begin => exact .nil
  | take => exact .took .nil
  | look => exact .saw .nil
  | record action allowOpen => exact .recorded action allowOpen .nil
  | answer id reply =>
      have does := s.does_answer c id reply
      generalize s.run c (.answer id reply) = after at does ⊢
      cases does with
      | nothing | asks => exact .nil
      | fails _ e => exact .ended id (.error e) .nil
      | succeeds _ action allowOpen => exact .recorded action allowOpen (.ended id (.ok ()) .nil)

/-- Steps in any order, from a new link on. -/
structure Schedule where
  client : Client
  steps : Nat → Step

namespace Schedule

/-- The steps of a list; after them the door looks on. -/
def ofList (client : Client) (steps : List Step) : Schedule where
  client
  steps n := steps.getD n .look

variable (S : Schedule)

def stateAt : Nat → Shared
  | 0 => {}
  | n + 1 => ((stateAt n).run S.client (S.steps n)).2

def eventsAt (n : Nat) : List Event := ((S.stateAt n).run S.client (S.steps n)).1

def eventsBefore (n : Nat) : List Event := (List.range n).flatMap S.eventsAt

variable {S}

theorem passes_before (n : Nat) : Passes none false (S.eventsBefore n) (S.stateAt n).link.action
    (S.stateAt n).link.allowOpen := by
  induction n with
  | zero => exact .nil
  | succ n ih =>
      rw [eventsBefore, List.range_succ, List.flatMap_append, List.flatMap_singleton]
      exact ih.append (Shared.run_passes S.client (S.stateAt n) (S.steps n))

theorem stateAt_done {id k n : Nat} (done : (S.stateAt k).rounds[id]? = some .done) (later : k ≤ n) :
    (S.stateAt n).rounds[id]? = some .done := by
  induction n, later using Nat.le_induction with
  | base => exact done
  | succ n _ ih => exact Shared.run_done ih (S.steps n)

theorem ended_once {id k n : Nat} {result other : Except GatewayError Unit}
    (first : .ended id result ∈ S.eventsAt k) (second : .ended id other ∈ S.eventsAt n) : k = n := by
  -- Of two ends the later one would find the round done.
  have not_later {k n : Nat} {result other : Except GatewayError Unit}
      (first : .ended id result ∈ S.eventsAt k) (second : .ended id other ∈ S.eventsAt n) : ¬k < n := by
    intro later
    obtain ⟨-, done, -⟩ := Shared.run_ended first
    obtain ⟨waits, -⟩ := Shared.run_ended second
    exact Shared.not_waits_of_done (stateAt_done (k := k + 1) done later) waits
  exact Nat.le_antisymm (Nat.le_of_not_lt (not_later second first))
    (Nat.le_of_not_lt (not_later first second))

/-- No reply to a round that fails changes the link. -/
theorem failed_round_keeps {id k n : Nat} {e : GatewayError} {reply : Http.Reply}
    (fails : .ended id (.error e) ∈ S.eventsAt n) (goes : S.steps k = .answer id reply) :
    (S.stateAt (k + 1)).link = (S.stateAt k).link := by
  have one : (S.stateAt (k + 1)).link = (S.stateAt k).link ∨ .ended id (.ok ()) ∈ S.eventsAt k := by
    rw [stateAt, eventsAt, goes]
    exact Shared.answer_link reply
  obtain same | succeeds := one
  · exact same
  · obtain rfl := ended_once succeeds fails
    exact (Shared.run_ended fails).2.2 e rfl

/-- The door takes the actions that are taken over in their order, each one once at most. What it takes was
taken over since it last took one, and nothing but another action keeps it from taking one. The flag that it
sees is that of the last reply. A round that fails changes neither. -/
theorem actions_are_handed_over (S : Schedule) (n : Nat) :
    ((S.eventsBefore n).filterMap Event.taken?).Sublist
        ((S.eventsBefore n).filterMap Event.recorded?) ∧
      (∀ before x after, S.eventsBefore n = before ++ .took (some x) :: after →
        ∃ earlier allowOpen between, before = earlier ++ .recorded (some x) allowOpen :: between ∧
          ∀ e ∈ between, e.isQuiet = true) ∧
      (∀ before x allowOpen between action after,
        S.eventsBefore n = before ++ .recorded (some x) allowOpen :: (between ++ .took action :: after) →
        (∀ e ∈ between, e.isQuiet = true) → action = some x) ∧
      (∀ before allowOpen after, S.eventsBefore n = before ++ .saw allowOpen :: after →
        allowOpen = (before.filterMap Event.allowOpen?).getLast?.getD false) ∧
      (∀ id e, .ended id (.error e) ∈ S.eventsBefore n → ∀ k reply, S.steps k = .answer id reply →
        (S.stateAt (k + 1)).link = (S.stateAt k).link) ∧
      ∀ {W : Type} (transport : Http.Transport W) (link : Link) (world : W) (e : GatewayError),
        (S.client.sync transport link world).1 = .error e →
        (S.client.sync transport link world).2.1 = link := by
  have passes := S.passes_before n
  refine ⟨by simpa using passes.taken_sublist, ?_, ?_, ?_, ?_, fun _ _ _ _ => Client.sync_of_error⟩
  · intro before x after events
    rw [events] at passes
    obtain ⟨a, o, first, second⟩ := passes.split
    cases second
    obtain ⟨start, -⟩ | found := first.exists_recorded rfl
    · cases start
    · exact found
  · intro before x allowOpen between action after events quiet
    rw [events] at passes
    obtain ⟨a, o, -, second⟩ := passes.split
    cases second with
    | recorded _ _ rest =>
        obtain ⟨a', o', still, taken⟩ := rest.split
        cases taken
        exact still.quiet_keeps quiet
  · intro before allowOpen after events
    rw [events] at passes
    obtain ⟨a, o, first, second⟩ := passes.split
    cases second
    exact first.allowOpen_eq
  · intro id e ended k reply goes
    obtain ⟨m, -, fails⟩ := List.mem_flatMap.mp ended
    exact failed_round_keeps fails goes

/-- The gateway asks for an unlock, then for nothing, and then fails, before the door takes the action. -/
def unlocking : Schedule := ofList (.new "http://gateway" "secret" 10000 3 5000)
  [.begin, .answer 0 (.ok { body := "\x7b\"action\": \"unlock\", \"allow_open\": true\x7d" }),
    .begin, .answer 1 (.ok { body := "\x7b\"allow_open\": true\x7d" }),
    .begin, .answer 2 (.ok { status := 500 }), .take, .take]

theorem unlocking_events : unlocking.eventsBefore 8 =
    [.recorded (some .unlock) true, .ended 0 (.ok ()), .recorded none true, .ended 1 (.ok ()),
      .ended 2 (.error (.status 500))] ++ .took (some .unlock) :: [.took none] := by rfl

/-- The action outlives a reply without one and a round that fails, and is taken once. -/
theorem unlocking_handed_over :
    (unlocking.eventsBefore 8).filterMap Event.taken? = [.unlock] ∧
      (unlocking.stateAt 6).link = (unlocking.stateAt 5).link ∧
      ∃ earlier allowOpen between, (unlocking.eventsBefore 8).take 5 =
        earlier ++ .recorded (some .unlock) allowOpen :: between ∧ ∀ e ∈ between, e.isQuiet = true := by
  obtain ⟨-, source, -, -, kept, -⟩ := unlocking.actions_are_handed_over 8
  refine ⟨by rw [unlocking_events]; rfl, ?_, ?_⟩
  · exact kept 2 (.status 500) (by rw [unlocking_events]; simp) 5 _ rfl
  · have taken := source _ .unlock [.took none] unlocking_events
    rw [unlocking_events]
    exact taken

end Schedule

end DoorControl.Gateway
