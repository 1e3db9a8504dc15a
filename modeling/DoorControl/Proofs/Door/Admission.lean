/- A card at a locked door whose permissions come from a cache over the permission service: the service's
word unlocks the door, and nothing that comes in its place does. -/
import DoorControl.Door.Station
import DoorControl.Proofs.Access.Entries
import DoorControl.Proofs.Access.Verdict
import DoorControl.Proofs.Door.Offers

namespace DoorControl.Door

/-- A source of permissions with a cache in front of it, at the time when a door asks about a card. -/
structure Keeper (W : Type) where
  source : Access.Source W
  cache : Access.Cache
  world : W
  now : Nat

namespace Keeper

variable {W : Type}

def access (k : Keeper W) (card : CardId) : AccessResult :=
  (k.cache.decide k.source card k.now k.world).1

/-- What a question of the door leaves of the cache and the world. -/
def perform (k : Keeper W) : Deed → Keeper W
  | .checkCard card =>
      let (_, cache, world) := k.cache.decide k.source card k.now k.world
      { k with cache, world }
  | _ => k

def after (k : Keeper W) (deeds : List Deed) : Keeper W := deeds.foldl perform k

/-- A card that is asked about first is all that matters if no other one is. -/
theorem after_checkCard (k : Keeper W) {card : CardId} {rest : List Deed}
    (h : ∀ other, .checkCard other ∉ rest) :
    (k.after (.checkCard card :: rest)).cache =
      (k.cache.decide k.source card k.now k.world).2.1 := by
  have idle (k : Keeper W) : k.after rest = k := by
    induction rest with
    | nil => rfl
    | cons d rest ih =>
        have hd : k.perform d = k := by
          cases d with
          | checkCard other => exact absurd (List.mem_cons_self) (h other)
          | _ => rfl
        rw [after, List.foldl_cons, hd]
        exact ih (fun other hm => h other (List.mem_cons_of_mem d hm))
  exact congrArg Keeper.cache (idle _)

theorem after_notable (k : Keeper W) (t : Turn) : k.after t.notable = k.after t.deeds := by
  unfold after Turn.notable
  rw [List.foldl_filter]
  congr 1
  funext k d
  cases d with
  | checkCard | driveLock => rfl
  | say | offer => exact ite_self k
  | _ => rfl

end Keeper

namespace Station

variable {W : Type}

def keeper (source : Access.Source W) (s : Station W) : Keeper W := ⟨source, s.cache, s.world, s.now⟩

theorem perform_keeper (source : Access.Source W) (s : Station W) (d : Deed) :
    (s.perform source d).keeper source = (s.keeper source).perform d := by
  cases d <;> rfl

theorem performs_keeper (source : Access.Source W) (s : Station W) (deeds : List Deed) :
    (deeds.foldl (perform source) s).keeper source = (s.keeper source).after deeds := by
  induction deeds generalizing s with
  | nil => rfl
  | cons d deeds ih => exact (ih (s.perform source d)).trans (by rw [perform_keeper]; rfl)

/-- A station answers its door, and changes its cache, as its keeper does. -/
theorem tick_keeper (source : Access.Source W) (s : Station W) (working : s.stopped = false) :
    (s.inputs source).access = (s.keeper source).access ∧
      (s.tick source).keeper source = (s.keeper source).after
        (Door.tick s.settings (s.inputs source) s.state s.outbound s.link).deeds := by
  refine ⟨rfl, ?_⟩
  unfold tick
  rw [if_neg (by simp [working])]
  exact performs_keeper source _ _

end Station

/-- A card at a locked door decides where the door goes. -/
theorem Turn.handleLocked_course_of_card {s : Settings} {i : Snapshot} {t : Turn} {card : CardId}
    (white : i.pressed.white = false) (green : i.pressed.green = false)
    (swiped : i.card = some card) : (handleLocked s i t).state.course =
      if (i.access card).isAllowed then
        { t.state.course with mode := .timed, pendingTimeout := some s.enter }
      else t.state.course := by
  simp [handleLocked, white, green, swiped]

/-- A turn that begins locked with a card, without the gateway's word and the buttons that go before it. -/
structure Moment.Swipe (m : Moment) (state : State) (card : CardId) : Prop where
  locked : state.mode = .locked
  idle : m.link.action = none
  white : (m.snapshot state).pressed.white = false
  green : (m.snapshot state).pressed.green = false
  swiped : m.inputs.card = some card

namespace Moment.Swipe

variable {s : Settings} {m : Moment} {state : State} {card : CardId}

theorem prepared_mode (h : m.Swipe state card) : (m.prepared s state).state.mode = .locked := by
  have remote : (m.snapshot state).remote = none := h.idle
  have hc := congrArg Course.mode (m.prepared_course s state)
  simp only [Course.commanded, remote] at hc
  exact hc.trans h.locked

theorem mode (h : m.Swipe state card) : (m.turn s state).state.mode =
    if (m.inputs.access card).isAllowed then .timed else .locked := by
  have hc := Turn.handleLocked_course_of_card (s := s) (t := m.prepared s state) h.white h.green h.swiped
  have hm := congrArg Course.mode (m.turn_course s state)
  simp only [Turn.handle, h.prepared_mode, hc] at hm
  refine hm.trans ?_
  rw [apply_ite Course.mode]
  exact congrArg (ite _ _) h.prepared_mode

theorem checked (h : m.Swipe state card) :
    Turn.checked s (m.snapshot state) (m.prepared s state).state.mode =
      .checkCard card :: Turn.granted s (m.snapshot state) (m.inputs.access card) := by
  have hasked : asked? (m.snapshot state) .locked = some card := by
    have swiped : (m.snapshot state).card = some card := h.swiped
    simp [asked?, h.white, h.green, swiped]
  simp only [Turn.checked, h.prepared_mode, hasked]
  rfl

/-- What is notable about the turn: the question about the card, what is made known of the answer, and the
lock command if there is one. -/
theorem notable (h : m.Swipe state card) : (m.turn s state).notable =
    .checkCard card :: (Turn.granted s (m.snapshot state) (m.inputs.access card) ++
      if m.drives s state then
        .driveLock (m.turn s state).state.mode.target ::
          Turn.complaints state.lockFailing (m.inputs.drive (m.turn s state).state.mode.target)
      else []) := by
  rw [m.turn_notable, h.checked]
  rfl

theorem after (h : m.Swipe state card) {W : Type} (k : Keeper W) :
    (k.after (m.turn s state).deeds).cache =
      (k.cache.decide k.source card k.now k.world).2.1 := by
  rw [← k.after_notable, h.notable]
  apply k.after_checkCard
  intro other
  cases hc : m.inputs.access card <;> split <;> simp [Turn.granted]

/-- A turn that refuses the card makes no entry known. -/
theorem offers_of_refused (h : m.Swipe state card) (refused : (m.inputs.access card).isAllowed = false)
    {item : Outbox.Item} (offered : .offer item ∈ (m.turn s state).deeds) :
    item.kind ≠ .membership ∧ item.kind ≠ .audit := by
  have granted : Turn.granted s (m.snapshot state) (m.inputs.access card) = [] := by
    cases hc : m.inputs.access card with
    | allowed user => simp [hc, AccessResult.isAllowed] at refused
    | forbidden | unknownCard | error => rfl
  have unnoted : .offer item ∉ (m.turn s state).notable := by
    rw [h.notable, granted]
    split <;> simp
  rw [Turn.notable, List.mem_filter, not_and] at unnoted
  have := unnoted offered
  simp only [Deed.isNotable, Bool.or_eq_true, decide_eq_true_eq, not_or] at this
  exact ⟨this.2, this.1⟩

end Moment.Swipe

/-- A card without a fresh entry unlocks a locked door when a token is there, the service answers with
status 200, and the body says that the card has access and names its owner. In all other cases the door
stays locked, nothing is remembered, the bolt is not driven open and no entry is made known. The queues get
what the turn offers, and nothing else. -/
theorem locked_door_fails_closed {W : Type} {s : Settings} {m : Moment} {state : State} {card : CardId}
    (swipe : m.Swipe state card) {k : Keeper W} {service : Access.Service}
    {transport : Http.Transport W} (source : k.source = service.source transport)
    (access : m.inputs.access = k.access) (missing : k.cache.fresh? card k.now = none) :
    ((m.turn s state).state.mode = .timed ↔ ∃ user, service.Admits transport card k.world user) ∧
    ((¬∃ user, service.Admits transport card k.world user) →
      (m.turn s state).state.mode = .locked ∧
      (k.after (m.turn s state).deeds).cache = k.cache ∧
      .driveLock .unlocked ∉ (m.turn s state).deeds ∧
      ∀ item, .offer item ∈ (m.turn s state).deeds →
        item.kind ≠ .membership ∧ item.kind ≠ .audit) ∧
    (m.turn s state).HandsOver (m.snapshot state) m.outbound := by
  have answer (user : UserRef) : m.inputs.access card = .allowed user ↔
      service.Admits transport card k.world user := by
    rw [access, Keeper.access, Access.Cache.decide_eq_allowed_iff missing, source]
    exact Access.Service.lookup_eq_allowed_iff
  have allowed : (m.inputs.access card).isAllowed = true ↔
      ∃ user, service.Admits transport card k.world user := by
    simp only [← answer]
    cases m.inputs.access card <;> simp [AccessResult.isAllowed]
  refine ⟨?_, ?_, m.turn_handsOver s state⟩
  · rw [swipe.mode, ← allowed]
    cases (m.inputs.access card).isAllowed <;> simp
  · intro refused
    have denied : (m.inputs.access card).isAllowed = false := by
      rw [← allowed] at refused
      simpa using refused
    have locked : (m.turn s state).state.mode = .locked := by simp [swipe.mode, denied]
    refine ⟨locked, ?_, ?_, fun item => swipe.offers_of_refused denied⟩
    · rw [swipe.after]
      apply Access.Cache.decide_cache_of_refused missing
      intro user granted
      rw [source] at granted
      exact refused ⟨user, Access.Service.lookup_eq_allowed_iff.mp granted⟩
    · intro driven
      have := m.turn_drives s state driven
      simp [locked, Mode.target] at this

namespace Keeper

def service : Access.Service := { token := some "secret" }

def answering (body : String) : Http.Transport Unit := fun _ world => (.ok { body }, world)

/-- An empty cache over the service. -/
def keeping (transport : Http.Transport Unit) : Keeper Unit where
  source := service.source transport
  cache := {}
  world := ()
  now := 0

/-- A turn of a locked door with the smallest card. -/
def swipe (k : Keeper Unit) : Moment :=
  let m := Run.greenHeld.moments 0
  { m with inputs := { m.inputs with
      card := some .smallest
      access := k.access } }

/-- A body that names only one of the owner's ids, and one that names both. -/
def partialBody : String := "\x7b\"allowed\": true, \"id\": 42\x7d"

def wholeBody : String := "\x7b\"int_id\": 7, \"allowed\": true, \"door\": [], \"id\": 42\x7d"

theorem swipe_swipe (k : Keeper Unit) :
    k.swipe.Swipe { mode := .locked } .smallest := ⟨rfl, rfl, rfl, rfl, rfl⟩

theorem wholeBody_admits : service.Admits (answering wholeBody) .smallest () ⟨42, 7⟩ := by
  apply Access.Service.lookup_eq_allowed_iff.mp
  decide +kernel

theorem partialBody_refuses (user : UserRef) :
    ¬service.Admits (answering partialBody) .smallest () user := by
  rw [← Access.Service.lookup_eq_allowed_iff]
  have h : (service.lookup (answering partialBody) .smallest ()).1 =
      .error (.malformed "allowed card without user ids") := by decide +kernel
  rw [h]
  simp

/-- Half an owner does not unlock the door, a whole one does. -/
theorem swipe_decided_by_body :
    (keeping (answering partialBody)).swipe.Swipe { mode := .locked } .smallest ∧
    (keeping (answering partialBody)).cache.fresh? .smallest 0 = none ∧
    ((keeping (answering partialBody)).swipe.turn {} { mode := .locked }).state.mode = .locked ∧
    ((keeping (answering wholeBody)).swipe.turn {} { mode := .locked }).state.mode = .timed := by
  have decided (body : String) := locked_door_fails_closed (s := {})
    (swipe_swipe (keeping (answering body))) (k := keeping (answering body)) rfl rfl rfl
  have refused : ¬∃ user, service.Admits (answering partialBody) .smallest () user :=
    fun ⟨user, granted⟩ => partialBody_refuses user granted
  exact ⟨swipe_swipe _, rfl, ((decided partialBody).2.1 refused).1,
    (decided wholeBody).1.mpr ⟨_, wholeBody_admits⟩⟩

end Keeper

end DoorControl.Door
