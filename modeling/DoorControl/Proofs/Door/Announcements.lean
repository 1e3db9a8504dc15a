/- What a door announces to everyone in a run: by turns that the space is open, and that it no longer is. -/
import DoorControl.Proofs.Door.Heralding
import DoorControl.Proofs.Door.Offers

namespace DoorControl.Door

open Outbox (Channel Item Outbound)

namespace Run

/-- Nobody else uses the means by which the door sends status lines. -/
structure SoleNotifier (r : Run) : Prop where
  new : (r.moments 0).outbound.lastStatus = none
  line : ∀ n, (r.moments (n + 1)).outbound.lastStatus = (r.turnAt n).outbound.lastStatus
  name : ∀ n, (r.moments (n + 1)).outbound.doorName = (r.turnAt n).outbound.doorName

variable (r : Run) (n : Nat)

def changesAt : List Bool := (r.moments n).changes r.settings (r.stateAt n)

def changesBefore : List Bool := (List.range n).flatMap r.changesAt

def saidBefore : List (Channel × String) := (List.range n).flatMap fun k => (r.turnAt k).news.said

def chattedBefore : List Item := (List.range n).flatMap fun k => (r.turnAt k).news.chatted

variable {r}

theorem turnAt_heralds (sole : r.SoleNotifier) :
    (r.turnAt n).Heralds ((r.stateAt n).mode = .opened) (r.changesAt n) := by
  refine Moment.turn_heralds r.settings (r.moments n) (r.stateAt n) ?_
  -- A turn hands on what it needs itself: a line kept for comparison that fits its mode.
  induction n with
  | zero => simp [sole.new, stateAt]
  | succ n ih =>
      rw [sole.line]
      have told := Moment.turn_heralds r.settings (r.moments n) (r.stateAt n) ih
      exact told.line.trans decide_eq_true_iff

theorem announces_before (sole : r.SoleNotifier) :
    Announces false (r.saidBefore n) (r.changesBefore n) ((r.stateAt n).mode = .opened) := by
  induction n with
  | zero => exact .silent
  | succ n ih =>
      unfold saidBefore changesBefore
      rw [List.range_succ, List.flatMap_append, List.flatMap_append, List.flatMap_singleton,
        List.flatMap_singleton]
      exact ih.append (turnAt_heralds n sole).announces

theorem doorName_eq (sole : r.SoleNotifier) :
    (r.moments n).outbound.doorName = (r.moments 0).outbound.doorName := by
  induction n with
  | zero => rfl
  | succ n ih =>
      rw [sole.name, ← ih]
      exact (r.turnAt_handsOver n).doorName_eq

/-- The items are the messages, in the door's words. -/
theorem chattedBefore_eq (sole : r.SoleNotifier) :
    (r.chattedBefore n).map (fun item => (item.kind, item.text)) =
      (r.saidBefore n).map fun (channel, text) =>
        (.chat channel, ((r.moments 0).outbound.chatItem channel text 0).text) := by
  unfold chattedBefore saidBefore
  rw [List.map_flatMap, List.map_flatMap]
  congr 1
  funext k
  rw [(r.turnAt_handsOver k).said, List.map_map]
  congr 1
  funext message
  simp only [Function.comp, Outbound.chatItem_congr (doorName_eq k sole)]
  rfl

theorem announcement_fits {o : Outbound} (nameless : o.doorName = none) (isOpen : Bool) :
    (o.chatItem .general (announcement isOpen) 0).text = announcement isOpen := by
  unfold Outbound.chatItem
  rw [nameless]
  cases isOpen <;> decide

theorem chattedBefore_nameless (sole : r.SoleNotifier) (nameless : (r.moments 0).outbound.doorName = none) :
    ((r.chattedBefore n).filter (·.kind = .chat .general)).map Item.text =
      (r.changesBefore n).map announcement := by
  let everyone? : Outbox.ItemKind × String → Option String
    | (kind, text) => if kind = .chat .general then some text else none
  have items (items : List Item) : (items.filter (·.kind = .chat .general)).map Item.text =
      (items.map fun item => (item.kind, item.text)).filterMap everyone? := by
    induction items with
    | nil => rfl
    | cons item items ih => by_cases general : item.kind = .chat .general <;> simp [everyone?, general, ih]
  have told := announces_before n sole
  -- Other messages may be too long for an item, but all of those to everyone are announcements.
  rw [items, chattedBefore_eq n sole, ← told.general_eq, List.filterMap_map]
  refine List.filterMap_congr ?_
  intro (channel, text) message
  cases channel with
  | monitoring => rfl
  | general =>
      have announced : text ∈ (r.changesBefore n).map announcement := by
        rw [← told.general_eq]
        exact List.mem_filterMap.mpr ⟨_, message, rfl⟩
      obtain ⟨isOpen, -, rfl⟩ := List.mem_map.mp announced
      simp [everyone?, general?, announcement_fits nameless]

/-- Everyone is told of each change of the space, once and in order: by turns that it is open, and that it
no longer is. Those who watch over the door are told the same right before. After each turn the last news
is that the space is open just if it is. The items that each turn puts into the queue for the chat are its
messages in the door's words, which are the same if the door has no name. -/
theorem space_announcements_alternate (sole : r.SoleNotifier) (n : Nat) :
    (r.saidBefore n).filterMap general? = (r.changesBefore n).map announcement ∧
      (∀ j isOpen, (r.changesBefore n)[j]? = some isOpen → isOpen = decide (j % 2 = 0)) ∧
      (∀ before after text, r.saidBefore n = before ++ (.general, text) :: after →
        before.getLast? = some (.monitoring, text)) ∧
      (((r.saidBefore n).filterMap general?).getLast? = some Outbound.openText ↔
        (r.stateAt n).mode = .opened) ∧
      (∀ k, (r.turnAt k).outbound.chat = (r.moments k).outbound.chat.enqueueAll (r.turnAt k).news.chatted) ∧
      (r.chattedBefore n).map (fun item => (item.kind, item.text)) =
        ((r.saidBefore n).map fun (channel, text) =>
          (.chat channel, ((r.moments 0).outbound.chatItem channel text 0).text)) ∧
      ((r.moments 0).outbound.doorName = none →
        ((r.chattedBefore n).filter (·.kind = .chat .general)).map Item.text =
          (r.changesBefore n).map announcement) := by
  have told := announces_before n sole
  refine ⟨told.general_eq, ?_, ?_, ?_, fun k => (r.turnAt_handsOver k).chat, chattedBefore_eq n sole,
    chattedBefore_nameless n sole⟩
  · intro j isOpen found
    simpa using told.changes_alternate found
  · intro before after text split
    exact told.general_follows split
  · have last := told.changes_last
    rw [told.general_eq, List.getLast?_map, ← decide_eq_true_iff (p := (r.stateAt n).mode = .opened),
      ← last]
    have differ : Outbound.closedText ≠ Outbound.openText := by decide
    cases (r.changesBefore n).getLast? with
    | none => simp
    | some isOpen => cases isOpen <;> simp [announcement, differ]

/-- The state and the queues before a turn, if nobody else touches the queues and the gateway is silent. -/
def alone (settings : Settings) (outbound : Outbound) (inputs : Nat → Inputs) : Nat → State × Outbound
  | 0 => ({}, outbound)
  | n + 1 =>
      let (state, outbound) := alone settings outbound inputs n
      let t := tick settings (inputs n) state outbound {}
      (t.state, t.outbound)

def ofInputs (settings : Settings) (outbound : Outbound) (inputs : Nat → Inputs) : Run where
  settings
  moments n := ⟨inputs n, (alone settings outbound inputs n).2, {}⟩

theorem ofInputs_sole (settings : Settings) {outbound : Outbound} (inputs : Nat → Inputs)
    (new : outbound.lastStatus = none) : (ofInputs settings outbound inputs).SoleNotifier := by
  have state (n : Nat) :
      (ofInputs settings outbound inputs).stateAt n = (alone settings outbound inputs n).1 := by
    induction n with
    | zero => rfl
    | succ n ih =>
        unfold stateAt
        rw [ih]
        rfl
  have same (n : Nat) : ((ofInputs settings outbound inputs).moments (n + 1)).outbound =
      ((ofInputs settings outbound inputs).turnAt n).outbound := by
    unfold turnAt
    rw [state]
    rfl
  exact ⟨new, fun n => congrArg _ (same n), fun n => congrArg _ (same n)⟩

/-- On an open day the white button goes down in the second turn, and the red one in the third. -/
def visit (doorName : Option String) : Run := ofInputs {}
  { debug := { capacity := 1 }, audit := { capacity := 1 }, chat := { capacity := 1 }
    membership := { capacity := 1 }, doorName }
  fun n => {
    now := n
    wall := 0
    weekday := .thursday
    keys := { white := decide (n = 1), red := decide (2 ≤ n) }
    lock := {}
    bolt := .unknown
    card := none
    access _ := .forbidden
    drive _ := .ok () }

theorem visit_sole (doorName : Option String) : (visit doorName).SoleNotifier := ofInputs_sole {} _ rfl

theorem visit_announced : (visit none).SoleNotifier ∧ ((visit none).stateAt 2).mode = .opened ∧
    (((visit none).chattedBefore 4).filter (·.kind = .chat .general)).map Item.text =
      [Outbound.openText, Outbound.closedText] := by
  have sole : (visit none).SoleNotifier := visit_sole none
  obtain ⟨-, -, -, -, -, -, nameless⟩ := space_announcements_alternate sole 4
  exact ⟨sole, by rfl, (nameless rfl).trans (by rfl)⟩

/-- A door with a name does not put the announcements into the queue as they are. -/
theorem named_visit_differs : ¬ ∀ r : Run, r.SoleNotifier → ∀ n j text,
    (((r.chattedBefore n).filter (·.kind = .chat .general)).map Item.text)[j]? = some text →
      text = announcement (j % 2 = 0) := by
  intro plain
  have item : ((((visit (some "front")).chattedBefore 2).filter (·.kind = .chat .general)).map
      Item.text)[0]? = some "front: :tada: The space is now open!" := by rfl
  have same := plain (visit (some "front")) (visit_sole _) 2 0 _ item
  exact absurd same (by decide)

end Run

end DoorControl.Door
