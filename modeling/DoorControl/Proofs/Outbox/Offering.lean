/- Items offered one after the other: each queue gets those of its kinds, in order. -/
import DoorControl.Outbox.Outbound

namespace DoorControl.Outbox

def Queue.enqueueAll {α : Type} (items : List α) (q : Queue α) : Queue α :=
  items.foldl (fun q x => (q.enqueue x).2) q

def Item.isChat (item : Item) : Bool :=
  match item.kind with
  | .chat _ => true
  | .debug | .audit | .unknownCard | .membership => false

namespace Outbound

def offerAll (items : List Item) (o : Outbound) : Outbound :=
  items.foldl (fun o item => (o.offer item).2) o

variable (items : List Item) (item : Item) (o : Outbound)

theorem offerAll_concat : o.offerAll (items ++ [item]) = ((o.offerAll items).offer item).2 := by
  simp [offerAll]

theorem offerAll_lastStatus : (o.offerAll items).lastStatus = o.lastStatus := by
  induction items generalizing o with
  | nil => rfl
  | cons item items ih => exact (ih _).trans (offer_lastStatus item o)

theorem offerAll_doorName : (o.offerAll items).doorName = o.doorName := by
  induction items generalizing o with
  | nil => rfl
  | cons item items ih => exact (ih _).trans (offer_doorName item o)

/-- The line kept for comparison does not matter where an item goes. -/
theorem offer_withLine (lastStatus : Option String) :
    ({ o with lastStatus }.offer item).2 = { (o.offer item).2 with lastStatus } := by
  unfold offer
  cases item.kind <;> rfl

/-- A queue that gets the items that go to it gets those of several too. -/
theorem offerAll_queue (queue : Outbound → Queue Item) (goes : Item → Bool)
    (one : ∀ item o, queue (o.offer item).2 = if goes item then ((queue o).enqueue item).2 else queue o) :
    queue (o.offerAll items) = (queue o).enqueueAll (items.filter goes) := by
  induction items generalizing o with
  | nil => rfl
  | cons item items ih =>
      refine (ih (o.offer item).2).trans ?_
      rw [one, List.filter_cons]
      split <;> rfl

theorem offerAll_debug :
    (o.offerAll items).debug = o.debug.enqueueAll (items.filter (·.kind = .debug)) := by
  refine offerAll_queue items o debug _ fun item o => ?_
  cases kind : item.kind <;> simp [offer, kind]

theorem offerAll_audit : (o.offerAll items).audit =
    o.audit.enqueueAll (items.filter fun item => item.kind = .audit ∨ item.kind = .unknownCard) := by
  refine offerAll_queue items o audit _ fun item o => ?_
  cases kind : item.kind <;> simp [offer, kind]

theorem offerAll_chat : (o.offerAll items).chat = o.chat.enqueueAll (items.filter Item.isChat) := by
  refine offerAll_queue items o chat _ fun item o => ?_
  cases kind : item.kind <;> simp [offer, kind, Item.isChat]

theorem offerAll_membership :
    (o.offerAll items).membership = o.membership.enqueueAll (items.filter (·.kind = .membership)) := by
  refine offerAll_queue items o membership _ fun item o => ?_
  cases kind : item.kind <;> simp [offer, kind]

end Outbound

end DoorControl.Outbox
