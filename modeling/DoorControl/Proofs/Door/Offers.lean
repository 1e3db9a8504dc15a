/- What a turn hands to the queues: the items that it offers, in order. Those for the chat are its messages in
the door's words. -/
import DoorControl.Proofs.Door.News
import DoorControl.Proofs.Door.Run
import DoorControl.Proofs.Outbox.Offering

namespace DoorControl.Door

open Outbox (Channel Item Outbound)

def Deed.item? : Deed → Option Item
  | .offer item => some item
  | _ => none

namespace Turn

/-- The items that a turn has offered so far, in order. -/
def items (t : Turn) : List Item := t.deeds.filterMap Deed.item?

/-- How a turn goes on from `t`. What it does to the queues is to offer an item, or to word a message as one. -/
inductive Onward (i : Snapshot) (t : Turn) : Turn → Prop
  | refl : Onward i t t
  | state {t' : Turn} (h : Onward i t t') (state : State) : Onward i t { t' with state }
  | link {t' : Turn} (h : Onward i t t') (link : Gateway.Link) : Onward i t { t' with link }
  | overrun {t' : Turn} (h : Onward i t t') (overrun : Bool) : Onward i t { t' with overrun }
  | line {t' : Turn} (h : Onward i t t') (lastStatus : Option String) :
      Onward i t { t' with outbound := { t'.outbound with lastStatus } }
  | act {t' : Turn} (h : Onward i t t') {d : Deed} (quiet : d.isQuiet = true) : Onward i t (act d t')
  | offer {t' : Turn} (h : Onward i t t') {item : Item} (other : item.isChat = false) :
      Onward i t (t'.offer item)
  | say {t' : Turn} (h : Onward i t t') (channel : Channel) (text : String) :
      Onward i t (say i channel text t')

namespace Onward

variable {i : Snapshot} {t t' : Turn} (h : Onward i t t') (s : Settings)

theorem ite {u : Turn} (c : Prop) [Decidable c] (yes : Onward i t t') (no : Onward i t u) :
    Onward i t (if c then t' else u) := by
  split
  · exact yes
  · exact no

include h

theorem setMode (mode : Mode) : Onward i t (Turn.setMode mode t') := h.state _

theorem setDeadline (deadline : Option Nat) : Onward i t (Turn.setDeadline deadline t') := h.state _

theorem startTimeout (ms : Nat) : Onward i t (Turn.startTimeout ms t') := h.state _

theorem askFor (time : Nat) : Onward i t (Turn.askFor time t') := h.overrun _

theorem log (text : String) : Onward i t (Turn.log i text t') := h.offer rfl

theorem send (text : String) : Onward i t (Turn.send i text t') := h.say .monitoring text

theorem setStatus (text : String) (general : Bool) : Onward i t (Turn.setStatus i text general t') := by
  have told (channels : List Channel) {t' : Turn} (h : Onward i t t') :
      Onward i t (channels.foldl (fun t channel => Turn.say i channel text t) t') := by
    induction channels generalizing t' with
    | nil => exact h
    | cons channel channels ih => exact ih (h.say channel text)
  exact told _ (h.line (some text))

theorem setPattern (p : Reader.Pattern) : Onward i t (Turn.setPattern p t') := by
  unfold Turn.setPattern
  exact ite _ h ((h.state _).act rfl)

theorem setSound (sound : Reader.Sound) : Onward i t (Turn.setSound sound t') := by
  unfold Turn.setSound
  exact ite _ h ((h.state _).act rfl)

theorem idlePattern (p : Reader.Pattern) : Onward i t (Turn.idlePattern i p t') := by
  unfold Turn.idlePattern
  split
  · exact ite _ h ((h.state _).setPattern p)
  · exact h.setPattern p

theorem feedback (p : Reader.Pattern) : Onward i t (Turn.feedback s i p t') :=
  ((h.setPattern p).askFor _).state _

theorem showStatus (text : String) (color : Color) : Onward i t (Turn.showStatus text color t') :=
  h.act rfl

theorem showMessage (text : String) (color : Color) : Onward i t (Turn.showMessage s text color t') :=
  h.act rfl

theorem logInputs : Onward i t (Turn.logInputs i t') := by
  have keys {u : Turn} (h : Onward i t u) :
      Onward i t (if i.pressed.any then Turn.log i ("Keys " ++ i.keys.render) u else u) := ite _ (h.log _) h
  unfold Turn.logInputs
  cases i.card with
  | none => exact ite _ (keys h) (((keys h).log _).state _)
  | some card => exact ite _ (keys (h.log _)) (((keys (h.log _)).log _).state _)

theorem pushStatus : Onward i t (Turn.pushStatus s i t') := by
  unfold Turn.pushStatus
  refine ite _ (act ?_ rfl) h
  exact (h.link (t'.link.setStatus (t'.currentStatus i))).state _

theorem leaveOpen : Onward i t (Turn.leaveOpen i t') := by
  unfold Turn.leaveOpen
  exact ite _ (h.setStatus _ true) h

theorem applyRemote (a : Gateway.Action) : Onward i t (Turn.applyRemote s i a t') := by
  have begun (text : String) : Onward i t (Turn.log i text t') := h.log text
  cases a with
  | lock => exact ite _ ((begun _).send _) ((((begun _).send _).leaveOpen.setDeadline none).setMode _)
  | unlock => exact ((((begun _).send _).leaveOpen.setMode _).askFor _).setDeadline _
  | unknown text => exact ((begun _).log _).send _

theorem prepare : Onward i t (Turn.prepare s i t') := by
  have noted := h.logInputs.pushStatus s
  unfold Turn.prepare
  dsimp only
  split
  · exact noted.applyRemote s _
  · exact noted

theorem checkOpenDay : Onward i t (Turn.checkOpenDay s i t') := by
  unfold Turn.checkOpenDay
  exact ite _ ((h.setMode _).setStatus _ true) (h.showMessage s _ _)

theorem checkCard (card : CardId) (unlocks : Bool) : Onward i t (Turn.checkCard s i card unlocks t') := by
  have asked : Onward i t (Turn.act (.checkCard card) t') := h.act rfl
  unfold Turn.checkCard
  cases i.access card with
  | allowed user =>
      refine offer (offer (ite _ ?_ (asked.send _)) rfl) rfl
      exact ((((asked.showMessage s _ _).setPattern _).send _).startTimeout _).setMode _
  | forbidden => exact (((asked.showMessage s _ _).feedback s _).send _).log _
  | unknownCard => exact (((asked.showMessage s _ _).feedback s _).send _).offer rfl
  | error message => exact ((asked.showMessage s _ _).feedback s _).send _

theorem pressLeave : Onward i t (Turn.pressLeave s i t') := (h.send _).startTimeout _

theorem handleLocked : Onward i t (Turn.handleLocked s i t') := by
  have greeted := (((h.idlePattern .ready).setSound .none).showStatus "Locked" .orange).setStatus
    ":lock: Door is locked" false
  unfold Turn.handleLocked
  dsimp only
  split
  · exact greeted.checkOpenDay s
  split
  · exact ((greeted.log _).startTimeout _).setMode _
  split
  · exact greeted.checkCard s _ true
  · exact ite _ ((greeted.pressLeave s).setMode _) greeted

theorem handleOpened : Onward i t (Turn.handleOpened s i t') := by
  have greeted := ((h.idlePattern .opened).setSound .none).showStatus "Open" .green
  have late := ((greeted.log "It is no longer an open day").leaveOpen).setMode .locked
  have closing := ite ((!i.openDay) = true) late
    (ite (i.keys.red = true) (greeted.leaveOpen.setMode .locked) greeted)
  unfold Turn.handleOpened
  dsimp only
  split
  · exact closing.checkCard s _ false
  · exact closing

theorem warnClosing : Onward i t (Turn.warnClosing s i t') := by
  unfold Turn.warnClosing
  exact ite _ (((h.setPattern _).setSound _).showStatus _ _) (h.showStatus _ _)

theorem handleTimed : Onward i t (Turn.handleTimed s i t') := by
  have white := ite (i.pressed.white = true) (h.checkOpenDay s) h
  unfold Turn.handleTimed
  refine ite _ ((h.setDeadline none).setMode _) ?_
  dsimp only
  refine ite _ (white.setDeadline none) ?_
  exact ite _ ((white.pressLeave s).setSound _) (white.warnClosing s)

theorem handle : Onward i t (Turn.handle s i t') := by
  unfold Turn.handle
  split
  · exact (h.setPattern _).setMode _
  · exact h.handleLocked s
  · exact h.handleOpened s
  · exact h.handleTimed s

theorem handleMode : Onward i t (Turn.handleMode s i t') := by
  unfold Turn.handleMode
  exact ite _ (h.handle s) ((h.handle s).log _)

theorem armDeadline : Onward i t (Turn.armDeadline i t') := by
  unfold Turn.armDeadline
  split
  · exact h
  · exact ((h.log _).askFor _).state _

theorem driveLock : Onward i t (Turn.driveLock s i t') := by
  have driven (target : Lock.BoltState) : Onward i t (Turn.act (.driveLock target) t') := h.act rfl
  unfold Turn.driveLock
  refine ite _ h ?_
  unfold answerLock
  split
  · exact (driven _).state _
  · refine ite _ ?_ (send ?_ _)
    all_goals exact (((driven _).log _).askFor _).state _

end Onward

/-- The queues after a turn are the queues `o` that it has found, with its items offered to them in order; only
the line kept for comparison may be another one. So each queue has got the items of its kinds. The items for
the chat are what the turn has said. -/
structure HandsOver (i : Snapshot) (o : Outbound) (t : Turn) : Prop where
  outbound : t.outbound = { o.offerAll t.items with lastStatus := t.outbound.lastStatus }
  debug : t.outbound.debug = o.debug.enqueueAll (t.items.filter (·.kind = .debug))
  audit : t.outbound.audit =
    o.audit.enqueueAll (t.items.filter fun item => item.kind = .audit ∨ item.kind = .unknownCard)
  chat : t.outbound.chat = o.chat.enqueueAll t.news.chatted
  membership : t.outbound.membership = o.membership.enqueueAll (t.items.filter (·.kind = .membership))
  said : t.news.chatted = t.news.said.map fun (channel, text) => o.chatItem channel text i.wall

variable {i : Snapshot} {o : Outbound} {t t' : Turn}

theorem chatted_eq : t.news.chatted = t.items.filter Item.isChat := by
  rw [items, List.filter_filterMap]
  refine List.filterMap_congr fun d _ => ?_
  cases d with
  | offer item => cases kind : item.kind <;>
      simp [Deed.item?, Deed.chatItem?, Option.filter_some, Item.isChat, kind]
  | _ => rfl

theorem chatItem?_offer {item : Item} (other : item.isChat = false) : Deed.chatItem? (.offer item) = none := by
  cases kind : item.kind <;> simp_all [Deed.chatItem?, Item.isChat]

theorem items_act {d : Deed} (other : d.item? = none) : (act d t).items = t.items := by
  simp [items, act, other]

theorem items_offer (item : Item) : (t.offer item).items = t.items ++ [item] := by
  simp [items, offer, act, Deed.item?]

/-- What an item adds to the queues is what it adds to the ones found with the earlier items in them. -/
theorem outbound_offer (h : t.outbound = { o.offerAll t.items with lastStatus := t.outbound.lastStatus })
    (item : Item) : (t.offer item).outbound =
      { o.offerAll (t.offer item).items with lastStatus := (t.offer item).outbound.lastStatus } := by
  have line : (t.offer item).outbound.lastStatus = t.outbound.lastStatus :=
    Outbound.offer_lastStatus item t.outbound
  rw [line, items_offer, Outbound.offerAll_concat, ← Outbound.offer_withLine, ← h]
  rfl

theorem Onward.outbound_eq (h : Onward i t t')
    (start : t.outbound = { o.offerAll t.items with lastStatus := t.outbound.lastStatus }) :
    t'.outbound = { o.offerAll t'.items with lastStatus := t'.outbound.lastStatus } := by
  -- Only an item that is offered changes a queue, and a message is an item that is offered at once.
  induction h with
  | refl => exact start
  | state _ _ ih | link _ _ ih | overrun _ _ ih => exact ih
  | line _ lastStatus ih => exact congrArg ({ · with lastStatus }) ih
  | @act t' _ d quiet ih =>
      have other : d.item? = none := by cases d <;> simp_all [Deed.isQuiet, Deed.item?]
      have same : (Turn.act d t').items = t'.items := items_act other
      rw [same]
      exact ih
  | offer _ _ ih => exact outbound_offer ih _
  | @say t' _ channel text ih =>
      have same : (Turn.act (.say channel text) t').items = t'.items := items_act rfl
      refine outbound_offer (t := Turn.act (.say channel text) t') ?_ _
      rw [same]
      exact ih

theorem Onward.doorName_eq (h : Onward i t t') : t'.outbound.doorName = t.outbound.doorName := by
  induction h with
  | refl => rfl
  | state _ _ ih | link _ _ ih | overrun _ _ ih | line _ _ ih | act _ _ ih => exact ih
  | offer _ _ ih | say _ _ _ ih => exact (Outbound.offer_doorName _ _).trans ih

theorem Onward.said_eq (h : Onward i t t')
    (start : t.news.chatted = t.news.said.map fun (channel, text) => t.outbound.chatItem channel text i.wall) :
    t'.news.chatted = t'.news.said.map fun (channel, text) => t.outbound.chatItem channel text i.wall := by
  induction h with
  | refl => exact start
  | state _ _ ih | link _ _ ih | overrun _ _ ih | line _ _ ih => exact ih
  | act _ quiet ih =>
      rw [act_news quiet]
      exact ih
  | offer _ other ih =>
      rw [offer_news _ (chatItem?_offer other)]
      exact ih
  | say before channel text ih =>
      rw [say_news]
      simp [ih, Outbound.chatItem_congr before.doorName_eq]

/-- A turn that has begun with nothing done hands over what it does. -/
theorem Onward.handsOver (h : Onward i t t') (begun : t.deeds = []) : t'.HandsOver i t.outbound := by
  have none : t.items = [] := by rw [items, begun, List.filterMap_nil]
  have outbound := h.outbound_eq (o := t.outbound) (by rw [none]; rfl)
  have said := h.said_eq (by simp [news, begun])
  refine ⟨outbound, ?_, ?_, ?_, ?_, said⟩
  · exact (congrArg Outbound.debug outbound).trans (Outbound.offerAll_debug t'.items t.outbound)
  · exact (congrArg Outbound.audit outbound).trans (Outbound.offerAll_audit t'.items t.outbound)
  · rw [chatted_eq]
    exact (congrArg Outbound.chat outbound).trans (Outbound.offerAll_chat t'.items t.outbound)
  · exact (congrArg Outbound.membership outbound).trans (Outbound.offerAll_membership t'.items t.outbound)

theorem HandsOver.doorName_eq (h : t.HandsOver i o) : t.outbound.doorName = o.doorName :=
  (congrArg Outbound.doorName h.outbound).trans (Outbound.offerAll_doorName t.items o)

end Turn

theorem Moment.turn_handsOver (m : Moment) (s : Settings) (state : State) :
    (m.turn s state).HandsOver (m.snapshot state) m.outbound := by
  have begun : Turn.Onward (m.snapshot state) (m.begun state) (m.begun state) := .refl
  have ended := (((begun.prepare s).handleMode s).armDeadline).driveLock s
  exact ended.handsOver rfl

/-- What the turns of a run offer is handed to the queues that each of them finds. -/
theorem Run.turnAt_handsOver (r : Run) (n : Nat) :
    (r.turnAt n).HandsOver (r.snapshotAt n) (r.moments n).outbound :=
  (r.moments n).turn_handsOver r.settings (r.stateAt n)

end DoorControl.Door
