/- Actions of the gateway that the door does not carry out: it remarks on them, and the turn takes the course
that it takes without them. -/
import DoorControl.Proofs.Door.Abreast
import DoorControl.Proofs.Door.Offers

namespace DoorControl.Door

open Outbox (Item Outbound)

/-- Whether a deed is a line for the log, or a message for the chat. -/
def Deed.isRemark : Deed → Bool
  | .say _ _ => true
  | .offer item => match item.kind with
      | .debug | .chat _ => true
      | .audit | .unknownCard | .membership => false
  | _ => false

/-- The actions that the door does not carry out. -/
def Refused (i : Inputs) : Gateway.Action → Prop
  | .lock => i.lock.doorOpen = true
  | .unlock => False
  | .unknown _ => True

theorem Alike.offer_remark {o o' : Outbound} (alike : Alike o o') {item : Item}
    (remark : (Deed.offer item).isRemark = true) : Alike o (o'.offer item).2 := by
  unfold Outbound.offer
  cases kind : item.kind with
  | debug | chat => exact ⟨alike.audit, alike.membership, alike.doorName, alike.lastStatus⟩
  | audit | unknownCard | membership => simp [Deed.isRemark, kind] at remark

/-- A turn that has gone on from `t` with remarks only. -/
structure Remarks (t t' : Turn) : Prop where
  state : t'.state = t.state
  link : t'.link = t.link
  overrun : t'.overrun = t.overrun
  outbound : Alike t.outbound t'.outbound
  deeds : ∃ added, t'.deeds = t.deeds ++ added ∧ ∀ d ∈ added, d.isRemark = true

namespace Remarks

variable {t t' : Turn} (i : Snapshot)

theorem refl (t : Turn) : Remarks t t := ⟨rfl, rfl, rfl, .refl _, [], by simp⟩

theorem abreast (h : Remarks t t') : ∃ added, (∀ d ∈ added, d.isRemark = true) ∧
    Abreast t.deeds (t.deeds ++ added) t t' := by
  obtain ⟨added, deeds, remarks⟩ := h.deeds
  exact ⟨added, remarks, h.state, h.link, h.overrun, h.outbound, [], by simp, by simp [deeds]⟩

variable (h : Remarks t t')

include h

theorem act {d : Deed} (remark : d.isRemark = true) : Remarks t (Turn.act d t') := by
  obtain ⟨added, deeds, remarks⟩ := h.deeds
  refine ⟨h.state, h.link, h.overrun, h.outbound, added ++ [d], by simp [Turn.act, deeds], ?_⟩
  intro e mem
  obtain before | rfl := by simpa using mem
  · exact remarks e before
  · exact remark

theorem offer {item : Item} (remark : (Deed.offer item).isRemark = true) :
    Remarks t (Turn.offer item t') :=
  ⟨h.state, h.link, h.overrun, h.outbound.offer_remark remark, (h.act remark).deeds⟩

theorem log (text : String) : Remarks t (Turn.log i text t') := h.offer rfl

theorem send (text : String) : Remarks t (Turn.send i text t') := Remarks.offer (h.act rfl) rfl

end Remarks

namespace Turn

variable (s : Settings) (i : Snapshot) (t : Turn)

theorem applyRemote_remarks {a : Gateway.Action}
    (refused : Refused i.toInputs a) : Remarks t (applyRemote s i a t) := by
  have begun (text : String) := (Remarks.refl t).log i text
  cases a with
  | lock =>
      have doorOpen : i.lock.doorOpen = true := refused
      unfold applyRemote
      dsimp only
      rw [if_pos doorOpen]
      exact (begun _).send i _
  | unlock => exact refused.elim
  | unknown text => exact ((begun _).log i _).send i _

theorem prepare_of_asked {a : Gateway.Action} (asks : i.remote = some a) :
    prepare s i t = (t.logInputs i |>.pushStatus s i).applyRemote s i a := by
  unfold prepare
  rw [asks]

/-- The handlers do not look at the gateway's action. -/
theorem handle_remote (remote : Option Gateway.Action) :
    handle s { i with remote } t = handle s i t := rfl

theorem handleMode_remote (remote : Option Gateway.Action) :
    handleMode s { i with remote } t = handleMode s i t := by
  unfold handleMode
  rw [handle_remote]
  rfl

end Turn

namespace Moment

variable (s : Settings) (m : Moment) (state : State)

/-- The same moment without an action of the gateway. -/
def unasked : Moment := { m with link := { m.link with action := none } }

/-- The turn as it comes to the gateway's action. -/
def noted : Turn :=
  let t : Turn := {
    state := { state with lastKeys := m.inputs.keys }
    outbound := m.outbound
    link := m.link.takeAction.2 }
  t.logInputs (m.snapshot state) |>.pushStatus s (m.snapshot state)

theorem prepared_eq {a : Gateway.Action} (asks : m.link.action = some a) :
    m.prepared s state = (m.noted s state).applyRemote s (m.snapshot state) a :=
  Turn.prepare_of_asked s (m.snapshot state) _ asks

theorem unasked_prepared : m.unasked.prepared s state = m.noted s state := rfl

theorem unasked_turn_eq : m.unasked.turn s state =
    ((m.noted s state).handleMode s (m.snapshot state)
      |>.armDeadline (m.snapshot state) |>.driveLock s (m.snapshot state)) := by
  have same : m.unasked.snapshot state = { m.snapshot state with remote := none } := rfl
  rw [turn_eq, unasked_prepared, same, Turn.handleMode_remote]
  rfl

/-- An action that the door does not carry out changes nothing in the turn: its state, its link, what it leaves
in the queues of the audit and the members and what it does are the same as without the action. Only remarks
are added, lines for the log and messages for the chat, in one place. Either turn hands over what it offers. -/
theorem refused_action_is_only_remarked {a : Gateway.Action} (asks : m.link.action = some a)
    (refused : Refused m.inputs a) :
    (m.turn s state).state = (m.unasked.turn s state).state ∧
      (m.turn s state).link = (m.unasked.turn s state).link ∧
      (m.turn s state).overrun = (m.unasked.turn s state).overrun ∧
      Alike (m.unasked.turn s state).outbound (m.turn s state).outbound ∧
      ∃ before added after, (m.unasked.turn s state).deeds = before ++ after ∧
        (m.turn s state).deeds = before ++ added ++ after ∧ (∀ d ∈ added, d.isRemark = true) ∧
        (m.unasked.turn s state).HandsOver (m.unasked.snapshot state) m.outbound ∧
        (m.turn s state).HandsOver (m.snapshot state) m.outbound := by
  let i := m.snapshot state
  obtain ⟨added, remarks, start⟩ :=
    (Turn.applyRemote_remarks s i (m.noted s state) refused).abreast
  rw [← m.prepared_eq s state asks] at start
  have ended := ((start.handleMode s i).armDeadline i).driveLock s i
  rw [← turn_eq, ← unasked_turn_eq] at ended
  obtain ⟨after, unasked, asked⟩ := ended.deeds
  exact ⟨ended.state, ended.link, ended.overrun, ended.outbound, _, added, after, unasked, asked,
    remarks, m.unasked.turn_handsOver s state, m.turn_handsOver s state⟩

/-- The gateway wants the door locked that stands open, while the green button goes down. -/
def barred : Moment :=
  { Run.greenHeld.moments 1 with
    inputs := { (Run.greenHeld.moments 1).inputs with lock := { doorOpen := true } }
    link := { action := some .lock } }

theorem barred_unlocks : barred.link.action = some .lock ∧ Refused barred.inputs .lock ∧
    (barred.turn {} { mode := .locked }).state.mode = .timed := by
  have refused : Refused barred.inputs .lock := rfl
  have same := (barred.refused_action_is_only_remarked {} { mode := .locked } rfl refused).1
  have unlocks : (barred.unasked.turn {} { mode := .locked }).state.mode = .timed := by decide
  exact ⟨rfl, refused, (congrArg State.mode same).trans unlocks⟩

end Moment

end DoorControl.Door
