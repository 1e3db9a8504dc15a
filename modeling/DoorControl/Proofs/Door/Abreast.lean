/- Two turns that go on alike although one of them has logged and said more before: nothing in a turn looks
back at that. -/
import DoorControl.Proofs.Door.News

namespace DoorControl.Door

open Outbox (Channel Item Outbound)

/-- Queues that differ in the log and the chat at most. -/
structure Alike (o o' : Outbound) : Prop where
  audit : o'.audit = o.audit
  membership : o'.membership = o.membership
  doorName : o'.doorName = o.doorName
  lastStatus : o'.lastStatus = o.lastStatus

theorem Alike.refl (o : Outbound) : Alike o o := ⟨rfl, rfl, rfl, rfl⟩

theorem Alike.offer {o o' : Outbound} (alike : Alike o o') (item : Item) :
    Alike (o.offer item).2 (o'.offer item).2 := by
  unfold Outbound.offer
  cases item.kind with
  | debug | chat => exact ⟨alike.audit, alike.membership, alike.doorName, alike.lastStatus⟩
  | audit | unknownCard =>
      rw [alike.audit]
      exact ⟨rfl, alike.membership, alike.doorName, alike.lastStatus⟩
  | membership =>
      rw [alike.membership]
      exact ⟨alike.audit, rfl, alike.doorName, alike.lastStatus⟩

/-- Two turns in the same place. The first one has done `p` and the second one `q`, and then both have done
the same. -/
structure Abreast (p q : List Deed) (t t' : Turn) : Prop where
  state : t'.state = t.state
  link : t'.link = t.link
  overrun : t'.overrun = t.overrun
  outbound : Alike t.outbound t'.outbound
  deeds : ∃ later, t.deeds = p ++ later ∧ t'.deeds = q ++ later

namespace Abreast

variable {p q : List Deed} {t t' : Turn} (h : Abreast p q t t') (s : Settings) (i : Snapshot)

theorem ite {u u' : Turn} (c : Prop) [Decidable c] (yes : Abreast p q t t') (no : Abreast p q u u') :
    Abreast p q (if c then t else u) (if c then t' else u') := by
  split
  · exact yes
  · exact no

include h

theorem withState (state : State) : Abreast p q { t with state } { t' with state } :=
  ⟨rfl, h.link, h.overrun, h.outbound, h.deeds⟩

theorem act (d : Deed) : Abreast p q (Turn.act d t) (Turn.act d t') := by
  obtain ⟨later, first, second⟩ := h.deeds
  refine ⟨h.state, h.link, h.overrun, h.outbound, later ++ [d], ?_, ?_⟩
  · simp [Turn.act, first]
  · simp [Turn.act, second]

theorem askFor (time : Nat) : Abreast p q (Turn.askFor time t) (Turn.askFor time t') :=
  ⟨h.state, h.link, congrArg (· || _) h.overrun, h.outbound, h.deeds⟩

theorem offer (item : Item) : Abreast p q (Turn.offer item t) (Turn.offer item t') :=
  ⟨h.state, h.link, h.overrun, h.outbound.offer item, (h.act (.offer item)).deeds⟩

theorem log (text : String) : Abreast p q (Turn.log i text t) (Turn.log i text t') := h.offer _

theorem say (channel : Channel) (text : String) :
    Abreast p q (Turn.say i channel text t) (Turn.say i channel text t') := by
  unfold Turn.say
  rw [Outbox.Outbound.chatItem_congr h.outbound.doorName]
  exact (h.act _).offer _

theorem send (text : String) : Abreast p q (Turn.send i text t) (Turn.send i text t') :=
  h.say i .monitoring text

theorem setStatus (text : String) (general : Bool) :
    Abreast p q (Turn.setStatus i text general t) (Turn.setStatus i text general t') := by
  have told (channels : List Channel) {t t' : Turn} (h : Abreast p q t t') : Abreast p q
      (channels.foldl (fun t channel => Turn.say i channel text t) t)
      (channels.foldl (fun t channel => Turn.say i channel text t) t') := by
    induction channels generalizing t t' with
    | nil => exact h
    | cons channel channels ih => exact ih (h.say i channel text)
  unfold Turn.setStatus Outbound.statusChannels
  rw [h.outbound.lastStatus]
  exact told _ ⟨h.state, h.link, h.overrun,
    ⟨h.outbound.audit, h.outbound.membership, h.outbound.doorName, rfl⟩, h.deeds⟩

theorem modify (f : State → State) :
    Abreast p q { t with state := f t.state } { t' with state := f t'.state } := by
  rw [h.state]
  exact h.withState _

theorem setMode (mode : Mode) : Abreast p q (Turn.setMode mode t) (Turn.setMode mode t') :=
  h.modify ({ · with mode })

theorem setDeadline (deadline : Option Nat) :
    Abreast p q (Turn.setDeadline deadline t) (Turn.setDeadline deadline t') :=
  h.modify ({ · with deadline })

theorem startTimeout (ms : Nat) : Abreast p q (Turn.startTimeout ms t) (Turn.startTimeout ms t') :=
  h.modify ({ · with pendingTimeout := some ms })

theorem setPattern (pattern : Reader.Pattern) :
    Abreast p q (Turn.setPattern pattern t) (Turn.setPattern pattern t') := by
  unfold Turn.setPattern
  rw [h.state]
  split
  · exact h
  · exact (h.withState _).act _

theorem setSound (sound : Reader.Sound) :
    Abreast p q (Turn.setSound sound t) (Turn.setSound sound t') := by
  unfold Turn.setSound
  rw [h.state]
  split
  · exact h
  · exact (h.withState _).act _

theorem idlePattern (pattern : Reader.Pattern) :
    Abreast p q (Turn.idlePattern i pattern t) (Turn.idlePattern i pattern t') := by
  unfold Turn.idlePattern
  rw [h.state]
  split
  · split
    · exact h
    · exact (h.withState _).setPattern _
  · exact h.setPattern _

theorem feedback (pattern : Reader.Pattern) :
    Abreast p q (Turn.feedback s i pattern t) (Turn.feedback s i pattern t') := by
  have asked := (h.setPattern pattern).askFor (i.now + s.message)
  unfold Turn.feedback
  dsimp only
  rw [asked.state]
  exact asked.withState _

theorem showStatus (text : String) (color : Color) :
    Abreast p q (Turn.showStatus text color t) (Turn.showStatus text color t') := h.act _

theorem showMessage (text : String) (color : Color) :
    Abreast p q (Turn.showMessage s text color t) (Turn.showMessage s text color t') := h.act _

theorem leaveOpen : Abreast p q (Turn.leaveOpen i t) (Turn.leaveOpen i t') := by
  unfold Turn.leaveOpen
  rw [h.state]
  split
  · exact h.setStatus i _ true
  · exact h

theorem checkOpenDay : Abreast p q (Turn.checkOpenDay s i t) (Turn.checkOpenDay s i t') := by
  unfold Turn.checkOpenDay
  split
  · exact (h.setMode .opened).setStatus i _ true
  · exact h.showMessage s _ _

theorem checkCard (card : CardId) (unlocks : Bool) :
    Abreast p q (Turn.checkCard s i card unlocks t) (Turn.checkCard s i card unlocks t') := by
  have asked := h.act (.checkCard card)
  unfold Turn.checkCard
  cases i.access card with
  | allowed user =>
      refine Abreast.offer (Abreast.offer ?_ _) _
      cases unlocks with
      | true =>
          have shown := (asked.showMessage s "Valid card swiped" .green).setPattern .enter
          exact ((shown.send i _).startTimeout _).setMode .timed
      | false => exact asked.send i _
  | forbidden => exact (((asked.showMessage s _ _).feedback s i _).send i _).log i _
  | unknownCard => exact (((asked.showMessage s _ _).feedback s i _).send i _).offer _
  | error message => exact ((asked.showMessage s _ _).feedback s i _).send i _

theorem pressLeave : Abreast p q (Turn.pressLeave s i t) (Turn.pressLeave s i t') :=
  (h.send i _).startTimeout _

theorem handleLocked : Abreast p q (Turn.handleLocked s i t) (Turn.handleLocked s i t') := by
  have greeted := (((h.idlePattern i .ready).setSound .none).showStatus "Locked" .orange).setStatus i
    ":lock: Door is locked" false
  unfold Turn.handleLocked
  dsimp only
  split
  · exact greeted.checkOpenDay s i
  split
  · exact ((greeted.log i _).startTimeout _).setMode .timed
  split
  · exact greeted.checkCard s i _ true
  split
  · exact (greeted.pressLeave s i).setMode .timed
  · exact greeted

theorem handleOpened : Abreast p q (Turn.handleOpened s i t) (Turn.handleOpened s i t') := by
  have greeted := ((h.idlePattern i .opened).setSound .none).showStatus "Open" .green
  have late := ((greeted.log i "It is no longer an open day").leaveOpen i).setMode .locked
  have held := (greeted.leaveOpen i).setMode .locked
  have closing := ite ((!i.openDay) = true) late (ite (i.keys.red = true) held greeted)
  unfold Turn.handleOpened
  dsimp only
  split
  · exact closing.checkCard s i _ false
  · exact closing

theorem warnClosing : Abreast p q (Turn.warnClosing s i t) (Turn.warnClosing s i t') := by
  unfold Turn.warnClosing
  rw [h.state]
  dsimp only
  split
  · exact ((h.setPattern .warnClosing).setSound _).showStatus _ _
  · exact h.showStatus _ _

theorem handleTimed : Abreast p q (Turn.handleTimed s i t) (Turn.handleTimed s i t') := by
  unfold Turn.handleTimed
  rw [h.state]
  have white := ite (i.pressed.white = true) (h.checkOpenDay s i) h
  split
  · exact (h.setDeadline none).setMode .locked
  dsimp only
  generalize (if i.pressed.white = true then Turn.checkOpenDay s i t else t) = u at white ⊢
  generalize (if i.pressed.white = true then Turn.checkOpenDay s i t' else t') = u' at white ⊢
  rw [white.state]
  split
  · exact white.setDeadline none
  split
  · exact (white.pressLeave s i).setSound .none
  · exact white.warnClosing s i

theorem handle : Abreast p q (Turn.handle s i t) (Turn.handle s i t') := by
  unfold Turn.handle
  rw [h.state]
  split
  · exact (h.setPattern .ready).setMode .locked
  · exact h.handleLocked s i
  · exact h.handleOpened s i
  · exact h.handleTimed s i

theorem handleMode : Abreast p q (Turn.handleMode s i t) (Turn.handleMode s i t') := by
  have handled := h.handle s i
  unfold Turn.handleMode
  dsimp only
  rw [h.state, handled.state]
  split
  · exact handled
  · exact handled.log i _

theorem armDeadline : Abreast p q (Turn.armDeadline i t) (Turn.armDeadline i t') := by
  unfold Turn.armDeadline
  rw [h.state]
  split
  · exact h
  · simp only [Turn.askFor_state, Turn.log_state, h.state]
    exact ((h.log i _).askFor _).withState _

theorem answerLock (result : Except DeviceError Unit) :
    Abreast p q (Turn.answerLock s i result t) (Turn.answerLock s i result t') := by
  unfold Turn.answerLock
  rw [h.state]
  cases result with
  | ok done => exact h.withState _
  | error e =>
      have noted := (h.log i s!"Lock command failed: {e.message}").askFor (i.now + s.lockRetry)
      simp only [Turn.askFor_state, Turn.log_state, h.state]
      split
      · exact noted.withState _
      · exact (noted.withState _).send i _

theorem driveLock : Abreast p q (Turn.driveLock s i t) (Turn.driveLock s i t') := by
  unfold Turn.driveLock
  dsimp only
  rw [h.state]
  split
  · exact h
  · exact (h.act _).answerLock s i _

end Abreast

end DoorControl.Door
