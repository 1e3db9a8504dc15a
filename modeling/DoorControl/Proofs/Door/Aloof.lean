/- What of a turn neither its messages nor its logs concern, and that the gateway and the end of the turn
leave alone. -/
import DoorControl.Proofs.Door.Deeds
import DoorControl.Proofs.Door.Signs

namespace DoorControl.Door

open Outbox (Channel Outbound)

namespace Turn

/-- A part of a turn in which messages cannot be seen either, nor what has been noted of times. -/
structure Aloof {α : Type} (f : Turn → α) : Prop extends Blind f where
  outbound : ∀ (t : Turn) (outbound : Outbound), f { t with outbound } = f t
  overrun : ∀ (t : Turn) (overrun : Bool), f { t with overrun } = f t
  say : ∀ (i : Snapshot) (channel : Channel) (text : String) (t : Turn), f (say i channel text t) = f t

namespace Aloof

variable {α : Type} {f : Turn → α} (aloof : Aloof f) (s : Settings) (i : Snapshot) (t : Turn)

include aloof

theorem send (text : String) : f (Turn.send i text t) = f t := aloof.say i .monitoring text t

theorem setStatus (text : String) (general : Bool) : f (Turn.setStatus i text general t) = f t :=
  (says_eq i _ f (fun channel t => aloof.say i channel text t) _).trans (aloof.outbound t _)

theorem leaveOpen : f (Turn.leaveOpen i t) = f t :=
  leaveOpen_eq i t f (aloof.setStatus i t _ true)

theorem askFor (time : Nat) : f (Turn.askFor time t) = f t := aloof.overrun t _

theorem feedback (p : Reader.Pattern) : f (Turn.feedback s i p t) = f t := by
  unfold Turn.feedback
  dsimp only
  rw [aloof.state, aloof.askFor, aloof.setPattern]

theorem checkOpenDay : f (Turn.checkOpenDay s i t) = f t := by
  unfold Turn.checkOpenDay
  split
  · rw [aloof.setStatus, aloof.setMode]
  · exact aloof.showMessage s t _ _

theorem pressLeave : f (Turn.pressLeave s i t) = f t := by
  unfold Turn.pressLeave
  rw [aloof.startTimeout, aloof.send]

theorem applyRemote (a : Gateway.Action) : f (Turn.applyRemote s i a t) = f t := by
  cases a with
  | lock =>
      dsimp only [Turn.applyRemote]
      split
      · rw [aloof.send, aloof.log]
      · rw [aloof.setMode, aloof.setDeadline, aloof.leaveOpen, aloof.send, aloof.log]
  | unlock =>
      dsimp only [Turn.applyRemote]
      rw [aloof.setDeadline, aloof.askFor, aloof.setMode, aloof.leaveOpen, aloof.send, aloof.log]
  | unknown text =>
      dsimp only [Turn.applyRemote]
      rw [aloof.send, aloof.log, aloof.log]

theorem prepare : f (Turn.prepare s i t) = f t := by
  unfold Turn.prepare
  dsimp only
  split
  · rw [aloof.applyRemote, aloof.pushStatus, aloof.logInputs]
  · rw [aloof.pushStatus, aloof.logInputs]

theorem handleTimed : f (Turn.handleTimed s i t) = f t :=
  handleTimed_eq s i t f (fun mode t => aloof.setMode t mode) (fun d t => aloof.setDeadline t d)
    (aloof.checkOpenDay s i) (aloof.pressLeave s i) (fun sound t => aloof.setSound t sound)
    (aloof.warnClosing s i)

theorem armDeadline : f (Turn.armDeadline i t) = f t := by
  unfold Turn.armDeadline
  split
  · rfl
  · dsimp only
    rw [aloof.state, aloof.askFor, aloof.log]

theorem driveLock : f (Turn.driveLock s i t) = f t := by
  have driven (target : Lock.BoltState) : f (act (.driveLock target) t) = f t := aloof.act _ t rfl
  unfold Turn.driveLock
  dsimp only
  split
  · rfl
  unfold answerLock
  split
  · rw [aloof.state, driven]
  dsimp only
  split
  · rw [aloof.state, aloof.askFor, aloof.log, driven]
  · rw [aloof.send, aloof.state, aloof.askFor, aloof.log, driven]

end Aloof

end Turn

end DoorControl.Door
