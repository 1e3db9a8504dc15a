/- The signs of a door, its logs and its reports: what of a turn all of these leave alone. -/
import DoorControl.Proofs.Door.Steps

namespace DoorControl.Door

/-- Whether a deed tells nobody outside anything. -/
def Deed.isQuiet : Deed → Bool
  | .say _ _ | .offer _ => false
  | _ => true

namespace Turn

/-- A part of a turn in which its state, its link and its quiet deeds cannot be seen. -/
structure Outward {α : Type} (f : Turn → α) : Prop where
  state : ∀ (t : Turn) (state : State), f { t with state } = f t
  link : ∀ (t : Turn) (link : Gateway.Link), f { t with link } = f t
  act : ∀ (d : Deed) (t : Turn), d.isQuiet = true → f (act d t) = f t

/-- One in which its log cannot be seen either. -/
structure Blind {α : Type} (f : Turn → α) : Prop extends Outward f where
  log : ∀ (i : Snapshot) (text : String) (t : Turn), f (log i text t) = f t

namespace Outward

variable {α : Type} {f : Turn → α} (blind : Outward f) (s : Settings) (i : Snapshot) (t : Turn)

include blind

theorem setMode (mode : Mode) : f (Turn.setMode mode t) = f t := blind.state t _

theorem setDeadline (deadline : Option Nat) : f (Turn.setDeadline deadline t) = f t := blind.state t _

theorem startTimeout (ms : Nat) : f (Turn.startTimeout ms t) = f t := blind.state t _

theorem setPattern (p : Reader.Pattern) : f (Turn.setPattern p t) = f t := by
  unfold Turn.setPattern
  split
  · rfl
  · exact (blind.act _ _ rfl).trans (blind.state t _)

theorem setSound (sound : Reader.Sound) : f (Turn.setSound sound t) = f t := by
  unfold Turn.setSound
  split
  · rfl
  · exact (blind.act _ _ rfl).trans (blind.state t _)

theorem idlePattern (p : Reader.Pattern) : f (Turn.idlePattern i p t) = f t :=
  idlePattern_eq i t f (fun p t => blind.setPattern t p) (fun t => blind.state t _) p

theorem showStatus (text : String) (color : Color) : f (Turn.showStatus text color t) = f t :=
  blind.act _ t rfl

theorem showMessage (text : String) (color : Color) : f (Turn.showMessage s text color t) = f t :=
  blind.act _ t rfl

theorem warnClosing : f (Turn.warnClosing s i t) = f t := by
  unfold Turn.warnClosing
  dsimp only
  split
  · rw [blind.showStatus, blind.setSound, blind.setPattern]
  · exact blind.showStatus t _ _

theorem pushStatus : f (Turn.pushStatus s i t) = f t := by
  unfold Turn.pushStatus
  dsimp only
  split
  · refine (blind.act _ _ rfl).trans ?_
    exact (blind.state { t with link := t.link.setStatus (t.currentStatus i) } _).trans (blind.link t _)
  · rfl

end Outward

theorem Blind.logInputs {α : Type} {f : Turn → α} (blind : Blind f) (i : Snapshot) (t : Turn) :
    f (Turn.logInputs i t) = f t := by
  unfold Turn.logInputs
  cases i.card <;> dsimp only <;> split <;> split <;> simp only [blind.state, blind.log]

end Turn

end DoorControl.Door
