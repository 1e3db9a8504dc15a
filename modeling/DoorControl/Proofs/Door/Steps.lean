/- What the parts of a turn do to the course of the door, what they leave alone, and which notable deeds
they do. -/
import DoorControl.Door.Turn
import Mathlib.Data.List.Infix

namespace DoorControl.Door

/-- The part of the state that decides where the bolt belongs, now and at the deadline. -/
structure Course where
  mode : Mode := .initial
  deadline : Option Nat := none
  pendingTimeout : Option Nat := none
  deriving DecidableEq, Repr

def State.course (s : State) : Course := ⟨s.mode, s.deadline, s.pendingTimeout⟩

/-- The part of the state that only the beginning and the end of a turn change: the buttons are noted
when it begins, and what the lock has answered when it ends. -/
structure Kept where
  lastKeys : Keys := {}
  lockRetryAt : Option Nat := none
  lockFailing : Bool := false
  deriving DecidableEq, Repr

def State.kept (s : State) : Kept := ⟨s.lastKeys, s.lockRetryAt, s.lockFailing⟩

/-- What the message on a failed lock command begins with. -/
def lockFailure : String := ":warning: Lock command failed"

def tellsLockFailure (text : String) : Bool := lockFailure.toList.isPrefixOf text.toList

/-- What begins differently goes on differently. -/
theorem isPrefixOf_append_eq_false {mark start : List Char} (rest : List Char)
    (h : (mark.isPrefixOf start || start.isPrefixOf mark) = false) :
    mark.isPrefixOf (start ++ rest) = false := by
  rw [Bool.eq_false_iff] at h ⊢
  intro hb
  apply h
  simp only [List.isPrefixOf_iff_prefix, Bool.or_eq_true] at hb ⊢
  exact List.prefix_or_prefix_of_prefix hb (List.prefix_append _ _)

/-- A text that begins otherwise is no such message, whatever follows. -/
theorem tellsLockFailure_append {start : String} (rest : String)
    (h : (lockFailure.toList.isPrefixOf start.toList ||
      start.toList.isPrefixOf lockFailure.toList) = false) :
    tellsLockFailure (start ++ rest) = false := by
  rw [tellsLockFailure, String.toList_append]
  exact isPrefixOf_append_eq_false _ h

theorem tellsLockFailure_append₂ {start : String} (middle rest : String)
    (h : (lockFailure.toList.isPrefixOf start.toList ||
      start.toList.isPrefixOf lockFailure.toList) = false) :
    tellsLockFailure (start ++ middle ++ rest) = false := by
  rw [String.append_assoc]
  exact tellsLockFailure_append _ h

theorem tellsLockFailure_cause (cause : String) :
    tellsLockFailure s!":warning: Lock command failed: {cause}" = true := by
  have h : lockFailure.toList <+: ":warning: Lock command failed: ".toList := by decide
  have hm := h.trans (List.prefix_append _ cause.toList)
  rw [← String.toList_append] at hm
  exact List.isPrefixOf_iff_prefix.mpr hm

/-- Whether a deed asks the permissions about a card, sends the lock a command or complains that one has
failed, or makes an entry known. -/
def Deed.isNotable : Deed → Bool
  | .checkCard _ | .driveLock _ => true
  | .say _ text => tellsLockFailure text
  | .offer item => item.kind = .audit || item.kind = .membership
  | _ => false

namespace Turn

/-- The notable deeds of a turn so far, in order. -/
def notable (t : Turn) : List Deed := t.deeds.filter Deed.isNotable

theorem mem_notable {t : Turn} {d : Deed} (h : d.isNotable = true) :
    d ∈ t.notable ↔ d ∈ t.deeds := by
  simp [notable, h]

variable (s : Settings) (i : Snapshot) (t : Turn)

@[simp] theorem withState_notable (state : State) :
    notable { t with state } = t.notable := rfl

@[simp] theorem withOutbound_notable (outbound : Outbox.Outbound) :
    notable { t with outbound } = t.notable := rfl

@[simp] theorem act_state (d : Deed) : (act d t).state = t.state := rfl

theorem act_notable (d : Deed) (h : d.isNotable = false) : (act d t).notable = t.notable := by
  simp [act, notable, h]

theorem act_notable_append (d : Deed) (h : d.isNotable = true) :
    (act d t).notable = t.notable ++ [d] := by
  simp [act, notable, h]

@[simp] theorem offer_state (item : Outbox.Item) : (t.offer item).state = t.state := rfl

theorem offer_notable (item : Outbox.Item) (h : (Deed.offer item).isNotable = false) :
    (t.offer item).notable = t.notable := act_notable t (.offer item) h

theorem offer_notable_append (item : Outbox.Item) (h : (Deed.offer item).isNotable = true) :
    (t.offer item).notable = t.notable ++ [.offer item] := act_notable_append t (.offer item) h

@[simp] theorem log_state (text : String) : (log i text t).state = t.state := rfl

@[simp] theorem log_notable (text : String) : (log i text t).notable = t.notable :=
  offer_notable t _ rfl

@[simp] theorem say_state (channel : Outbox.Channel) (text : String) :
    (say i channel text t).state = t.state := rfl

@[simp] theorem say_notable (channel : Outbox.Channel) {text : String}
    (h : tellsLockFailure text = false) : (say i channel text t).notable = t.notable :=
  (offer_notable _ _ rfl).trans (act_notable t (.say channel text) h)

theorem say_notable_append (channel : Outbox.Channel) {text : String}
    (h : tellsLockFailure text = true) :
    (say i channel text t).notable = t.notable ++ [.say channel text] :=
  (offer_notable _ _ rfl).trans (act_notable_append t (.say channel text) h)

@[simp] theorem send_state (text : String) : (send i text t).state = t.state := rfl

@[simp] theorem send_notable {text : String} (h : tellsLockFailure text = false) :
    (send i text t).notable = t.notable := say_notable i t .monitoring h

/-- What no message changes is not changed by several. -/
theorem says_eq {α : Type} (f : Turn → α) {text : String}
    (same : ∀ channel t, f (say i channel text t) = f t) (channels : List Outbox.Channel) :
    f (channels.foldl (fun t channel => say i channel text t) t) = f t := by
  induction channels generalizing t with
  | nil => rfl
  | cons channel channels ih => exact (ih (say i channel text t)).trans (same channel t)

theorem says_state (channels : List Outbox.Channel) (text : String) :
    (channels.foldl (fun t channel => say i channel text t) t).state = t.state :=
  says_eq i t (·.state) (fun _ _ => rfl) channels

theorem says_notable (channels : List Outbox.Channel) {text : String}
    (h : tellsLockFailure text = false) :
    (channels.foldl (fun t channel => say i channel text t) t).notable = t.notable :=
  says_eq i t notable (fun channel t => say_notable i t channel h) channels

@[simp] theorem setStatus_state (text : String) (general : Bool) :
    (setStatus i text general t).state = t.state := says_state i _ _ text

@[simp] theorem setStatus_notable {text : String} (general : Bool)
    (h : tellsLockFailure text = false) : (setStatus i text general t).notable = t.notable :=
  says_notable i _ _ h

@[simp] theorem showStatus_state (text : String) (color : Color) :
    (showStatus text color t).state = t.state := rfl

@[simp] theorem showStatus_notable (text : String) (color : Color) :
    (showStatus text color t).notable = t.notable := act_notable t _ rfl

@[simp] theorem showMessage_state (text : String) (color : Color) :
    (showMessage s text color t).state = t.state := rfl

@[simp] theorem showMessage_notable (text : String) (color : Color) :
    (showMessage s text color t).notable = t.notable := act_notable t _ rfl

@[simp] theorem askFor_state (time : Nat) : (askFor time t).state = t.state := rfl

@[simp] theorem askFor_notable (time : Nat) : (askFor time t).notable = t.notable := rfl

@[simp] theorem setMode_course (mode : Mode) :
    (setMode mode t).state.course = { t.state.course with mode } := rfl

@[simp] theorem setMode_kept (mode : Mode) : (setMode mode t).state.kept = t.state.kept := rfl

@[simp] theorem setMode_notable (mode : Mode) : (setMode mode t).notable = t.notable := rfl

@[simp] theorem setDeadline_course (deadline : Option Nat) :
    (setDeadline deadline t).state.course = { t.state.course with deadline } := rfl

@[simp] theorem setDeadline_kept (deadline : Option Nat) :
    (setDeadline deadline t).state.kept = t.state.kept := rfl

@[simp] theorem setDeadline_notable (deadline : Option Nat) :
    (setDeadline deadline t).notable = t.notable := rfl

@[simp] theorem startTimeout_course (ms : Nat) :
    (startTimeout ms t).state.course = { t.state.course with pendingTimeout := some ms } := rfl

@[simp] theorem startTimeout_kept (ms : Nat) :
    (startTimeout ms t).state.kept = t.state.kept := rfl

@[simp] theorem startTimeout_notable (ms : Nat) : (startTimeout ms t).notable = t.notable := rfl

@[simp] theorem setPattern_course (p : Reader.Pattern) :
    (setPattern p t).state.course = t.state.course := by
  unfold setPattern; split <;> rfl

@[simp] theorem setPattern_kept (p : Reader.Pattern) :
    (setPattern p t).state.kept = t.state.kept := by
  unfold setPattern; split <;> rfl

@[simp] theorem setPattern_notable (p : Reader.Pattern) :
    (setPattern p t).notable = t.notable := by
  unfold setPattern
  split
  · rfl
  · exact act_notable _ _ rfl

@[simp] theorem setSound_course (sound : Reader.Sound) :
    (setSound sound t).state.course = t.state.course := by
  unfold setSound; split <;> rfl

@[simp] theorem setSound_kept (sound : Reader.Sound) :
    (setSound sound t).state.kept = t.state.kept := by
  unfold setSound; split <;> rfl

@[simp] theorem setSound_notable (sound : Reader.Sound) :
    (setSound sound t).notable = t.notable := by
  unfold setSound
  split
  · rfl
  · exact act_notable _ _ rfl

/-- Nothing that patterns leave alone changes while one waits. -/
theorem idlePattern_eq {α : Type} (f : Turn → α)
    (pattern : ∀ p t, f (setPattern p t) = f t)
    (state : ∀ t : Turn, f { t with state := { t.state with feedbackUntil := none } } = f t)
    (p : Reader.Pattern) : f (idlePattern i p t) = f t := by
  unfold idlePattern
  split
  · split
    · rfl
    · exact (pattern p _).trans (state t)
  · exact pattern p t

@[simp] theorem idlePattern_course (p : Reader.Pattern) :
    (idlePattern i p t).state.course = t.state.course :=
  idlePattern_eq i t (·.state.course) (fun p t => setPattern_course t p) (fun _ => rfl) p

@[simp] theorem idlePattern_kept (p : Reader.Pattern) :
    (idlePattern i p t).state.kept = t.state.kept :=
  idlePattern_eq i t (·.state.kept) (fun p t => setPattern_kept t p) (fun _ => rfl) p

@[simp] theorem idlePattern_notable (p : Reader.Pattern) :
    (idlePattern i p t).notable = t.notable :=
  idlePattern_eq i t notable (fun p t => setPattern_notable t p) (fun _ => rfl) p

@[simp] theorem feedback_course (p : Reader.Pattern) :
    (feedback s i p t).state.course = t.state.course := setPattern_course t p

@[simp] theorem feedback_kept (p : Reader.Pattern) :
    (feedback s i p t).state.kept = t.state.kept := setPattern_kept t p

@[simp] theorem feedback_notable (p : Reader.Pattern) :
    (feedback s i p t).notable = t.notable := setPattern_notable t p

@[simp] theorem logInputs_course : (logInputs i t).state.course = t.state.course := by
  unfold logInputs
  cases i.card <;> dsimp only <;> split <;> split <;> rfl

@[simp] theorem logInputs_kept : (logInputs i t).state.kept = t.state.kept := by
  unfold logInputs
  cases i.card <;> dsimp only <;> split <;> split <;> rfl

@[simp] theorem logInputs_notable : (logInputs i t).notable = t.notable := by
  unfold logInputs
  cases i.card <;> dsimp only <;> split <;> split <;> simp

@[simp] theorem pushStatus_course : (pushStatus s i t).state.course = t.state.course := by
  unfold pushStatus; dsimp only; split <;> rfl

@[simp] theorem pushStatus_kept : (pushStatus s i t).state.kept = t.state.kept := by
  unfold pushStatus; dsimp only; split <;> rfl

@[simp] theorem pushStatus_notable : (pushStatus s i t).notable = t.notable := by
  unfold pushStatus
  dsimp only
  split
  · exact act_notable _ _ rfl
  · rfl

theorem leaveOpen_eq {α : Type} (f : Turn → α)
    (same : f (setStatus i Outbox.Outbound.closedText true t) = f t) : f (leaveOpen i t) = f t := by
  unfold leaveOpen
  split
  · exact same
  · rfl

@[simp] theorem leaveOpen_state : (leaveOpen i t).state = t.state :=
  leaveOpen_eq i t (·.state) (setStatus_state i t _ true)

@[simp] theorem leaveOpen_notable : (leaveOpen i t).notable = t.notable :=
  leaveOpen_eq i t notable (setStatus_notable i t true (by decide))

end Turn

end DoorControl.Door
