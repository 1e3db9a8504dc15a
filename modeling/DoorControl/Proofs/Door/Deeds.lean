/- The notable deeds of a turn, step by step: what it asks the permissions, what it makes known of their
answer, where it drives the bolt, and what it says when that fails. -/
import DoorControl.Proofs.Door.Passage

namespace DoorControl.Door

namespace Turn

variable (s : Settings) (i : Snapshot) (t : Turn)

/-- What is made known of an answer on a card: an entry, in the membership and in the audit log. -/
def granted : AccessResult → List Deed
  | .allowed user =>
      [.offer (Outbox.Outbound.accessItem user i.wall),
        .offer (Outbox.Outbound.auditItem user (s.name ++ ": Granted entry") i.wall)]
  | .forbidden | .unknownCard | .error _ => []

/-- The deeds about the card that the handler of a mode asks about. -/
def checked (mode : Mode) : List Deed :=
  match asked? i mode with
  | some card => .checkCard card :: granted s i (i.access card)
  | none => []

/-- What is said on the result of a lock command, where `failing` tells whether the one before failed. -/
def complaints (failing : Bool) : Except DeviceError Unit → List Deed
  | .error e =>
      let cause := e.message
      if failing then [] else [.say .monitoring s!":warning: Lock command failed: {cause}"]
  | .ok () => []

@[simp] theorem checkCard_mem_checked {mode : Mode} {card : CardId} :
    .checkCard card ∈ checked s i mode ↔ asked? i mode = some card := by
  unfold checked
  cases asked? i mode with
  | none => simp
  | some other => cases h : i.access other <;> simp [granted, h, eq_comm]

@[simp] theorem driveLock_notMem_checked {mode : Mode} {b : Lock.BoltState} :
    .driveLock b ∉ checked s i mode := by
  unfold checked
  cases asked? i mode with
  | none => simp
  | some card => cases h : i.access card <;> simp [granted, h]

@[simp] theorem checkCard_notMem_complaints {failing : Bool} {result : Except DeviceError Unit}
    {card : CardId} : .checkCard card ∉ complaints failing result := by
  cases result <;> cases failing <;> simp [complaints]

@[simp] theorem driveLock_notMem_complaints {failing : Bool} {result : Except DeviceError Unit}
    {b : Lock.BoltState} : .driveLock b ∉ complaints failing result := by
  cases result <;> cases failing <;> simp [complaints]

@[simp] theorem offer_notMem_complaints {failing : Bool} {result : Except DeviceError Unit}
    {item : Outbox.Item} : .offer item ∉ complaints failing result := by
  cases result <;> cases failing <;> simp [complaints]

theorem prepare_kept : (prepare s i t).state.kept = t.state.kept := by
  unfold prepare
  cases i.remote with
  | none => simp
  | some a =>
      cases a with
      | lock => dsimp only [applyRemote]; split <;> simp
      | unlock => simp [applyRemote]
      | unknown text => simp [applyRemote]

theorem applyRemote_notable (a : Gateway.Action) : (applyRemote s i a t).notable = t.notable := by
  cases a with
  | lock => unfold applyRemote; dsimp only; split <;> simp (disch := decide)
  | unlock => simp (disch := decide) [applyRemote]
  | unknown text =>
      dsimp only [applyRemote]
      rw [send_notable]
      · simp
      · exact tellsLockFailure_append₂ _ _ (by decide)

theorem prepare_notable : (prepare s i t).notable = t.notable := by
  unfold prepare
  dsimp only
  split
  · rw [applyRemote_notable, pushStatus_notable, logInputs_notable]
  · rw [pushStatus_notable, logInputs_notable]

@[simp] theorem checkOpenDay_kept : (checkOpenDay s i t).state.kept = t.state.kept := by
  unfold checkOpenDay; split <;> simp

@[simp] theorem checkOpenDay_notable : (checkOpenDay s i t).notable = t.notable := by
  unfold checkOpenDay; split <;> simp (disch := decide)

@[simp] theorem pressLeave_kept : (pressLeave s i t).state.kept = t.state.kept := by
  simp [pressLeave]

@[simp] theorem pressLeave_notable : (pressLeave s i t).notable = t.notable := by
  simp (disch := decide) [pressLeave]

@[simp] theorem warnClosing_kept : (warnClosing s i t).state.kept = t.state.kept := by
  unfold warnClosing; dsimp only; split <;> simp

@[simp] theorem warnClosing_notable : (warnClosing s i t).notable = t.notable := by
  unfold warnClosing; dsimp only; split <;> simp

theorem answerCard_kept (card : CardId) (unlocks : Bool) (answer : AccessResult) :
    (answerCard s i card unlocks answer t).state.kept = t.state.kept := by
  cases answer with
  | allowed user => cases unlocks <;> simp [answerCard]
  | forbidden => simp [answerCard]
  | unknownCard => simp [answerCard]
  | error message => simp [answerCard]

/-- Only an allowed card is made known as an entry, whatever the message on it says. -/
theorem answerCard_notable (card : CardId) (unlocks : Bool) (answer : AccessResult) :
    (answerCard s i card unlocks answer t).notable = t.notable ++ granted s i answer := by
  cases answer with
  | allowed user =>
      dsimp only [answerCard]
      rw [offer_notable_append _ _ rfl, offer_notable_append _ _ rfl]
      cases unlocks <;> simp (disch := decide) [granted]
  | forbidden => simp (disch := decide) [answerCard, granted]
  | unknownCard =>
      dsimp only [answerCard]
      rw [offer_notable _ _ rfl, send_notable]
      · simp [granted]
      · exact tellsLockFailure_append₂ _ _ (by decide)
  | error message =>
      dsimp only [answerCard]
      rw [send_notable]
      · simp [granted]
      · exact tellsLockFailure_append _ (by decide)

@[simp] theorem checkCard_kept (card : CardId) (unlocks : Bool) :
    (checkCard s i card unlocks t).state.kept = t.state.kept :=
  answerCard_kept s i _ card unlocks (i.access card)

@[simp] theorem checkCard_notable (card : CardId) (unlocks : Bool) :
    (checkCard s i card unlocks t).notable =
      t.notable ++ .checkCard card :: granted s i (i.access card) := by
  rw [checkCard, answerCard_notable, act_notable_append t _ rfl, List.append_assoc]
  rfl

/-- A timed unlock that goes on does so after the white button has been dealt with. -/
theorem handleTimed_eq {α : Type} (f : Turn → α) (mode : ∀ mode t, f (setMode mode t) = f t)
    (deadline : ∀ d t, f (setDeadline d t) = f t) (day : ∀ t, f (checkOpenDay s i t) = f t)
    (leave : ∀ t, f (pressLeave s i t) = f t) (sound : ∀ sound t, f (setSound sound t) = f t)
    (warn : ∀ t, f (warnClosing s i t) = f t) : f (handleTimed s i t) = f t := by
  have white : f (if i.pressed.white then checkOpenDay s i t else t) = f t := by
    split
    · exact day t
    · rfl
  unfold handleTimed
  dsimp only
  split
  · rw [mode, deadline]
  · generalize (if i.pressed.white then checkOpenDay s i t else t) = t' at white
    split
    · rw [deadline, white]
    · split
      · rw [sound, leave, white]
      · rw [warn, white]

theorem handle_kept : (handle s i t).state.kept = t.state.kept := by
  unfold handle
  cases t.state.mode with
  | initial => simp [handleInitial]
  | locked =>
      unfold handleLocked
      cases i.pressed.white <;> cases i.pressed.green <;> cases i.card <;>
        cases i.pressed.leave <;> simp
  | opened =>
      unfold handleOpened
      cases i.openDay <;> cases i.keys.red <;> cases i.card <;> simp
  | timed => apply handleTimed_eq s i t (·.state.kept) <;> simp

/-- The handler of a mode does nothing notable but what it does about a card. -/
theorem handle_notable :
    (handle s i t).notable = t.notable ++ checked s i t.state.mode := by
  unfold handle
  cases hm : t.state.mode with
  | initial => simp [handleInitial, checked, asked?]
  | locked =>
      unfold handleLocked
      cases hw : i.pressed.white <;> cases hg : i.pressed.green <;> cases hc : i.card <;>
        cases hl : i.pressed.leave <;> simp (disch := decide) [checked, asked?, hw, hg, hc]
  | opened =>
      unfold handleOpened
      cases hd : i.openDay <;> cases hr : i.keys.red <;> cases hc : i.card <;>
        simp [checked, asked?, hc]
  | timed =>
      have h : (handleTimed s i t).notable = t.notable := by
        apply handleTimed_eq s i t notable <;> simp
      simpa [checked, asked?] using h

theorem handleMode_kept : (handleMode s i t).state.kept = t.state.kept := by
  refine Eq.trans ?_ (handle_kept s i t)
  unfold handleMode; dsimp only; split <;> simp

theorem handleMode_notable :
    (handleMode s i t).notable = t.notable ++ checked s i t.state.mode := by
  refine Eq.trans ?_ (handle_notable s i t)
  unfold handleMode; dsimp only; split <;> simp

theorem armDeadline_kept : (armDeadline i t).state.kept = t.state.kept := by
  unfold armDeadline; split <;> rfl

theorem armDeadline_notable : (armDeadline i t).notable = t.notable := by
  unfold armDeadline; split <;> simp

/-- The lock is driven to where the mode wants it, or left alone. -/
def drives : Bool := !(i.bolt = t.state.mode.target || backingOff i.now t.state)

theorem answerLock_notable (result : Except DeviceError Unit) :
    (answerLock s i result t).notable = t.notable ++ complaints t.state.lockFailing result := by
  unfold answerLock complaints
  cases result with
  | ok _ => simp
  | error e =>
      dsimp only
      split
      · simp
      · rw [send, say_notable_append _ _ _ (tellsLockFailure_cause _)]
        simp

theorem driveLock_notable : (driveLock s i t).notable = t.notable ++
    if drives i t then
      .driveLock t.state.mode.target ::
        complaints t.state.lockFailing (i.drive t.state.mode.target)
    else [] := by
  unfold driveLock drives
  dsimp only
  by_cases h : (i.bolt = t.state.mode.target || backingOff i.now t.state) = true
  · simp [h]
  · simp only [h]
    rw [if_neg (by simp), answerLock_notable, act_notable_append t _ rfl]
    simp

theorem answerLock_kept (result : Except DeviceError Unit) :
    (answerLock s i result t).state.kept = { t.state.kept with
      lockRetryAt := if result.isOk then none else some (i.now + s.lockRetry)
      lockFailing := !result.isOk } := by
  unfold answerLock
  cases result with
  | ok _ => rfl
  | error e => dsimp only; split <;> rfl

/-- A command is remembered by its failure: when the next one may be sent, and that it has failed. -/
theorem driveLock_kept : (driveLock s i t).state.kept =
    if drives i t then { t.state.kept with
      lockRetryAt := if (i.drive t.state.mode.target).isOk then none else some (i.now + s.lockRetry)
      lockFailing := !(i.drive t.state.mode.target).isOk }
    else t.state.kept := by
  unfold driveLock drives
  dsimp only
  by_cases h : (i.bolt = t.state.mode.target || backingOff i.now t.state) = true
  · simp [h]
  · rw [if_neg h, if_pos (by simpa using h), answerLock_kept]
    simp

end Turn

end DoorControl.Door
