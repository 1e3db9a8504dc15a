/- What a door publishes for the gateway: the status that a turn looks at, the one that it remembers for comparison
and the one that the link holds stay in step over a run. -/
import DoorControl.Proofs.Door.Repose
import DoorControl.Proofs.Latest

namespace DoorControl

/-- The texts that the gateway is told, and the number of lost items. -/
def Gateway.Status.texts (s : Gateway.Status) : String × String × String × Nat :=
  (openClosed s.doorOpen, openClosed s.spaceOpen, s.bolt.word, s.overflows)

theorem Gateway.Status.texts_injective : Function.Injective Gateway.Status.texts := by
  have sensor : ∀ isOpen isOpen', openClosed isOpen = openClosed isOpen' → isOpen = isOpen' := by decide
  have bolt (b b' : Lock.BoltState) (same : b.word = b'.word) : b = b' := by
    cases b <;> cases b' <;> first | rfl | exact absurd same (by decide)
  rintro ⟨door, space, b, lost⟩ ⟨door', space', b', lost'⟩ same
  simp only [texts, Prod.mk.injEq] at same
  obtain ⟨sameDoor, sameSpace, sameBolt, rfl⟩ := same
  rw [sensor _ _ sameDoor, sensor _ _ sameSpace, bolt _ _ sameBolt]

namespace Door

open Outbox (Channel Outbound)

def Deed.report? : Deed → Option Gateway.Status
  | .report status => some status
  | _ => none

/-- What of a turn concerns the status that the gateway is told. -/
structure Publication where
  /-- What the link holds. -/
  status : Option Gateway.Status
  lastPush : Option (Gateway.Status × Nat)
  reports : List Gateway.Status

namespace Turn

def publication (t : Turn) : Publication where
  status := t.link.status
  lastPush := t.state.lastPush
  reports := t.deeds.filterMap Deed.report?

variable (s : Settings) (i : Snapshot) (t : Turn)

@[simp] theorem act_publication (d : Deed) (other : d.report? = none) : (act d t).publication = t.publication := by
  simp [publication, act, other]

@[simp] theorem offer_publication (item : Outbox.Item) : (t.offer item).publication = t.publication :=
  act_publication t (.offer item) rfl

@[simp] theorem log_publication (text : String) : (log i text t).publication = t.publication :=
  offer_publication t _

@[simp] theorem say_publication (channel : Channel) (text : String) :
    (say i channel text t).publication = t.publication :=
  (offer_publication _ _).trans (act_publication t (.say channel text) rfl)

@[simp] theorem send_publication (text : String) : (send i text t).publication = t.publication :=
  say_publication i t .monitoring text

@[simp] theorem setStatus_publication (text : String) (general : Bool) :
    (setStatus i text general t).publication = t.publication :=
  says_eq i _ publication (fun channel t => say_publication i t channel text) _

@[simp] theorem leaveOpen_publication : (leaveOpen i t).publication = t.publication :=
  leaveOpen_eq i t publication (setStatus_publication i t _ true)

@[simp] theorem showStatus_publication (text : String) (color : Color) :
    (showStatus text color t).publication = t.publication := act_publication t _ rfl

@[simp] theorem showMessage_publication (text : String) (color : Color) :
    (showMessage s text color t).publication = t.publication := act_publication t _ rfl

@[simp] theorem setMode_publication (mode : Mode) : (setMode mode t).publication = t.publication := rfl

@[simp] theorem setDeadline_publication (deadline : Option Nat) :
    (setDeadline deadline t).publication = t.publication := rfl

@[simp] theorem startTimeout_publication (ms : Nat) : (startTimeout ms t).publication = t.publication := rfl

@[simp] theorem askFor_publication (time : Nat) : (askFor time t).publication = t.publication := rfl

@[simp] theorem setPattern_publication (p : Reader.Pattern) : (setPattern p t).publication = t.publication := by
  unfold setPattern
  split
  · rfl
  · exact act_publication _ _ rfl

@[simp] theorem setSound_publication (sound : Reader.Sound) : (setSound sound t).publication = t.publication := by
  unfold setSound
  split
  · rfl
  · exact act_publication _ _ rfl

@[simp] theorem idlePattern_publication (p : Reader.Pattern) : (idlePattern i p t).publication = t.publication :=
  idlePattern_eq i t publication (fun p t => setPattern_publication t p) (fun _ => rfl) p

@[simp] theorem feedback_publication (p : Reader.Pattern) : (feedback s i p t).publication = t.publication :=
  setPattern_publication t p

@[simp] theorem checkOpenDay_publication : (checkOpenDay s i t).publication = t.publication := by
  unfold checkOpenDay
  split <;> simp

@[simp] theorem pressLeave_publication : (pressLeave s i t).publication = t.publication := by
  simp [pressLeave]

@[simp] theorem warnClosing_publication : (warnClosing s i t).publication = t.publication := by
  unfold warnClosing
  dsimp only
  split <;> simp

@[simp] theorem checkCard_publication (card : CardId) (unlocks : Bool) :
    (checkCard s i card unlocks t).publication = t.publication := by
  have asked : (act (.checkCard card) t).publication = t.publication := act_publication t _ rfl
  unfold checkCard answerCard
  cases i.access card with
  | allowed user => cases unlocks <;> simp [asked]
  | forbidden | unknownCard | error => simp [asked]

@[simp] theorem applyRemote_publication (a : Gateway.Action) :
    (applyRemote s i a t).publication = t.publication := by
  cases a with
  | lock =>
      dsimp only [applyRemote]
      split <;> simp
  | unlock | unknown => simp [applyRemote]

@[simp] theorem handle_publication : (handle s i t).publication = t.publication := by
  unfold handle
  cases t.state.mode with
  | initial => simp [handleInitial]
  | locked =>
      unfold handleLocked
      cases i.pressed.white <;> cases i.pressed.green <;> cases i.card <;> cases i.pressed.leave <;> simp
  | opened =>
      unfold handleOpened
      cases i.openDay <;> cases i.keys.red <;> cases i.card <;> simp
  | timed => apply handleTimed_eq s i t publication <;> simp

@[simp] theorem handleMode_publication : (handleMode s i t).publication = t.publication := by
  unfold handleMode
  dsimp only
  split <;> simp

@[simp] theorem armDeadline_publication : (armDeadline i t).publication = t.publication := by
  unfold armDeadline
  split
  · rfl
  · exact log_publication i t _

@[simp] theorem driveLock_publication : (driveLock s i t).publication = t.publication := by
  have driven (target : Lock.BoltState) : (act (.driveLock target) t).publication = t.publication :=
    act_publication t _ rfl
  unfold driveLock
  dsimp only
  split
  · rfl
  unfold answerLock
  split
  · exact driven _
  dsimp only
  split
  · exact (log_publication i _ _).trans (driven _)
  · rw [send_publication]
    exact (log_publication i _ _).trans (driven _)

@[simp] theorem logInputs_publication : (logInputs i t).publication = t.publication := by
  have noted (t : Turn) (lastSensors : Option (Lock.BoltState × Bool)) :
      publication { t with state := { t.state with lastSensors } } = t.publication := rfl
  unfold logInputs
  cases i.card <;> dsimp only <;> split <;> split <;> simp only [noted, log_publication]

theorem pushStatus_publication : (pushStatus s i t).publication =
    if t.pushDue s i.now (t.currentStatus i) then {
      status := some (t.currentStatus i)
      lastPush := some (t.currentStatus i, i.now)
      reports := t.publication.reports ++ [t.currentStatus i] }
    else t.publication := by
  unfold pushStatus
  dsimp only
  split
  · simp only [publication, act, List.filterMap_append, Gateway.Link.setStatus]
    rfl
  · rfl

end Turn

namespace Run

variable (r : Run) (n : Nat)

/-- A turn after its inputs have been logged. -/
def loggedAt : Turn := ((r.moments n).begun (r.stateAt n)).logInputs (r.snapshotAt n)

/-- A turn after the status has been published, if it had to be. -/
def publishedAt : Turn := (r.loggedAt n).pushStatus r.settings (r.snapshotAt n)

/-- The status in a turn: of the door and the bolt as the turn finds them, of the space as the turn before has left
it, and of the items that the two logs have lost, up to the ones on the inputs. -/
def statusAt : Gateway.Status where
  doorOpen := (r.moments n).inputs.lock.doorOpen
  spaceOpen := (r.stateAt n).mode = .opened
  bolt := (r.moments n).inputs.lock.bolt
  overflows := (r.loggedAt n).outbound.overflows

theorem statusAt_texts : (r.statusAt n).texts = (Gateway.openClosed (r.moments n).inputs.lock.doorOpen,
    if (r.stateAt n).mode = .opened then "open" else "closed", (r.moments n).inputs.lock.bolt.word,
    (r.loggedAt n).outbound.debug.overflows + (r.loggedAt n).outbound.audit.overflows) := by
  simp only [Gateway.Status.texts, statusAt, Gateway.openClosed, decide_eq_true_eq]
  rfl

/-- What a turn tells the link. -/
def reportsAt : List Gateway.Status := (r.turnAt n).deeds.filterMap Deed.report?

/-- Nobody else tells the link a status. -/
def SoleReporter : Prop := ∀ n, (r.moments (n + 1)).link.status = (r.turnAt n).link.status

/-- Whether a status is published in a turn. -/
def publishesAt : Bool := (r.loggedAt n).pushDue r.settings (r.timeAt n) (r.statusAt n)

theorem loggedAt_currentStatus : (r.loggedAt n).currentStatus (r.snapshotAt n) = r.statusAt n := by
  have mode : (r.loggedAt n).state.mode = (r.stateAt n).mode :=
    congrArg Course.mode (Turn.logInputs_course (r.snapshotAt n) _)
  unfold Turn.currentStatus
  rw [mode]
  rfl

theorem loggedAt_publication : (r.loggedAt n).publication =
    ⟨(r.moments n).link.status, (r.stateAt n).lastPush, []⟩ :=
  Turn.logInputs_publication (r.snapshotAt n) _

theorem publishedAt_publication : (r.publishedAt n).publication =
    if r.publishesAt n then ⟨some (r.statusAt n), some (r.statusAt n, r.timeAt n), [r.statusAt n]⟩
    else ⟨(r.moments n).link.status, (r.stateAt n).lastPush, []⟩ := by
  have pushed := Turn.pushStatus_publication r.settings (r.snapshotAt n) (r.loggedAt n)
  rwa [loggedAt_currentStatus, loggedAt_publication] at pushed

/-- A turn goes on with what the gateway asks for. -/
theorem preparedAt_eq : r.preparedAt n = match (r.snapshotAt n).remote with
    | some action => (r.publishedAt n).applyRemote r.settings (r.snapshotAt n) action
    | none => r.publishedAt n := rfl

/-- After it has been published, the status is let alone in a turn. -/
theorem turnAt_publication : (r.turnAt n).publication = (r.publishedAt n).publication := by
  have prepared : (r.preparedAt n).publication = (r.publishedAt n).publication := by
    rw [preparedAt_eq]
    split
    · exact Turn.applyRemote_publication r.settings (r.snapshotAt n) _ _
    · rfl
  unfold turnAt
  rw [Moment.turn_eq, Turn.driveLock_publication, Turn.armDeadline_publication, Turn.handleMode_publication]
  exact prepared

theorem turnAt_status : (r.turnAt n).link.status = (r.publishedAt n).link.status :=
  congrArg Publication.status (r.turnAt_publication n)

theorem turnAt_publishes : (r.turnAt n).publication =
    if r.publishesAt n then ⟨some (r.statusAt n), some (r.statusAt n, r.timeAt n), [r.statusAt n]⟩
    else ⟨(r.moments n).link.status, (r.stateAt n).lastPush, []⟩ :=
  (r.turnAt_publication n).trans (r.publishedAt_publication n)

theorem reportsAt_eq : r.reportsAt n = if r.publishesAt n then [r.statusAt n] else [] := by
  have reports := congrArg Publication.reports (r.turnAt_publishes n)
  rw [apply_ite Publication.reports] at reports
  exact reports

theorem stateAt_lastPush : (r.stateAt (n + 1)).lastPush =
    if r.publishesAt n then some (r.statusAt n, r.timeAt n) else (r.stateAt n).lastPush := by
  have remembered := congrArg Publication.lastPush (r.turnAt_publishes n)
  rw [apply_ite Publication.lastPush] at remembered
  exact remembered

/-- What is remembered is what has been published last, and when. -/
theorem stateAt_lastPush_eq_some_iff (status : Gateway.Status) (time : Nat) :
    (r.stateAt n).lastPush = some (status, time) ↔ ∃ k < n, r.publishesAt k = true ∧ r.statusAt k = status ∧
      r.timeAt k = time ∧ ∀ l, k < l → l < n → r.publishesAt l = false := by
  have step (n : Nat) : (r.stateAt (n + 1)).lastPush =
      (if r.publishesAt n then some (some (r.statusAt n, r.timeAt n)) else none).getD (r.stateAt n).lastPush := by
    rw [stateAt_lastPush]
    split <;> rfl
  have written := eq_iff_written_last (fun n => (r.stateAt n).lastPush) step n (some (status, time))
  have new : (r.stateAt 0).lastPush ≠ some (status, time) := by simp [stateAt]
  simpa [new, and_assoc] using written

theorem publishesAt_iff : r.publishesAt n = true ↔ ∀ status time, (r.stateAt n).lastPush = some (status, time) →
    status ≠ r.statusAt n ∨ r.settings.statusPush ≤ r.timeAt n - time := by
  have same : (r.loggedAt n).state.lastPush = (r.stateAt n).lastPush :=
    congrArg Publication.lastPush (r.loggedAt_publication n)
  unfold publishesAt Turn.pushDue
  rw [same]
  cases (r.stateAt n).lastPush with
  | none => simp
  | some last =>
      obtain ⟨status, time⟩ := last
      simp

theorem publishesAt_zero : r.publishesAt 0 = true := by
  rw [publishesAt_iff]
  intro status time remembered
  cases remembered

/-- The link and what is remembered agree on a status. -/
def HoldsAt (status : Gateway.Status) : Prop :=
  (r.publishedAt n).link.status = some status ∧ ∃ time, (r.stateAt (n + 1)).lastPush = some (status, time)

variable {r n}

theorem HoldsAt.of_publishes (publishes : r.publishesAt n = true) : r.HoldsAt n (r.statusAt n) := by
  have published := r.publishedAt_publication n
  rw [if_pos publishes] at published
  refine ⟨congrArg Publication.status published, r.timeAt n, ?_⟩
  rw [stateAt_lastPush, if_pos publishes]

/-- What is not published is the same as what has been published last. -/
theorem HoldsAt.next {status : Gateway.Status} (holds : r.HoldsAt n status) (sole : r.SoleReporter)
    (silent : r.publishesAt (n + 1) = false) : status = r.statusAt (n + 1) ∧ r.HoldsAt (n + 1) status := by
  obtain ⟨link, time, remembered⟩ := holds
  have kept := r.publishedAt_publication (n + 1)
  rw [silent, if_neg Bool.false_ne_true] at kept
  have same : status = r.statusAt (n + 1) := by
    by_contra differ
    rw [← Bool.not_eq_true, publishesAt_iff] at silent
    apply silent
    intro other at_ found
    rw [remembered] at found
    cases found
    exact .inl differ
  refine ⟨same, ?_, time, ?_⟩
  · exact (congrArg Publication.status kept).trans ((sole n).trans ((r.turnAt_status n).trans link))
  · rw [stateAt_lastPush, silent, if_neg Bool.false_ne_true, remembered]

/-- The link holds the status of the turn, whether it has just been published or not. -/
theorem holdsAt_statusAt (sole : r.SoleReporter) (n : Nat) : r.HoldsAt n (r.statusAt n) := by
  induction n with
  | zero => exact .of_publishes r.publishesAt_zero
  | succ n ih =>
      cases publishes : r.publishesAt (n + 1) with
      | true => exact .of_publishes publishes
      | false =>
          obtain ⟨same, holds⟩ := ih.next sole publishes
          exact same ▸ holds

/-- A turn publishes the status if none has been published, or if the last one differs or is old. -/
theorem publishesAt_iff_last (ordered : r.Ordered) (sole : r.SoleReporter) : r.publishesAt n = true ↔ n = 0 ∨
    ∃ k < n, r.publishesAt k = true ∧ (∀ l, k < l → l < n → r.publishesAt l = false) ∧
      (r.statusAt k ≠ r.statusAt n ∨ r.timeAt k + r.settings.statusPush ≤ r.timeAt n) := by
  -- Either way what has been published last is what is remembered, and a later turn has something to remember.
  constructor
  · intro publishes
    cases n with
    | zero => exact .inl rfl
    | succ n =>
        obtain ⟨-, time, remembered⟩ := r.holdsAt_statusAt sole n
        have due := (r.publishesAt_iff (n + 1)).mp publishes _ time remembered
        obtain ⟨k, before, published, status, rfl, silent⟩ := (r.stateAt_lastPush_eq_some_iff _ _ _).mp remembered
        have earlier : r.timeAt k ≤ r.timeAt (n + 1) := monotone_nat_of_le_succ ordered before.le
        refine .inr ⟨k, before, published, silent, ?_⟩
        rw [status]
        exact due.imp_right fun old => by omega
  · rintro (rfl | ⟨k, before, published, silent, due⟩)
    · exact r.publishesAt_zero
    · have remembered := (r.stateAt_lastPush_eq_some_iff n _ _).mpr ⟨k, before, published, rfl, rfl, silent⟩
      rw [publishesAt_iff]
      intro status time found
      rw [remembered] at found
      cases found
      exact due.imp_right fun old => by omega

/-- Once it has been published if need be, and up to the end of each turn, the link holds the status of this turn. A
turn publishes it once at most: in the first turn, and when it reads otherwise than the one published last or that
was published too long ago. -/
theorem published_status_is_current (ordered : r.Ordered) (sole : r.SoleReporter) (n : Nat) :
    (r.publishedAt n).link.status = some (r.statusAt n) ∧ (r.turnAt n).link.status = some (r.statusAt n) ∧
    (r.statusAt n).texts = (Gateway.openClosed (r.moments n).inputs.lock.doorOpen,
      if (r.stateAt n).mode = .opened then "open" else "closed", (r.moments n).inputs.lock.bolt.word,
      (r.loggedAt n).outbound.debug.overflows + (r.loggedAt n).outbound.audit.overflows) ∧
    (r.reportsAt n = [r.statusAt n] ∨ r.reportsAt n = []) ∧
    (r.reportsAt n ≠ [] ↔ n = 0 ∨ ∃ k < n, r.reportsAt k = [r.statusAt k] ∧
      (∀ l, k < l → l < n → r.reportsAt l = []) ∧
        ((r.statusAt k).texts ≠ (r.statusAt n).texts ∨
          r.timeAt k + r.settings.statusPush ≤ r.timeAt n)) := by
  obtain ⟨held, -⟩ := r.holdsAt_statusAt sole n
  have last := publishesAt_iff_last (n := n) ordered sole
  refine ⟨held, (r.turnAt_status n).trans held, r.statusAt_texts n, ?_, ?_⟩
  · rw [reportsAt_eq]
    exact ite_eq_or_eq _ _ _
  · simpa [reportsAt_eq, Gateway.Status.texts_injective.ne_iff] using last

/-- What a turn begins with if nobody else touches the queues or the link. -/
def leftBefore (settings : Settings) (outbound : Outbound) (inputs : Nat → Inputs) :
    Nat → State × Outbound × Gateway.Link
  | 0 => ({}, outbound, {})
  | n + 1 =>
      let (state, outbound, link) := leftBefore settings outbound inputs n
      let t := tick settings (inputs n) state outbound link
      (t.state, t.outbound, t.link)

def undisturbed (settings : Settings) (outbound : Outbound) (inputs : Nat → Inputs) : Run where
  settings
  moments n :=
    let (_, outbound, link) := leftBefore settings outbound inputs n
    ⟨inputs n, outbound, link⟩

theorem undisturbed_sole (settings : Settings) (outbound : Outbound) (inputs : Nat → Inputs) :
    (undisturbed settings outbound inputs).SoleReporter := by
  have state (n : Nat) :
      (undisturbed settings outbound inputs).stateAt n = (leftBefore settings outbound inputs n).1 := by
    induction n with
    | zero => rfl
    | succ n ih =>
        unfold stateAt
        rw [ih]
        rfl
  intro n
  unfold turnAt
  rw [state]
  rfl

/-- A second passes between turns, and from the third one on the door stands open. The log has room for one item. -/
def ajar : Run := undisturbed { statusPush := 2000 }
  { debug := { capacity := 1 }, audit := { capacity := 1 }, chat := { capacity := 1 }
    membership := { capacity := 1 } }
  fun n => {
    now := n * 1000
    wall := 0
    weekday := .monday
    keys := {}
    lock := { doorOpen := decide (2 ≤ n) }
    bolt := .locked
    card := none
    access _ := .forbidden
    drive _ := .ok () }

/-- The status is held in the fourth turn, which does not publish it, and published again in the fifth one. -/
theorem ajar_published : ajar.Ordered ∧ ajar.SoleReporter ∧ ajar.reportsAt 3 = [] ∧
    (ajar.publishedAt 3).link.status =
      some { doorOpen := true, spaceOpen := false, bolt := .unknown, overflows := 2 } ∧
    ajar.reportsAt 4 ≠ [] := by
  have ordered : ajar.Ordered := fun n => Nat.mul_le_mul_right 1000 (Nat.le_succ n)
  have sole : ajar.SoleReporter := undisturbed_sole _ _ _
  obtain ⟨held, -⟩ := published_status_is_current ordered sole 3
  obtain ⟨-, -, -, -, due⟩ := published_status_is_current ordered sole 4
  have silent : ajar.reportsAt 3 = [] := by rfl
  refine ⟨ordered, sole, silent, held, ?_⟩
  refine due.mpr (.inr ⟨2, by decide, rfl, ?_, .inr (Nat.le_refl 4000)⟩)
  intro l after before
  obtain rfl : l = 3 := by omega
  exact silent

end Run

end Door

end DoorControl
