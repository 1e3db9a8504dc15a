/- The lines in which a turn logs a change of its mode. -/
import DoorControl.Proofs.Door.Offers
import DoorControl.Proofs.Outbox.Fitting

namespace DoorControl.Door

open Outbox (Item Outbound)

/-- The line on a change of the mode. -/
def transitionLine (before after : Mode) : String :=
  let fromName := before.name
  let toName := after.name
  s!"State {fromName} -> {toName}"

/-- What the lines on changes of the mode begin with. -/
def stateMark : List Char := "State ".toList

/-- The line of the log on a change of the mode that a deed offers. -/
def Deed.transition? : Deed → Option String
  | .offer item =>
      if item.kind = .debug ∧ stateMark.isPrefixOf item.text.toList then some item.text else none
  | _ => none

theorem logItem_marked {text : String} {seconds : Int}
    (marked : stateMark.isPrefixOf (Outbound.logItem text seconds).text.toList = true) :
    stateMark.isPrefixOf text.toList = true := by
  rw [List.isPrefixOf_iff_prefix] at marked ⊢
  refine marked.trans ?_
  simpa [Outbound.logItem, Item.new] using Outbox.fit_isPrefix _ _

theorem transitionLine_fits (before after : Mode) (seconds : Int) :
    (Outbound.logItem (transitionLine before after) seconds).text = transitionLine before after := by
  cases before <;> cases after <;> rfl

theorem transitionLine_marked (before after : Mode) :
    stateMark.isPrefixOf (transitionLine before after).toList = true := by
  cases before <;> cases after <;> decide

theorem transitionLine_inj {before other after : Mode} :
    transitionLine before after = transitionLine other after ↔ before = other := by
  cases before <;> cases other <;> cases after <;> decide

/-- A text that is no such line, whatever follows it. -/
def Apart (text : String) : Prop :=
  (stateMark.isPrefixOf text.toList || text.toList.isPrefixOf stateMark) = false

instance (text : String) : Decidable (Apart text) := inferInstanceAs (Decidable (_ = _))

theorem Apart.append {text : String} (apart : Apart text) (rest : String) : Apart (text ++ rest) := by
  unfold Apart at *
  rw [String.toList_append, Bool.or_eq_false_iff]
  refine ⟨isPrefixOf_append_eq_false _ apart, Bool.eq_false_iff.mpr fun within => ?_⟩
  rw [List.isPrefixOf_iff_prefix] at within
  have short := List.isPrefixOf_iff_prefix.mpr ((List.prefix_append _ _).trans within)
  rw [short, Bool.or_true] at apart
  nomatch apart

namespace Turn

variable (s : Settings) (i : Snapshot) (t : Turn)

/-- The lines on changes of the mode that a turn has logged so far. -/
def transitions (t : Turn) : List String := t.deeds.filterMap Deed.transition?

theorem act_transitions {d : Deed} (other : d.transition? = none) :
    (act d t).transitions = t.transitions := by
  simp [transitions, act, other]

theorem offer_transitions {item : Item} (other : (Deed.offer item).transition? = none) :
    (t.offer item).transitions = t.transitions := act_transitions t other

theorem transitions_outward : Outward transitions where
  state _ _ := rfl
  link _ _ := rfl
  act d t quiet := act_transitions t (by cases d <;> simp_all [Deed.isQuiet, Deed.transition?])

theorem log_transitions {text : String} (apart : Apart text) :
    (log i text t).transitions = t.transitions := by
  refine offer_transitions t (if_neg fun ⟨_, marked⟩ => ?_)
  have := logItem_marked marked
  simp [Apart, this] at apart

theorem log_transitionLine (before after : Mode) :
    (log i (transitionLine before after) t).transitions =
      t.transitions ++ [transitionLine before after] := by
  have line := transitionLine_fits before after i.wall
  have kind : (Outbound.logItem (transitionLine before after) i.wall).kind = .debug := rfl
  simp [transitions, log, offer, act, Deed.transition?, kind, line, transitionLine_marked]

theorem say_transitions (channel : Outbox.Channel) (text : String) :
    (say i channel text t).transitions = t.transitions :=
  (offer_transitions _ rfl).trans (act_transitions t rfl)

theorem send_transitions (text : String) : (send i text t).transitions = t.transitions :=
  say_transitions i t .monitoring text

theorem setStatus_transitions (text : String) (general : Bool) :
    (setStatus i text general t).transitions = t.transitions :=
  says_eq i _ transitions (fun channel t => say_transitions i t channel text) _

theorem leaveOpen_transitions : (leaveOpen i t).transitions = t.transitions :=
  leaveOpen_eq i t transitions (setStatus_transitions i t _ true)

theorem feedback_transitions (p : Reader.Pattern) :
    (feedback s i p t).transitions = t.transitions := transitions_outward.setPattern t p

theorem checkOpenDay_transitions : (checkOpenDay s i t).transitions = t.transitions := by
  unfold checkOpenDay
  split
  · exact setStatus_transitions i (setMode .opened t) _ true
  · exact transitions_outward.showMessage s t _ _

theorem logInputs_transitions : (logInputs i t).transitions = t.transitions := by
  have card (card : CardId) (t : Turn) :
      (log i s!"Card {card} swiped" t).transitions = t.transitions :=
    log_transitions i t (((by decide : Apart "Card ").append _).append _)
  have keys (t : Turn) : (log i ("Keys " ++ i.keys.render) t).transitions = t.transitions :=
    log_transitions i t ((by decide : Apart "Keys ").append _)
  have sensors (bolt door : String) (t : Turn) :
      (log i s!"Lock status {bolt} door {door}" t).transitions = t.transitions :=
    log_transitions i t ((((by decide : Apart "Lock status ").append _).append _).append _)
  unfold logInputs
  cases i.card <;> dsimp only <;> split <;> split <;>
    simp only [transitions_outward.state, card, keys, sensors]

theorem applyRemote_transitions (a : Gateway.Action) :
    (applyRemote s i a t).transitions = t.transitions := by
  have begun (shown : String) : (log i s!"Start action '{shown}'" t).transitions = t.transitions :=
    log_transitions i t (((by decide : Apart "Start action '").append _).append _)
  cases a with
  | lock =>
      dsimp only [applyRemote]
      split
      · rw [send_transitions, begun]
      · rw [transitions_outward.setMode, transitions_outward.setDeadline, leaveOpen_transitions,
          send_transitions, begun]
  | unlock =>
      refine (leaveOpen_transitions i _).trans ?_
      rw [send_transitions, begun]
  | unknown text =>
      refine (send_transitions i _ _).trans ?_
      refine (log_transitions i _ (((by decide : Apart "Unknown action '").append _).append _)).trans ?_
      exact begun _

theorem prepare_transitions : (prepare s i t).transitions = t.transitions := by
  have noted : (pushStatus s i (logInputs i t)).transitions = t.transitions := by
    rw [transitions_outward.pushStatus, logInputs_transitions]
  unfold prepare
  dsimp only
  split
  · rw [applyRemote_transitions, noted]
  · exact noted

theorem checkCard_transitions (card : CardId) (unlocks : Bool) :
    (checkCard s i card unlocks t).transitions = t.transitions := by
  have asked : (act (.checkCard card) t).transitions = t.transitions := act_transitions t rfl
  unfold checkCard
  cases i.access card with
  | allowed user =>
      dsimp only [answerCard]
      rw [offer_transitions _ rfl, offer_transitions _ rfl]
      cases unlocks with
      | true =>
          simp only [if_true]
          rw [transitions_outward.setMode, transitions_outward.startTimeout, send_transitions,
            transitions_outward.setPattern, transitions_outward.showMessage, asked]
      | false => exact (send_transitions i _ _).trans asked
  | forbidden =>
      have apart : Apart s!"Unauthorized card {card} swiped" :=
        ((by decide : Apart "Unauthorized card ").append _).append _
      dsimp only [answerCard]
      rw [log_transitions i _ apart, send_transitions, feedback_transitions,
        transitions_outward.showMessage, asked]
  | unknownCard =>
      dsimp only [answerCard]
      rw [offer_transitions _ rfl, send_transitions, feedback_transitions,
        transitions_outward.showMessage, asked]
  | error message =>
      dsimp only [answerCard]
      rw [send_transitions, feedback_transitions, transitions_outward.showMessage, asked]

theorem pressLeave_transitions : (pressLeave s i t).transitions = t.transitions := by
  unfold pressLeave
  rw [transitions_outward.startTimeout, send_transitions]

theorem handleLocked_transitions : (handleLocked s i t).transitions = t.transitions := by
  unfold handleLocked
  dsimp only
  generalize greeted : setStatus i ":lock: Door is locked" false _ = t'
  have same : t'.transitions = t.transitions := by
    rw [← greeted, setStatus_transitions, transitions_outward.showStatus,
      transitions_outward.setSound, transitions_outward.idlePattern]
  rw [← same]
  split
  · exact checkOpenDay_transitions s i t'
  split
  · rw [transitions_outward.setMode, transitions_outward.startTimeout,
      log_transitions i t' (by decide)]
  split
  · exact checkCard_transitions s i t' _ true
  split
  · rw [transitions_outward.setMode, pressLeave_transitions]
  · rfl

theorem handleOpened_transitions : (handleOpened s i t).transitions = t.transitions := by
  unfold handleOpened
  dsimp only
  generalize greeted : showStatus "Open" .green _ = t'
  have same : t'.transitions = t.transitions := by
    rw [← greeted, transitions_outward.showStatus, transitions_outward.setSound,
      transitions_outward.idlePattern]
  generalize closing : (if (!i.openDay) = true then
    log i "It is no longer an open day" t' |>.leaveOpen i |>.setMode .locked
    else if i.keys.red = true then leaveOpen i t' |>.setMode .locked else t') = t''
  have still : t''.transitions = t.transitions := by
    rw [← closing, ← same]
    split
    · rw [transitions_outward.setMode, leaveOpen_transitions, log_transitions i t' (by decide)]
    split
    · rw [transitions_outward.setMode, leaveOpen_transitions]
    · rfl
  rw [← still]
  split
  · exact checkCard_transitions s i t'' _ false
  · rfl

theorem handle_transitions : (handle s i t).transitions = t.transitions := by
  unfold handle
  cases t.state.mode with
  | initial => exact transitions_outward.setPattern t .ready
  | locked => exact handleLocked_transitions s i t
  | opened => exact handleOpened_transitions s i t
  | timed =>
      exact handleTimed_eq s i t transitions (fun _ _ => rfl) (fun _ _ => rfl)
        (checkOpenDay_transitions s i) (pressLeave_transitions s i)
        (fun sound t => transitions_outward.setSound t sound) (transitions_outward.warnClosing s i)

/-- The line that a change of the mode leaves in the log. -/
def transitionLines (before after : Mode) : List String :=
  if after = before then [] else [transitionLine before after]

theorem handleMode_transitions : (handleMode s i t).transitions =
    t.transitions ++ transitionLines t.state.mode (handle s i t).state.mode := by
  unfold handleMode transitionLines
  dsimp only
  split
  · rw [handle_transitions, List.append_nil]
  · refine (log_transitionLine i _ _ _).trans ?_
    rw [handle_transitions]

theorem armDeadline_transitions : (armDeadline i t).transitions = t.transitions := by
  unfold armDeadline
  split
  · rfl
  · exact log_transitions i t (((by decide : Apart "Set timeout of ").append _).append _)

theorem driveLock_transitions : (driveLock s i t).transitions = t.transitions := by
  have driven (target : Lock.BoltState) :
      (act (.driveLock target) t).transitions = t.transitions := act_transitions t rfl
  have failed (cause : String) (t : Turn) :
      (log i s!"Lock command failed: {cause}" t).transitions = t.transitions :=
    log_transitions i t ((by decide : Apart "Lock command failed: ").append _)
  unfold driveLock
  dsimp only
  split
  · rfl
  unfold answerLock
  split
  · exact driven _
  dsimp only
  split
  · exact (failed _ _).trans (driven _)
  · exact (send_transitions i _ _).trans ((failed _ _).trans (driven _))

end Turn

/-- The mode that the gateway's action sets. -/
def ordered? (i : Snapshot) : Option Mode :=
  match i.remote with
  | some .lock => if i.lock.doorOpen then none else some .locked
  | some .unlock => some .timed
  | some (.unknown _) | none => none

theorem Course.commanded_mode_eq (s : Settings) (i : Snapshot) (c : Course) :
    (c.commanded s i).mode = (ordered? i).getD c.mode := by
  unfold commanded ordered?
  cases i.remote with
  | none => rfl
  | some a =>
      cases a with
      | lock => dsimp only; split <;> rfl
      | unlock => rfl
      | unknown text => rfl

theorem Moment.turn_transitions (s : Settings) (m : Moment) (state : State) :
    (m.turn s state).transitions = Turn.transitionLines
      ((ordered? (m.snapshot state)).getD state.mode) (m.turn s state).state.mode := by
  have prepared : (m.prepared s state).transitions = [] :=
    Turn.prepare_transitions s (m.snapshot state) _
  have before := (congrArg Course.mode (m.prepared_course s state)).trans
    (Course.commanded_mode_eq s (m.snapshot state) state.course)
  have after := congrArg Course.mode (m.turn_course s state)
  rw [turn_eq, Turn.driveLock_transitions, Turn.armDeadline_transitions, Turn.handleMode_transitions,
    prepared, List.nil_append]
  exact congrArg₂ Turn.transitionLines before after.symm

namespace Run

variable (r : Run) (n : Nat)

/-- A turn logs the change of the mode that it makes itself. A change that it makes at the gateway's
order is part of what the mode was before. The line goes to the queue of the log. -/
theorem own_transitions_are_logged :
    (r.turnAt n).transitions = Turn.transitionLines
        ((ordered? (r.snapshotAt n)).getD (r.stateAt n).mode) (r.stateAt (n + 1)).mode ∧
      ((r.stateAt (n + 1)).mode ≠ (r.stateAt n).mode →
        ((r.turnAt n).transitions = [transitionLine (r.stateAt n).mode (r.stateAt (n + 1)).mode] ↔
          ∀ mode, ordered? (r.snapshotAt n) = some mode → mode = (r.stateAt n).mode)) ∧
      (r.turnAt n).HandsOver (r.snapshotAt n) (r.moments n).outbound := by
  have logged : (r.turnAt n).transitions = Turn.transitionLines
      ((ordered? (r.snapshotAt n)).getD (r.stateAt n).mode) (r.stateAt (n + 1)).mode :=
    (r.moments n).turn_transitions r.settings (r.stateAt n)
  refine ⟨logged, fun moved => ?_, r.turnAt_handsOver n⟩
  rw [logged, Turn.transitionLines]
  cases order : ordered? (r.snapshotAt n) with
  | none => simp [moved]
  | some mode =>
      simp only [Option.getD_some, Option.some.injEq, forall_eq']
      split
      · next obeyed =>
          simp only [List.nil_eq, List.cons_ne_self, false_iff]
          rintro rfl
          exact moved obeyed
      · rw [List.cons.injEq, transitionLine_inj]
        simp

theorem greenHeld_logged : (greenHeld.stateAt 2).mode ≠ (greenHeld.stateAt 1).mode ∧
    (greenHeld.turnAt 1).transitions = ["State Locked -> TimedUnlock"] := by
  have moved : (greenHeld.stateAt 2).mode ≠ (greenHeld.stateAt 1).mode := by decide
  have logged := (greenHeld.own_transitions_are_logged 1).2.1 moved
  exact ⟨moved, logged.mpr nofun⟩

/-- The gateway unlocks the door in the second turn. -/
def beckoned : Run :=
  { greenHeld with
    moments n := { greenHeld.moments n with
      inputs := { (greenHeld.moments n).inputs with keys := {} }
      link := { action := if n = 1 then some .unlock else none } } }

theorem beckoned_unlogged : (beckoned.stateAt 1).mode = .locked ∧
    (beckoned.stateAt 2).mode = .timed ∧ (beckoned.turnAt 1).transitions ≠
      [transitionLine (beckoned.stateAt 1).mode (beckoned.stateAt 2).mode] := by
  decide

end Run

end DoorControl.Door
