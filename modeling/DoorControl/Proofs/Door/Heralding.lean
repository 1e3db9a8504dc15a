/- The parts of a turn tell everyone of each change of the space, and of nothing else. -/
import DoorControl.Proofs.Door.News
import DoorControl.Proofs.Door.Run

namespace DoorControl.Door

open Outbox (Outbound)

namespace Turn

def isOpen (t : Turn) : Bool := t.state.course.mode = .opened

/-- The news of a turn are up to date: they have led to what its mode is. -/
def Heralds (b : Bool) (changes : List Bool) (t : Turn) : Prop :=
  t.news.Tell b changes t.isOpen

variable {s : Settings} {i : Snapshot} {b b' : Bool} {changes : List Bool} {t t' : Turn}

theorem Heralds.same (h : t'.news.Tell b changes t.isOpen) (same : t'.isOpen = t.isOpen) :
    t'.Heralds b (changes ++ shift t.isOpen t'.isOpen) := by
  unfold Heralds
  rw [same, shift_self, List.append_nil]
  exact h

theorem log_heralds (h : t.Heralds b changes) (text : String) :
    (log i text t).Heralds b changes := by
  unfold Heralds
  rw [news_blind.log]
  exact h

theorem send_heralds (h : t.Heralds b changes) (text : String) :
    (send i text t).Heralds b changes := News.Tell.send h text

theorem leaveOpen_tell (h : t.Heralds b changes) :
    (leaveOpen i t).news.Tell b (changes ++ shift t.isOpen false) false := by
  unfold Heralds at h
  unfold leaveOpen
  split
  · next mode =>
      have isOpen : t.isOpen = true := decide_eq_true mode
      rw [isOpen] at h ⊢
      exact h.announce
  · next mode =>
      have isOpen : t.isOpen = false := decide_eq_false mode
      rw [isOpen] at h ⊢
      simpa using h

theorem checkOpenDay_heralds (h : t.news.Tell b changes false) (closed : t.isOpen = false) :
    (checkOpenDay s i t).Heralds b (changes ++ shift t.isOpen (checkOpenDay s i t).isOpen) := by
  unfold checkOpenDay
  split
  · have told : (setMode .opened t).news.Tell b changes false := h
    have opened : (setStatus i Outbound.openText true (setMode .opened t)).isOpen = true := by
      simp [isOpen, State.course, setMode]
    unfold Heralds
    rw [closed, opened]
    exact told.announce
  · refine Heralds.same ?_ rfl
    rw [news_blind.showMessage, closed]
    exact h

theorem applyRemote_heralds (h : t.Heralds b changes) (a : Gateway.Action) :
    (applyRemote s i a t).Heralds b
      (changes ++ shift t.isOpen (applyRemote s i a t).isOpen) := by
  have begun (text : String) : (log i text t).Heralds b changes := log_heralds h text
  cases a with
  | lock =>
      dsimp only [applyRemote]
      split
      · exact Heralds.same (send_heralds (begun _) _) rfl
      · exact leaveOpen_tell (send_heralds (begun _) _)
  | unlock => exact leaveOpen_tell (send_heralds (begun _) _)
  | unknown text => exact Heralds.same (send_heralds (log_heralds (begun _) _) _) rfl

theorem prepare_heralds (h : t.Heralds b changes) :
    (prepare s i t).Heralds b (changes ++ shift t.isOpen (prepare s i t).isOpen) := by
  have kept : (pushStatus s i (logInputs i t)).isOpen = t.isOpen := by simp [isOpen]
  have noted : (pushStatus s i (logInputs i t)).Heralds b changes := by
    unfold Heralds
    rw [news_blind.pushStatus, news_blind.logInputs, kept]
    exact h
  unfold prepare
  dsimp only
  split
  · rw [← kept]
    exact applyRemote_heralds noted _
  · exact Heralds.same (kept ▸ noted) kept

theorem feedback_news (p : Reader.Pattern) : (feedback s i p t).news = t.news :=
  news_blind.setPattern t p

/-- What is said on a card does not concern the space. -/
theorem checkCard_tell (h : t.news.Tell b changes b') (card : CardId) (unlocks : Bool) :
    (checkCard s i card unlocks t).news.Tell b changes b' := by
  have asked : (act (.checkCard card) t).news.Tell b changes b' := by
    rw [act_news rfl]
    exact h
  unfold checkCard
  cases i.access card with
  | allowed user =>
      dsimp only [answerCard]
      rw [offer_news _ rfl, offer_news _ rfl]
      cases unlocks with
      | true =>
          simp only [if_true, news_blind.setMode, news_blind.startTimeout]
          apply News.Tell.send
          rw [news_blind.setPattern, news_blind.showMessage]
          exact asked
      | false => exact asked.send _
  | forbidden =>
      dsimp only [answerCard]
      rw [news_blind.log]
      apply News.Tell.send
      rw [feedback_news, news_blind.showMessage]
      exact asked
  | unknownCard =>
      dsimp only [answerCard]
      rw [offer_news _ rfl]
      apply News.Tell.send
      rw [feedback_news, news_blind.showMessage]
      exact asked
  | error message =>
      dsimp only [answerCard]
      apply News.Tell.send
      rw [feedback_news, news_blind.showMessage]
      exact asked

/-- A card opens the door for a time at most, which is not open to everyone. -/
theorem checkCard_isOpen (card : CardId) (unlocks : Bool) (closed : unlocks = true → t.isOpen = false) :
    (checkCard s i card unlocks t).isOpen = t.isOpen := by
  unfold isOpen at *
  rw [checkCard_course]
  cases unlocks <;> cases (i.access card).isAllowed <;> simp_all

theorem pressLeave_tell (h : t.news.Tell b changes b') :
    (pressLeave s i t).news.Tell b changes b' := by
  unfold pressLeave
  rw [news_blind.startTimeout]
  exact h.send _

theorem handleLocked_heralds (h : t.Heralds b changes) (closed : t.isOpen = false) :
    (handleLocked s i t).Heralds b (changes ++ shift t.isOpen (handleLocked s i t).isOpen) := by
  unfold handleLocked
  dsimp only
  generalize greeted : setStatus i ":lock: Door is locked" false _ = t'
  have kept : t'.isOpen = t.isOpen := by simp [isOpen, ← greeted]
  have told : t'.news.Tell b changes t'.isOpen := by
    rw [kept, closed, ← greeted]
    refine News.Tell.setLine ?_ (by decide)
    rw [news_blind.showStatus, news_blind.setSound, news_blind.idlePattern, ← closed]
    exact h
  rw [← kept]
  rw [← kept] at closed
  split
  · exact checkOpenDay_heralds (closed ▸ told) closed
  split
  · refine Heralds.same ?_ closed.symm
    rw [news_blind.setMode, news_blind.startTimeout, news_blind.log]
    exact told
  split
  · exact Heralds.same (checkCard_tell told _ true) (checkCard_isOpen _ true fun _ => closed)
  split
  · refine Heralds.same ?_ closed.symm
    rw [news_blind.setMode]
    exact pressLeave_tell told
  · exact Heralds.same told rfl

theorem handleOpened_heralds (h : t.Heralds b changes) :
    (handleOpened s i t).Heralds b (changes ++ shift t.isOpen (handleOpened s i t).isOpen) := by
  unfold handleOpened
  dsimp only
  generalize greeted : showStatus "Open" .green _ = t'
  have kept : t'.isOpen = t.isOpen := by simp [isOpen, ← greeted]
  have told : t'.Heralds b changes := by
    unfold Heralds
    rw [kept, ← greeted, news_blind.showStatus, news_blind.setSound, news_blind.idlePattern]
    exact h
  rw [← kept]
  -- The space may be closed before a card is looked at.
  generalize closing : (if (!i.openDay) = true then
    log i "It is no longer an open day" t' |>.leaveOpen i |>.setMode .locked
    else if i.keys.red = true then leaveOpen i t' |>.setMode .locked else t') = t''
  have left : t''.Heralds b (changes ++ shift t'.isOpen t''.isOpen) := by
    rw [← closing]
    split
    · exact leaveOpen_tell (log_heralds told _)
    split
    · exact leaveOpen_tell told
    · exact Heralds.same told rfl
  split
  · next card _ =>
      have still : (checkCard s i card false t'').isOpen = t''.isOpen := checkCard_isOpen card false nofun
      unfold Heralds
      rw [still]
      exact checkCard_tell left card false
  · exact left

theorem handleTimed_heralds (h : t.Heralds b changes) (closed : t.isOpen = false) :
    (handleTimed s i t).Heralds b (changes ++ shift t.isOpen (handleTimed s i t).isOpen) := by
  unfold handleTimed
  split
  · exact Heralds.same h closed.symm
  generalize pressed : (if i.pressed.white then checkOpenDay s i t else t) = t'
  have white : t'.Heralds b (changes ++ shift t.isOpen t'.isOpen) := by
    rw [← pressed]
    split
    · exact checkOpenDay_heralds (closed ▸ h) closed
    · exact Heralds.same h rfl
  dsimp only
  split
  · exact white
  split
  · have still : (setSound .none (pressLeave s i t')).isOpen = t'.isOpen := by simp [isOpen]
    unfold Heralds
    rw [still, news_blind.setSound]
    exact pressLeave_tell white
  · have still : (warnClosing s i t').isOpen = t'.isOpen := by simp [isOpen]
    unfold Heralds
    rw [still, news_blind.warnClosing]
    exact white

theorem handle_heralds (h : t.Heralds b changes) :
    (handle s i t).Heralds b (changes ++ shift t.isOpen (handle s i t).isOpen) := by
  unfold handle
  cases mode : t.state.mode with
  | initial =>
      have closed : t.isOpen = false := by simp [isOpen, State.course, mode]
      refine Heralds.same ?_ closed.symm
      unfold handleInitial
      rw [news_blind.setMode, news_blind.setPattern]
      exact h
  | locked => exact handleLocked_heralds h (by simp [isOpen, State.course, mode])
  | opened => exact handleOpened_heralds h
  | timed => exact handleTimed_heralds h (by simp [isOpen, State.course, mode])

theorem handleMode_heralds (h : t.Heralds b changes) :
    (handleMode s i t).Heralds b (changes ++ shift t.isOpen (handleMode s i t).isOpen) := by
  have handled := handle_heralds (s := s) (i := i) h
  unfold handleMode
  dsimp only
  split
  · exact handled
  · exact log_heralds handled _

theorem armDeadline_heralds (h : t.Heralds b changes) :
    (armDeadline i t).Heralds b changes := by
  unfold armDeadline
  split
  · exact h
  · exact log_heralds h _

theorem driveLock_heralds (h : t.Heralds b changes) :
    (driveLock s i t).Heralds b changes := by
  have driven (target : Lock.BoltState) : (act (.driveLock target) t).Heralds b changes := by
    unfold Heralds
    rw [act_news rfl]
    exact h
  unfold driveLock
  dsimp only
  split
  · exact h
  unfold answerLock
  split
  · exact driven _
  dsimp only
  split
  · exact log_heralds (driven _) _
  · exact send_heralds (log_heralds (driven _) _) _

end Turn

/-- The changes of the space in a turn: when the gateway's action is carried out, and when the mode is
acted on. -/
def Moment.changes (s : Settings) (m : Moment) (state : State) : List Bool :=
  let commanded := state.course.commanded s (m.snapshot state)
  shift (state.mode = .opened) (commanded.mode = .opened) ++
    shift (commanded.mode = .opened) ((m.turn s state).state.mode = .opened)

/-- A turn that finds the line kept for comparison up to date tells of all its changes. -/
theorem Moment.turn_heralds (s : Settings) (m : Moment) (state : State)
    (line : m.outbound.lastStatus = some Outbound.openText ↔ state.mode = .opened) :
    (m.turn s state).Heralds (state.mode = .opened) (m.changes s state) := by
  let i := m.snapshot state
  have start : (m.begun state).Heralds (state.mode = .opened) [] :=
    ⟨.silent, line.trans decide_eq_true_iff.symm⟩
  have prepared := Turn.prepare_heralds (s := s) (i := i) start
  have handled := Turn.handleMode_heralds (s := s) (i := i) prepared
  have ended : (m.turn s state).Heralds _ _ :=
    Turn.driveLock_heralds (s := s) (Turn.armDeadline_heralds (i := i) handled)
  have commanded : (m.prepared s state).isOpen =
      decide ((state.course.commanded s (m.snapshot state)).mode = .opened) := by
    rw [Turn.isOpen, prepared_course]
  have acted : ((m.prepared s state).handleMode s (m.snapshot state)).isOpen =
      decide ((m.turn s state).state.mode = .opened) := by
    have armed : (m.decided s state).state.mode = _ :=
      congrArg Course.mode (Turn.armDeadline_course (m.snapshot state) _)
    rw [← decided_mode, armed]
    rfl
  rw [changes, ← commanded, ← acted]
  exact ended

end DoorControl.Door
