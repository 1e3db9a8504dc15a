/- What a door has its card reader show and play: the cue that the handler of a mode gives, and what of it
reaches the reader. -/
import DoorControl.Proofs.Door.Swipes

namespace DoorControl.Door

open Reader (Pattern Sound)

def Deed.pattern? : Deed → Option Pattern
  | .showPattern p => some p
  | _ => none

def Deed.sound? : Deed → Option Sound
  | .playSound sound => some sound
  | _ => none

/-- What of a turn concerns the reader: what it has been asked for in this turn, and what the door
remembers of that and of earlier turns. -/
structure Signals where
  patterns : List Pattern
  sounds : List Sound
  pattern : Option Pattern
  sound : Sound
  feedbackUntil : Option Nat

/-- What the handler of a mode wants of the reader. -/
structure Cue where
  /-- The pattern of the mode. It waits while the answer to a card is shown. -/
  idle : Option Pattern := none
  /-- A pattern that is shown at once. -/
  prompt : Option Pattern := none
  /-- The answer to a card that is refused, to be shown for a while. -/
  refusal : Option Pattern := none
  sound : Option Sound := none

/-- The pattern that comes of it, if any. -/
def Cue.painted (waits : Bool) (cue : Cue) : Option Pattern :=
  cue.refusal.or (cue.prompt.or (if waits then none else cue.idle))

namespace Signals

variable (s : Settings) (now : Nat) (g : Signals)

def waits : Bool := g.feedbackUntil.any (now < ·)

def display (p : Pattern) : Signals :=
  if g.pattern = some p then g else { g with pattern := some p, patterns := g.patterns ++ [p] }

def play (sound : Sound) : Signals :=
  if g.sound = sound then g else { g with sound, sounds := g.sounds ++ [sound] }

def rest (p : Pattern) : Signals :=
  if g.waits now then g else display { g with feedbackUntil := none } p

def refuse (p : Pattern) : Signals :=
  { g.display p with feedbackUntil := some (now + s.message) }

def follow (cue : Cue) : Signals :=
  let g := cue.idle.elim g (g.rest now)
  let g := cue.sound.elim g g.play
  let g := cue.prompt.elim g g.display
  cue.refusal.elim g (g.refuse s now)

theorem play_display (p : Pattern) (sound : Sound) :
    (g.display p).play sound = (g.play sound).display p := by
  unfold display play
  by_cases shown : g.pattern = some p <;> by_cases played : g.sound = sound <;> simp [shown, played]

@[simp] theorem display_pattern (p : Pattern) : (g.display p).pattern = some p := by
  unfold display
  split
  · assumption
  · rfl

@[simp] theorem display_sound (p : Pattern) : (g.display p).sound = g.sound := by
  unfold display; split <;> rfl

@[simp] theorem display_feedbackUntil (p : Pattern) :
    (g.display p).feedbackUntil = g.feedbackUntil := by
  unfold display; split <;> rfl

@[simp] theorem play_pattern (sound : Sound) : (g.play sound).pattern = g.pattern := by
  unfold play; split <;> rfl

@[simp] theorem play_sound (sound : Sound) : (g.play sound).sound = sound := by
  unfold play
  split
  · assumption
  · rfl

@[simp] theorem play_feedbackUntil (sound : Sound) :
    (g.play sound).feedbackUntil = g.feedbackUntil := by
  unfold play; split <;> rfl

@[simp] theorem rest_pattern (p : Pattern) :
    (g.rest now p).pattern = if g.waits now then g.pattern else some p := by
  unfold rest; split <;> simp

@[simp] theorem rest_sound (p : Pattern) : (g.rest now p).sound = g.sound := by
  unfold rest; split <;> simp

@[simp] theorem rest_feedbackUntil (p : Pattern) :
    (g.rest now p).feedbackUntil = if g.waits now then g.feedbackUntil else none := by
  unfold rest; split <;> simp

@[simp] theorem refuse_pattern (p : Pattern) : (g.refuse s now p).pattern = some p :=
  g.display_pattern p

@[simp] theorem refuse_sound (p : Pattern) : (g.refuse s now p).sound = g.sound := g.display_sound p

theorem follow_pattern (cue : Cue) :
    (g.follow s now cue).pattern = (cue.painted (g.waits now)).or g.pattern := by
  obtain ⟨idle, prompt, refusal, sound⟩ := cue
  cases refusal <;> cases prompt <;> cases sound <;> cases idle <;>
    cases waiting : g.waits now <;> simp [follow, Cue.painted, waiting]

theorem follow_sound (cue : Cue) : (g.follow s now cue).sound = cue.sound.getD g.sound := by
  obtain ⟨idle, prompt, refusal, sound⟩ := cue
  cases refusal <;> cases prompt <;> cases sound <;> cases idle <;> simp [follow]

theorem follow_feedbackUntil (cue : Cue) : (g.follow s now cue).feedbackUntil =
    if cue.refusal.isSome then some (now + s.message)
    else if cue.idle.isSome && !g.waits now then none
    else g.feedbackUntil := by
  obtain ⟨idle, prompt, refusal, sound⟩ := cue
  cases refusal <;> cases prompt <;> cases sound <;> cases idle <;>
    cases waiting : g.waits now <;> simp [follow, refuse, waiting]

/-- What the door remembers is what the reader has been asked for last. -/
structure Faithful (pattern : Option Pattern) (sound : Sound) (g : Signals) : Prop where
  pattern : g.pattern = g.patterns.getLast?.or pattern
  sound : g.sound = g.sounds.getLast?.getD sound

namespace Faithful

variable {pattern : Option Pattern} {sound : Sound} {g : Signals} (h : g.Faithful pattern sound)

include h

theorem display (p : Pattern) : (g.display p).Faithful pattern sound := by
  unfold Signals.display
  split
  · exact h
  · exact ⟨by simp, h.sound⟩

theorem play (next : Sound) : (g.play next).Faithful pattern sound := by
  unfold Signals.play
  split
  · exact h
  · exact ⟨h.pattern, by simp⟩

theorem rest (now : Nat) (p : Pattern) : (g.rest now p).Faithful pattern sound := by
  unfold Signals.rest
  split
  · exact h
  · exact Faithful.display (g := { g with feedbackUntil := none }) ⟨h.pattern, h.sound⟩ p

theorem refuse (s : Settings) (now : Nat) (p : Pattern) :
    (g.refuse s now p).Faithful pattern sound :=
  ⟨(h.display p).pattern, (h.display p).sound⟩

theorem follow (s : Settings) (now : Nat) (cue : Cue) :
    (g.follow s now cue).Faithful pattern sound := by
  obtain ⟨idle, prompt, refusal, next⟩ := cue
  have rested : (idle.elim g (g.rest now)).Faithful pattern sound := by
    cases idle with
    | none => exact h
    | some p => exact h.rest now p
  have played : (next.elim (idle.elim g (g.rest now)) (idle.elim g (g.rest now)).play).Faithful
      pattern sound := by
    cases next with
    | none => exact rested
    | some next => exact rested.play next
  unfold Signals.follow
  dsimp only
  generalize next.elim (idle.elim g (g.rest now)) (idle.elim g (g.rest now)).play = g' at played ⊢
  cases prompt with
  | none =>
      cases refusal with
      | none => exact played
      | some p => exact played.refuse s now p
  | some prompt =>
      cases refusal with
      | none => exact played.display prompt
      | some p => exact (played.display prompt).refuse s now p

end Faithful

end Signals

/-- The pattern that answers a card that is not let in. -/
def refusalPattern? : AccessResult → Option Pattern
  | .allowed _ => none
  | .forbidden | .unknownCard => some .noEntry
  | .error _ => some .error

def refusal? (i : Snapshot) (mode : Mode) : Option Pattern :=
  (asked? i mode).bind fun card => refusalPattern? (i.access card)

theorem refusal?_cases {i : Snapshot} {mode : Mode} {p : Pattern} (refused : refusal? i mode = some p) :
    p = .noEntry ∨ p = .error := by
  obtain ⟨card, -, shown⟩ := Option.bind_eq_some_iff.mp refused
  cases answer : i.access card <;> simp_all [refusalPattern?]

theorem refusal?_of_admits {i : Snapshot} (admitted : admits i = true) : refusal? i .locked = none := by
  obtain ⟨card, asked, allowed⟩ := (Option.any_eq_true _ _).mp admitted
  unfold refusal?
  rw [asked]
  cases answer : i.access card <;> simp_all [refusalPattern?, AccessResult.isAllowed]

/-- Whether a timed unlock goes on: it is neither ended nor made an open space. -/
def lingers (i : Snapshot) (deadline : Option Nat) : Bool :=
  !i.keys.red && deadline.any (i.now < ·) && !(i.pressed.white && i.openDay)

/-- How a timed unlock with some time left is announced. -/
def warning (s : Settings) (left : Nat) : Cue :=
  if left ≤ s.unlockWarn then
    { prompt := some .warnClosing
      sound := some (if s.closingWarn < left then .warningBeep else .closingWarning) }
  else {}

def cue (s : Settings) (i : Snapshot) (mode : Mode) (deadline : Option Nat) : Cue :=
  match mode with
  | .initial => { prompt := some .ready }
  | .locked => {
      idle := some .ready
      sound := some .none
      prompt := if admits i then some .enter else none
      refusal := refusal? i .locked }
  | .opened => { idle := some .opened, sound := some .none, refusal := refusal? i .opened }
  | .timed =>
      if !lingers i deadline then {}
      else if i.pressed.leave then { sound := some .none }
      else warning s ((deadline.map (· - i.now)).getD 0)

theorem cue_refusal (s : Settings) (i : Snapshot) (mode : Mode) (d : Option Nat) :
    (cue s i mode d).refusal = refusal? i mode := by
  cases mode with
  | initial | locked | opened => rfl
  | timed =>
      unfold cue warning
      dsimp only
      split
      · rfl
      split
      · rfl
      split <;> rfl

theorem cue_idle (s : Settings) (i : Snapshot) (mode : Mode) (d : Option Nat) :
    (cue s i mode d).idle.isSome = (mode = .locked ∨ mode = .opened) := by
  cases mode with
  | initial | locked | opened => simp [cue]
  | timed =>
      unfold cue warning
      dsimp only
      split
      · simp
      split
      · simp
      split <;> simp

namespace Turn

variable (s : Settings) (i : Snapshot) (t : Turn)

def signals (t : Turn) : Signals where
  patterns := t.deeds.filterMap Deed.pattern?
  sounds := t.deeds.filterMap Deed.sound?
  pattern := t.state.pattern
  sound := t.state.sound
  feedbackUntil := t.state.feedbackUntil

theorem act_signals {d : Deed} (pattern : d.pattern? = none) (sound : d.sound? = none) :
    (act d t).signals = t.signals := by
  simp [signals, act, pattern, sound]

@[simp] theorem offer_signals (item : Outbox.Item) : (t.offer item).signals = t.signals :=
  act_signals t rfl rfl

@[simp] theorem log_signals (text : String) : (log i text t).signals = t.signals :=
  offer_signals t _

@[simp] theorem say_signals (channel : Outbox.Channel) (text : String) :
    (say i channel text t).signals = t.signals :=
  (offer_signals _ _).trans (act_signals t rfl rfl)

@[simp] theorem send_signals (text : String) : (send i text t).signals = t.signals :=
  say_signals i t .monitoring text

@[simp] theorem setStatus_signals (text : String) (general : Bool) :
    (setStatus i text general t).signals = t.signals :=
  says_eq i _ signals (fun channel t => say_signals i t channel text) _

@[simp] theorem leaveOpen_signals : (leaveOpen i t).signals = t.signals :=
  leaveOpen_eq i t signals (setStatus_signals i t _ true)

@[simp] theorem showStatus_signals (text : String) (color : Color) :
    (showStatus text color t).signals = t.signals := act_signals t rfl rfl

@[simp] theorem showMessage_signals (text : String) (color : Color) :
    (showMessage s text color t).signals = t.signals := act_signals t rfl rfl

@[simp] theorem setMode_signals (mode : Mode) : (setMode mode t).signals = t.signals := rfl

@[simp] theorem setDeadline_signals (deadline : Option Nat) :
    (setDeadline deadline t).signals = t.signals := rfl

@[simp] theorem startTimeout_signals (ms : Nat) : (startTimeout ms t).signals = t.signals := rfl

@[simp] theorem askFor_signals (time : Nat) : (askFor time t).signals = t.signals := rfl

@[simp] theorem setPattern_signals (p : Pattern) :
    (setPattern p t).signals = t.signals.display p := by
  unfold setPattern Signals.display
  split
  · next shown => rw [if_pos (show t.signals.pattern = some p from shown)]
  · next other =>
      rw [if_neg (show t.signals.pattern ≠ some p from other)]
      simp [signals, act, Deed.pattern?, Deed.sound?]

@[simp] theorem setSound_signals (sound : Sound) :
    (setSound sound t).signals = t.signals.play sound := by
  unfold setSound Signals.play
  split
  · next played => rw [if_pos (show t.signals.sound = sound from played)]
  · next other =>
      rw [if_neg (show t.signals.sound ≠ sound from other)]
      simp [signals, act, Deed.pattern?, Deed.sound?]

@[simp] theorem idlePattern_signals (p : Pattern) :
    (idlePattern i p t).signals = t.signals.rest i.now p := by
  unfold idlePattern Signals.rest
  cases until? : t.state.feedbackUntil with
  | none =>
      have waits : t.signals.waits i.now = false := by simp [Signals.waits, signals, until?]
      have same : { t.signals with feedbackUntil := none } = t.signals := by simp [signals, until?]
      rw [waits, if_neg Bool.false_ne_true, same]
      exact setPattern_signals t p
  | some time =>
      have waits : t.signals.waits i.now = decide (i.now < time) := by
        simp [Signals.waits, signals, until?]
      rw [waits]
      dsimp only
      split
      · next early => rw [if_pos (decide_eq_true early)]
      · next late =>
          rw [if_neg (by simpa using late)]
          exact setPattern_signals _ p

@[simp] theorem feedback_signals (p : Pattern) :
    (feedback s i p t).signals = t.signals.refuse s i.now p := by
  have shown := setPattern_signals t p
  unfold feedback Signals.refuse
  rw [← shown]
  rfl

@[simp] theorem checkOpenDay_signals : (checkOpenDay s i t).signals = t.signals := by
  unfold checkOpenDay
  split <;> simp

@[simp] theorem pressLeave_signals : (pressLeave s i t).signals = t.signals := by
  simp [pressLeave]

@[simp] theorem logInputs_signals : (logInputs i t).signals = t.signals := by
  have sensed (t : Turn) (sensors : Option (Lock.BoltState × Bool)) :
      signals { t with state := { t.state with lastSensors := sensors } } = t.signals := rfl
  unfold logInputs
  cases i.card <;> dsimp only <;> split <;> split <;> simp only [sensed, log_signals]

@[simp] theorem pushStatus_signals : (pushStatus s i t).signals = t.signals := by
  unfold pushStatus
  dsimp only
  split
  · exact act_signals _ rfl rfl
  · rfl

theorem prepare_signals : (prepare s i t).signals = t.signals := by
  unfold prepare
  cases i.remote with
  | none => simp
  | some a =>
      cases a with
      | lock => dsimp only [applyRemote]; split <;> simp
      | unlock => simp [applyRemote]
      | unknown text => simp [applyRemote]

theorem checkCard_signals (card : CardId) (unlocks : Bool) :
    (checkCard s i card unlocks t).signals =
      (refusalPattern? (i.access card)).elim
        (if unlocks && (i.access card).isAllowed then t.signals.display .enter else t.signals)
        (t.signals.refuse s i.now) := by
  have asked : (act (.checkCard card) t).signals = t.signals := act_signals t rfl rfl
  unfold checkCard
  cases i.access card with
  | allowed user =>
      cases unlocks <;> simp [answerCard, refusalPattern?, AccessResult.isAllowed, asked]
  | forbidden => simp [answerCard, refusalPattern?, asked]
  | unknownCard => simp [answerCard, refusalPattern?, asked]
  | error message => simp [answerCard, refusalPattern?, asked]

theorem warnClosing_signals : (warnClosing s i t).signals =
    t.signals.follow s i.now (warning s ((t.state.timeLeft i.now).getD 0)) := by
  unfold warnClosing warning
  dsimp only
  split
  · simp [Signals.follow, Signals.play_display]
  · simp [Signals.follow]

theorem handleLocked_signals (d : Option Nat) : (handleLocked s i t).signals =
    t.signals.follow s i.now (cue s i .locked d) := by
  unfold handleLocked
  dsimp only
  generalize greeted : setStatus i ":lock: Door is locked" false _ = t'
  have rested : t'.signals = (t.signals.rest i.now .ready).play .none := by simp [← greeted]
  unfold cue admits refusal? asked?
  cases i.pressed.white with
  | true => simp [Signals.follow, rested]
  | false =>
      cases i.pressed.green with
      | true => simp [Signals.follow, rested]
      | false =>
          cases i.card with
          | none => cases i.pressed.leave <;> simp [Signals.follow, rested]
          | some card =>
              cases answer : i.access card <;>
                simp [checkCard_signals, Signals.follow, rested, answer, refusalPattern?,
                  AccessResult.isAllowed]

theorem handleOpened_signals (d : Option Nat) : (handleOpened s i t).signals =
    t.signals.follow s i.now (cue s i .opened d) := by
  unfold handleOpened
  dsimp only
  generalize greeted : showStatus "Open" .green _ = t'
  have rested : t'.signals = (t.signals.rest i.now .opened).play .none := by simp [← greeted]
  generalize closing : (if (!i.openDay) = true then
    log i "It is no longer an open day" t' |>.leaveOpen i |>.setMode .locked
    else if i.keys.red = true then leaveOpen i t' |>.setMode .locked else t') = t''
  have still : t''.signals = t'.signals := by
    rw [← closing]
    split
    · simp
    split
    · simp
    · rfl
  unfold cue refusal? asked?
  cases i.card with
  | none => simp [Signals.follow, still, rested]
  | some card =>
      cases answer : i.access card <;>
        simp [checkCard_signals, Signals.follow, still, rested, answer, refusalPattern?]

theorem not_expired (now : Nat) (state : State) :
    (!expired now state) = state.deadline.any (now < ·) := by
  unfold expired
  cases state.deadline <;> simp [← decide_not]

theorem handleTimed_signals (timed : t.state.mode = .timed) : (handleTimed s i t).signals =
    t.signals.follow s i.now (cue s i .timed t.state.deadline) := by
  have goesOn : lingers i t.state.deadline =
      (!(i.keys.red || expired i.now t.state) && !(i.pressed.white && i.openDay)) := by
    rw [lingers, ← not_expired, Bool.not_or]
  unfold handleTimed cue
  rw [goesOn]
  generalize pressed : (if i.pressed.white then checkOpenDay s i t else t) = t'
  have same : t'.signals = t.signals := by
    rw [← pressed]
    split <;> simp
  have course : t'.state.course =
      if i.pressed.white && i.openDay then { t.state.course with mode := .opened }
      else t.state.course := by
    rw [← pressed]
    cases i.pressed.white <;> simp
  cases (i.keys.red || expired i.now t.state) with
  | true => simp [Signals.follow]
  | false =>
      cases day : i.pressed.white && i.openDay with
      | true =>
          have opened : t'.state.mode = .opened :=
            (congrArg Course.mode course).trans (by rw [day]; rfl)
          simp [opened, Signals.follow, same]
      | false =>
          have kept : t'.state.course = t.state.course := course.trans (by rw [day]; rfl)
          have mode : t'.state.mode = .timed := (congrArg Course.mode kept).trans timed
          have left : t'.state.timeLeft i.now = t.state.timeLeft i.now :=
            congrArg (·.deadline.map (· - i.now)) kept
          cases i.pressed.leave with
          | true => simp [mode, Signals.follow, same]
          | false =>
              have warned := warnClosing_signals s i t'
              rw [same, left] at warned
              simpa [mode, State.timeLeft] using warned

theorem handle_signals : (handle s i t).signals =
    t.signals.follow s i.now (cue s i t.state.mode t.state.deadline) := by
  unfold handle
  cases mode : t.state.mode with
  | initial => simp [handleInitial, Signals.follow, cue]
  | locked => exact handleLocked_signals s i t _
  | opened => exact handleOpened_signals s i t _
  | timed => exact handleTimed_signals s i t mode

theorem handleMode_signals : (handleMode s i t).signals =
    t.signals.follow s i.now (cue s i t.state.mode t.state.deadline) := by
  rw [← handle_signals]
  unfold handleMode
  dsimp only
  split
  · rfl
  · exact log_signals i _ _

theorem armDeadline_signals : (armDeadline i t).signals = t.signals := by
  unfold armDeadline
  split
  · rfl
  · exact log_signals i t _

theorem driveLock_signals : (driveLock s i t).signals = t.signals := by
  have driven (target : Lock.BoltState) : (act (.driveLock target) t).signals = t.signals :=
    act_signals t rfl rfl
  unfold driveLock
  dsimp only
  split
  · rfl
  unfold answerLock
  split
  · exact driven _
  dsimp only
  split
  · exact (log_signals i _ _).trans (driven _)
  · exact (send_signals i _ _).trans ((log_signals i _ _).trans (driven _))

end Turn

end DoorControl.Door
