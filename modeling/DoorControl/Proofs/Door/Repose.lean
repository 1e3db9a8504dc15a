/- A door that nothing moves: what it does in a turn, and how little of that is left over many turns. -/
import DoorControl.Proofs.Door.Announcements
import DoorControl.Proofs.Door.Overrun
import DoorControl.Proofs.Door.Shown

namespace DoorControl.Door

open Outbox (Channel Item Outbound)
open Reader (Pattern Sound)

def AtMostOne {α : Type} (fits : α → Prop) (l : List α) : Prop := l.length ≤ 1 ∧ ∀ x ∈ l, fits x

/-- What is done once at most, and fits then: it is done only where it has not been done before. -/
inductive Once {α : Type} (fits : α → Prop) : Prop → List α → Prop → Prop
  | nothing {before after : Prop} (kept : before → after) : Once fits before [] after
  | done {before after : Prop} (x : α) (new : ¬before) (fit : fits x) (settled : after) :
      Once fits before [x] after

namespace Once

variable {α : Type} {fits : α → Prop} {a b c : Prop} {l later : List α}

theorem append (h : Once fits a l b) (rest : Once fits b later c) : Once fits a (l ++ later) c := by
  cases h with
  | nothing kept =>
      cases rest with
      | nothing kept' => exact .nothing fun before => kept' (kept before)
      | done x new fit settled => exact .done x (fun before => new (kept before)) fit settled
  | done x new fit settled =>
      cases rest with
      | nothing kept => exact .done x new fit (kept settled)
      | done y again => exact absurd settled again

theorem flatMap_range {state : Nat → Prop} {work : Nat → List α} {n : Nat}
    (h : ∀ j < n, Once fits (state j) (work j) (state (j + 1))) :
    Once fits (state 0) ((List.range n).flatMap work) (state n) := by
  induction n with
  | zero => exact .nothing id
  | succ n ih =>
      rw [List.range_succ, List.flatMap_append, List.flatMap_singleton]
      exact (ih fun j lt => h j (Nat.lt_succ_of_lt lt)).append (h n (Nat.lt_succ_self n))

theorem imp {fits' : α → Prop} (weaker : ∀ x, fits x → fits' x) (h : Once fits a l b) : Once fits' a l b := by
  cases h with
  | nothing kept => exact .nothing kept
  | done x new fit settled => exact .done x new (weaker x fit) settled

theorem atMostOne (h : Once fits a l b) : AtMostOne fits l := by
  cases h with
  | nothing => exact ⟨Nat.zero_le 1, List.forall_mem_nil _⟩
  | done x new fit settled => exact ⟨Nat.le_refl 1, List.forall_mem_singleton.mpr fit⟩

end Once

/-- How a door shows that it rests in a mode. -/
structure Bearing where
  pattern : Pattern
  text : String
  color : Color
  /-- What those who watch over the door are told. -/
  line : Option String

def Mode.bearing? : Mode → Option Bearing
  | .locked => some {
      pattern := .ready
      text := "Locked"
      color := .orange
      line := some ":lock: Door is locked" }
  | .opened => some { pattern := .opened, text := "Open", color := .green, line := none }
  | .initial | .timed => none

/-- What the log is told about of a lock: the bolt, and whether the door is open. -/
def sensorsOf (lock : Lock.Status) : Lock.BoltState × Bool := (lock.bolt, lock.doorOpen)

def lockLine (lock : Lock.Status) : String :=
  let bolt := lock.bolt.word
  let door := Gateway.openClosed lock.doorOpen
  s!"Lock status {bolt} door {door}"

theorem Mode.bearing?_line {mode : Mode} {b : Bearing} (bearing : mode.bearing? = some b) :
    ∀ line ∈ b.line, mode = .locked ∧ line = ":lock: Door is locked" := by
  intro line told
  cases mode with
  | initial | timed => cases bearing
  | locked =>
      cases bearing
      exact ⟨rfl, (Option.some.inj told).symm⟩
  | opened =>
      cases bearing
      cases told

theorem Mode.bearing?_pattern {mode : Mode} {b : Bearing} (bearing : mode.bearing? = some b) :
    b.pattern = if mode = .locked then .ready else .opened := by
  cases mode <;> cases bearing <;> rfl

/-- A turn in which nothing moves a door away from the mode. -/
structure Snapshot.Idle (i : Snapshot) (mode : Mode) : Prop where
  unpressed : i.pressed.any = false
  cardless : i.card = none
  unasked : i.remote = none
  bolted : i.bolt = mode.target
  remains : mode = .opened → i.openDay = true ∧ i.keys.red = false

def Deed.logItem? : Deed → Option Item
  | .offer item => if item.kind = .debug then some item else none
  | _ => none

namespace Turn

variable (s : Settings) (i : Snapshot) (t : Turn) (b : Bearing)

def bear : Turn :=
  let t := idlePattern i b.pattern t |>.setSound .none |>.showStatus b.text b.color
  b.line.elim t fun line => setStatus i line false t

theorem bear_eq {α : Type} (f : Turn → α) (outward : Outward f)
    (line : ∀ text ∈ b.line, ∀ t, f (setStatus i text false t) = f t) : f (bear i t b) = f t := by
  have shown : f (idlePattern i b.pattern t |>.setSound .none |>.showStatus b.text b.color) = f t := by
    rw [outward.showStatus, outward.setSound, outward.idlePattern]
  unfold bear
  cases told : b.line with
  | none => exact shown
  | some text => exact (line text told _).trans shown

@[simp] theorem bear_course : (bear i t b).state.course = t.state.course := by
  unfold bear
  cases b.line <;> simp

theorem bear_signals : (bear i t b).signals = (t.signals.rest i.now b.pattern).play .none := by
  unfold bear
  cases b.line <;> simp

theorem bear_lastSensors : (bear i t b).state.lastSensors = t.state.lastSensors := by
  have painted (p : Pattern) (t : Turn) : (setPattern p t).state.lastSensors = t.state.lastSensors := by
    unfold setPattern
    split <;> rfl
  have played (sound : Sound) (t : Turn) : (setSound sound t).state.lastSensors = t.state.lastSensors := by
    unfold setSound
    split <;> rfl
  have rested (t : Turn) : (idlePattern i b.pattern t).state.lastSensors = t.state.lastSensors :=
    idlePattern_eq i t (·.state.lastSensors) painted (fun _ => rfl) b.pattern
  unfold bear
  cases b.line <;> simp [played, rested]

theorem handle_of_idle {b : Bearing} (bearing : t.state.mode.bearing? = some b)
    (idle : i.Idle t.state.mode) : handle s i t = bear i t b := by
  have unpressed := idle.unpressed
  simp only [Keys.any, Bool.or_eq_false_iff] at unpressed
  obtain ⟨⟨⟨-, white⟩, green⟩, leave⟩ := unpressed
  unfold handle
  cases mode : t.state.mode with
  | initial | timed =>
      rw [mode] at bearing
      cases bearing
  | locked =>
      rw [mode] at bearing
      cases bearing
      simp [handleLocked, white, green, leave, idle.cardless, bear]
  | opened =>
      obtain ⟨day, red⟩ := idle.remains mode
      rw [mode] at bearing
      cases bearing
      simp [handleOpened, day, red, idle.cardless, bear]

def logged (t : Turn) : List Item := t.deeds.filterMap Deed.logItem?

theorem logged_outward : Outward logged where
  state _ _ := rfl
  link _ _ := rfl
  act d t quiet := by cases d <;> simp_all [Deed.isQuiet, logged, act, Deed.logItem?]

theorem say_logged (channel : Channel) (text : String) : (say i channel text t).logged = t.logged := by
  simp [logged, say, offer, act, Deed.logItem?, Outbound.chatItem, Outbox.Item.new]

theorem bear_logged : (bear i t b).logged = t.logged := by
  refine bear_eq i t b logged logged_outward ?_
  intro text _ t
  exact says_eq i _ logged (fun channel t => say_logged i t channel text) _

theorem bear_news : (bear i t b).news = b.line.elim t.news fun line => { t.news with
    said := t.news.said ++ (t.outbound.statusChannels line false).map (·, line)
    chatted := t.news.chatted ++ t.outbound.statusItems line false i.wall
    lastStatus := some line } := by
  have sent : Outward outbound := ⟨fun _ _ => rfl, fun _ _ => rfl, fun _ _ _ => rfl⟩
  unfold bear
  cases b.line with
  | none =>
      dsimp only [Option.elim_none]
      rw [news_blind.showStatus, news_blind.setSound, news_blind.idlePattern]
  | some line =>
      dsimp only [Option.elim_some]
      rw [setStatus_news, sent.showStatus, sent.setSound, sent.idlePattern, news_blind.showStatus,
        news_blind.setSound, news_blind.idlePattern]

theorem logInputs_lastSensors :
    (logInputs i t).state.lastSensors = some (sensorsOf i.lock) := by
  unfold logInputs
  dsimp only
  split <;> split <;> split <;> first | assumption | rfl

theorem log_logged (text : String) : (log i text t).logged = t.logged ++ [Outbound.logItem text i.wall] := by
  simp [logged, log, offer, act, Deed.logItem?, Outbound.logItem, Outbox.Item.new]

theorem logInputs_of_idle {mode : Mode} (idle : i.Idle mode) : logInputs i t =
    if t.state.lastSensors = some (sensorsOf i.lock) then t
    else { log i (lockLine i.lock) t with
      state := { t.state with lastSensors := some (sensorsOf i.lock) } } := by
  unfold logInputs
  simp only [idle.cardless, idle.unpressed, Bool.false_eq_true, if_false]
  rfl

theorem logInputs_logged {mode : Mode} (idle : i.Idle mode) : (logInputs i t).logged = t.logged ++
    if t.state.lastSensors = some (sensorsOf i.lock) then []
    else [Outbound.logItem (lockLine i.lock) i.wall] := by
  rw [logInputs_of_idle i t idle]
  split
  · exact (List.append_nil _).symm
  · exact log_logged i t _

theorem pushStatus_lastSensors : (pushStatus s i t).state.lastSensors = t.state.lastSensors := by
  unfold pushStatus
  dsimp only
  split <;> rfl

theorem armDeadline_of_unpending (unpending : t.state.pendingTimeout = none) : armDeadline i t = t := by
  unfold armDeadline
  rw [unpending]

theorem driveLock_of_bolted (bolted : i.bolt = t.state.mode.target) : driveLock s i t = t := by
  unfold driveLock
  simp [bolted]

theorem bear_overrun : (bear i t b).overrun = t.overrun :=
  bear_eq i t b overrun overrun_blind.toOutward fun text _ t => setStatus_overrun i t text false

end Turn

namespace Signals

variable (g : Signals) (now : Nat) (p : Pattern) (sound : Sound)

@[simp] theorem rest_sounds : (g.rest now p).sounds = g.sounds := by
  unfold rest display
  split
  · rfl
  split <;> rfl

@[simp] theorem play_patterns : (g.play sound).patterns = g.patterns := by
  unfold play
  split <;> rfl

variable {g}

theorem rest_once (fresh : g.patterns = []) :
    Once (· = p) (g.pattern = some p) (g.rest now p).patterns ((g.rest now p).pattern = some p) := by
  unfold rest display
  split
  · rw [fresh]
    exact .nothing id
  split
  · rw [fresh]
    exact .nothing id
  · next other =>
      rw [fresh]
      exact .done p other rfl rfl

theorem play_once (fresh : g.sounds = []) :
    Once (· = sound) (g.sound = sound) (g.play sound).sounds ((g.play sound).sound = sound) := by
  unfold play
  split
  · rw [fresh]
    exact .nothing id
  · next other =>
      rw [fresh]
      exact .done sound other rfl rfl

end Signals

namespace Moment

variable (s : Settings) (m : Moment) (state : State) {b : Bearing}

theorem prepared_of_idle (idle : (m.snapshot state).Idle state.mode) : m.prepared s state =
    (m.begun state |>.logInputs (m.snapshot state) |>.pushStatus s (m.snapshot state)) := by
  change Turn.prepare s (m.snapshot state) (m.begun state) = _
  unfold Turn.prepare
  rw [idle.unasked]

theorem turn_of_idle (bearing : state.mode.bearing? = some b) (unpending : state.pendingTimeout = none)
    (idle : (m.snapshot state).Idle state.mode) :
    m.turn s state = Turn.bear (m.snapshot state) (m.prepared s state) b := by
  have course : (m.prepared s state).state.course = state.course := by
    rw [prepared_course, Course.commanded, idle.unasked]
  have mode : (m.prepared s state).state.mode = state.mode := congrArg Course.mode course
  have kept : (Turn.bear (m.snapshot state) (m.prepared s state) b).state.course = state.course :=
    (Turn.bear_course _ _ b).trans course
  have handled : (m.prepared s state).handleMode s (m.snapshot state) =
      Turn.bear (m.snapshot state) (m.prepared s state) b := by
    unfold Turn.handleMode
    rw [Turn.handle_of_idle s _ _ (mode ▸ bearing) (mode ▸ idle)]
    exact if_pos (congrArg Course.mode (Turn.bear_course _ _ b))
  rw [turn_eq, handled, Turn.armDeadline_of_unpending _ _ ((congrArg Course.pendingTimeout kept).trans unpending)]
  refine Turn.driveLock_of_bolted s _ _ (idle.bolted.trans ?_)
  exact congrArg (·.mode.target) kept.symm

end Moment

namespace Run

variable (r : Run) (k n : Nat)

/-- A number of turns in which nothing moves the door away from where it rests. -/
structure IdleOver : Prop where
  rests : (r.stateAt k).mode = .locked ∨ (r.stateAt k).mode = .opened
  idle : ∀ j < n, (r.snapshotAt (k + j)).Idle (r.stateAt k).mode
  sensors : ∀ j < n, sensorsOf (r.moments (k + j)).inputs.lock = sensorsOf (r.moments k).inputs.lock
  /-- Nobody else sends status lines. -/
  line : ∀ j < n, (r.moments (k + j + 1)).outbound.lastStatus = (r.turnAt (k + j)).outbound.lastStatus

variable {r k n} {b : Bearing}

section Turns

variable (idle : (r.snapshotAt n).Idle (r.stateAt n).mode)

include idle

theorem preparedAt_of_idle : r.preparedAt n =
    ((r.moments n).begun (r.stateAt n) |>.logInputs (r.snapshotAt n)
      |>.pushStatus r.settings (r.snapshotAt n)) :=
  Moment.prepared_of_idle r.settings (r.moments n) (r.stateAt n) idle

theorem asked?_of_idle (mode : Mode) : asked? (r.snapshotAt n) mode = none := by
  cases mode <;> simp [asked?, idle.cardless]

theorem entries_of_idle : (r.turnAt n).entries = [] := by
  have entries : (r.turnAt n).entries = Turn.dues _ (r.snapshotAt n) (r.preparedAt n).state.mode :=
    Moment.turn_entries _ _ _
  rw [entries, Turn.dues, asked?_of_idle idle]
  rfl

variable (bearing : (r.stateAt n).mode.bearing? = some b)

include bearing

theorem turnAt_of_idle : r.turnAt n = Turn.bear (r.snapshotAt n) (r.preparedAt n) b :=
  Moment.turn_of_idle r.settings (r.moments n) (r.stateAt n) bearing (r.stateAt_pendingTimeout n) idle

theorem course_of_idle : (r.stateAt (n + 1)).course = (r.stateAt n).course := by
  have turn := r.turnAt_of_idle idle bearing
  change (r.turnAt n).state.course = _
  rw [turn, Turn.bear_course, preparedAt_course, commandedAt, Course.commanded, idle.unasked]

theorem signals_of_idle : (r.turnAt n).signals =
    ((r.stateAt n).signals.rest (r.timeAt n) b.pattern).play .none := by
  have prepared : (r.preparedAt n).signals = (r.stateAt n).signals :=
    Turn.prepare_signals r.settings (r.snapshotAt n) _
  rw [turnAt_of_idle idle bearing, Turn.bear_signals, prepared]
  rfl

theorem patterns_once : Once (· = b.pattern) ((r.stateAt n).pattern = some b.pattern)
    ((r.turnAt n).deeds.filterMap Deed.pattern?) ((r.stateAt (n + 1)).pattern = some b.pattern) := by
  change Once _ _ (r.turnAt n).signals.patterns ((r.turnAt n).signals.pattern = _)
  rw [signals_of_idle idle bearing, Signals.play_patterns, Signals.play_pattern]
  exact @Signals.rest_once (r.stateAt n).signals (r.timeAt n) b.pattern rfl

theorem sounds_once : Once (· = Sound.none) ((r.stateAt n).sound = .none)
    ((r.turnAt n).deeds.filterMap Deed.sound?) ((r.stateAt (n + 1)).sound = .none) := by
  have once := Signals.play_once .none ((r.stateAt n).signals.rest_sounds (r.timeAt n) b.pattern)
  rw [Signals.rest_sound] at once
  change Once _ _ (r.turnAt n).signals.sounds ((r.turnAt n).signals.sound = _)
  rw [signals_of_idle idle bearing]
  exact once

theorem logs_once : Once (· = Outbound.logItem (lockLine (r.moments n).inputs.lock) (r.moments n).inputs.wall)
    ((r.stateAt n).lastSensors = some (sensorsOf (r.moments n).inputs.lock))
    ((r.turnAt n).deeds.filterMap Deed.logItem?)
    ((r.stateAt (n + 1)).lastSensors = some (sensorsOf (r.moments n).inputs.lock)) := by
  have after : (r.turnAt n).state.lastSensors = some (sensorsOf (r.moments n).inputs.lock) := by
    rw [turnAt_of_idle idle bearing, Turn.bear_lastSensors, preparedAt_of_idle idle,
      Turn.pushStatus_lastSensors, Turn.logInputs_lastSensors]
    rfl
  have logged : (r.turnAt n).logged =
      if (r.stateAt n).lastSensors = some (sensorsOf (r.moments n).inputs.lock) then []
      else [Outbound.logItem (lockLine (r.moments n).inputs.lock) (r.moments n).inputs.wall] := by
    rw [turnAt_of_idle idle bearing, Turn.bear_logged, preparedAt_of_idle idle,
      Turn.logged_outward.pushStatus, Turn.logInputs_logged _ _ idle]
    rfl
  change Once _ _ (r.turnAt n).logged ((r.turnAt n).state.lastSensors = _)
  rw [logged]
  split
  · exact .nothing fun _ => after
  · next new => exact .done _ new rfl after

theorem chat_once : Once
    (fun item => ∃ line ∈ b.line,
      item = (r.moments n).outbound.chatItem .monitoring line (r.moments n).inputs.wall)
    ((r.moments n).outbound.lastStatus = b.line)
    ((r.turnAt n).deeds.filterMap Deed.chatItem?) ((r.turnAt n).outbound.lastStatus = b.line) := by
  have prepared : (r.preparedAt n).news =
      ⟨[], [], (r.moments n).outbound.lastStatus, (r.moments n).outbound.doorName⟩ := by
    rw [preparedAt_of_idle idle, Turn.news_blind.pushStatus, Turn.news_blind.logInputs]
    rfl
  have status : (r.preparedAt n).outbound.lastStatus = (r.moments n).outbound.lastStatus :=
    congrArg News.lastStatus prepared
  have name : (r.preparedAt n).outbound.doorName = (r.moments n).outbound.doorName :=
    congrArg News.doorName prepared
  have news := Turn.bear_news (r.snapshotAt n) (r.preparedAt n) b
  rw [← turnAt_of_idle idle bearing, prepared] at news
  have chatted : (r.turnAt n).news.chatted = _ := congrArg News.chatted news
  have after : (r.turnAt n).news.lastStatus = _ := congrArg News.lastStatus news
  change Once _ _ (r.turnAt n).news.chatted ((r.turnAt n).news.lastStatus = _)
  rw [chatted, after]
  cases b.line with
  | none => exact .nothing id
  | some line =>
      unfold Outbound.statusItems Outbound.statusChannels
      rw [status]
      dsimp only [Option.elim_some]
      split
      · exact .nothing fun _ => rfl
      · next new => exact .done _ new ⟨line, rfl, Outbound.chatItem_congr name _ _ _⟩ rfl

theorem deeds_of_idle {d : Deed} (done : d ∈ (r.turnAt n).deeds) :
    d.check? = none ∧ d.entry? = none ∧ ∀ target, d ≠ .driveLock target := by
  refine ⟨?_, ?_, ?_⟩
  · have checks : (r.turnAt n).deeds.filterMap Deed.check? = _ := Moment.turn_checked _ _ _
    change _ = (asked? (r.snapshotAt n) (r.preparedAt n).state.mode).toList at checks
    rw [asked?_of_idle idle] at checks
    exact List.filterMap_eq_nil_iff.mp checks d done
  · exact List.filterMap_eq_nil_iff.mp (entries_of_idle idle) d done
  · rintro target rfl
    have mode : (r.turnAt n).state.mode = (r.stateAt n).mode :=
      congrArg Course.mode (course_of_idle idle bearing)
    have drives := ((Moment.turn_drives_iff r.settings (r.moments n) (r.stateAt n)).mp done).1
    have bolted : (r.moments n).inputs.bolt = (r.turnAt n).state.mode.target := by
      rw [mode]
      exact idle.bolted
    simp [Moment.drives, bolted, turnAt] at drives

theorem overrun_of_idle : (r.turnAt n).overrun = false := by
  rw [turnAt_of_idle idle bearing, Turn.bear_overrun, preparedAt_of_idle idle,
    Turn.overrun_blind.pushStatus, Turn.overrun_blind.logInputs]
  rfl

end Turns

/-- The deeds of a number of turns, one turn after the other. -/
def deedsOver (r : Run) (k n : Nat) : List Deed := (List.range n).flatMap fun j => (r.turnAt (k + j)).deeds

theorem deedsOver_once {α : Type} {fits : α → Prop} {kind : Deed → Option α} {p : Nat → Prop}
    (h : ∀ j < n, Once fits (p j) ((r.turnAt (k + j)).deeds.filterMap kind) (p (j + 1))) :
    AtMostOne fits ((r.deedsOver k n).filterMap kind) := by
  rw [deedsOver, List.filterMap_flatMap]
  exact (Once.flatMap_range h).atMostOne

namespace IdleOver

variable (idle : r.IdleOver k n)

include idle

theorem exists_bearing : ∃ b, (r.stateAt k).mode.bearing? = some b := by
  rcases idle.rests with mode | mode
  · exact ⟨_, congrArg Mode.bearing? mode⟩
  · exact ⟨_, congrArg Mode.bearing? mode⟩

theorem course {j : Nat} (upto : j ≤ n) : (r.stateAt (k + j)).course = (r.stateAt k).course := by
  obtain ⟨b, bearing⟩ := idle.exists_bearing
  induction j with
  | zero => rfl
  | succ j ih =>
      have same := ih (Nat.le_of_succ_le upto)
      have mode : (r.stateAt (k + j)).mode = (r.stateAt k).mode := congrArg Course.mode same
      have still := course_of_idle (mode.symm ▸ idle.idle j upto) (mode.symm ▸ bearing)
      exact still.trans same

theorem turn {j : Nat} (within : j < n) : (r.snapshotAt (k + j)).Idle (r.stateAt (k + j)).mode := by
  have mode : (r.stateAt (k + j)).mode = (r.stateAt k).mode := congrArg Course.mode (idle.course within.le)
  rw [mode]
  exact idle.idle j within

theorem bearing {b : Bearing} (bearing : (r.stateAt k).mode.bearing? = some b) {j : Nat} (within : j < n) :
    (r.stateAt (k + j)).mode.bearing? = some b := by
  have mode : (r.stateAt (k + j)).mode = (r.stateAt k).mode := congrArg Course.mode (idle.course within.le)
  rw [mode]
  exact bearing

end IdleOver

/-- Turns in which nothing moves the door change neither its mode nor its deadline. They ask nobody about a card, leave
the lock alone and make no entry known. However many they are, one item for the chat comes of them at most, which
says that the door is locked, one line for the log on the sensors of the lock, and one pattern and one sound. The
queues get what is offered, and those of the audit and the members stay as they are. -/
theorem idle_door_is_silent (idle : r.IdleOver k n) :
    (∀ j ≤ n, (r.stateAt (k + j)).mode = (r.stateAt k).mode ∧
      (r.stateAt (k + j)).deadline = (r.stateAt k).deadline) ∧
    (∀ d ∈ r.deedsOver k n, d.check? = none ∧ d.entry? = none ∧ ∀ target, d ≠ .driveLock target) ∧
    AtMostOne (fun item => (r.stateAt k).mode = .locked ∧ ∃ j < n,
        item = (r.moments (k + j)).outbound.chatItem .monitoring ":lock: Door is locked"
          (r.moments (k + j)).inputs.wall)
      ((r.deedsOver k n).filterMap Deed.chatItem?) ∧
    AtMostOne (fun item => ∃ j < n,
        item = Outbound.logItem (lockLine (r.moments (k + j)).inputs.lock) (r.moments (k + j)).inputs.wall)
      ((r.deedsOver k n).filterMap Deed.logItem?) ∧
    AtMostOne (fun p => p = if (r.stateAt k).mode = .locked then .ready else .opened)
      ((r.deedsOver k n).filterMap Deed.pattern?) ∧
    AtMostOne (· = Sound.none) ((r.deedsOver k n).filterMap Deed.sound?) ∧
    (∀ j < n, (r.turnAt (k + j)).overrun = false) ∧
    ∀ j < n, (r.turnAt (k + j)).HandsOver (r.snapshotAt (k + j)) (r.moments (k + j)).outbound ∧
      (r.turnAt (k + j)).outbound.audit = (r.moments (k + j)).outbound.audit ∧
      (r.turnAt (k + j)).outbound.membership = (r.moments (k + j)).outbound.membership := by
  obtain ⟨b, bearing⟩ := idle.exists_bearing
  refine ⟨?_, ?_, ?_, ?_, ?_, ?_, ?_, ?_⟩
  · intro j upto
    exact ⟨congrArg Course.mode (idle.course upto), congrArg Course.deadline (idle.course upto)⟩
  · intro d done
    obtain ⟨j, within, done⟩ := List.mem_flatMap.mp done
    have within := List.mem_range.mp within
    exact deeds_of_idle (idle.turn within) (idle.bearing bearing within) done
  · refine deedsOver_once (p := fun j => (r.moments (k + j)).outbound.lastStatus = b.line) ?_
    intro j within
    have once := chat_once (idle.turn within) (idle.bearing bearing within)
    rw [← idle.line j within] at once
    refine once.imp ?_
    rintro item ⟨line, told, rfl⟩
    obtain ⟨locked, rfl⟩ := Mode.bearing?_line bearing line told
    exact ⟨locked, j, within, rfl⟩
  · refine deedsOver_once
      (p := fun j => (r.stateAt (k + j)).lastSensors = some (sensorsOf (r.moments k).inputs.lock)) ?_
    intro j within
    have once := logs_once (idle.turn within) (idle.bearing bearing within)
    rw [idle.sensors j within] at once
    refine once.imp ?_
    rintro item rfl
    exact ⟨j, within, rfl⟩
  · rw [← Mode.bearing?_pattern bearing]
    refine deedsOver_once (p := fun j => (r.stateAt (k + j)).pattern = some b.pattern) ?_
    intro j within
    exact patterns_once (idle.turn within) (idle.bearing bearing within)
  · refine deedsOver_once (p := fun j => (r.stateAt (k + j)).sound = .none) ?_
    intro j within
    exact sounds_once (idle.turn within) (idle.bearing bearing within)
  · intro j within
    exact overrun_of_idle (idle.turn within) (idle.bearing bearing within)
  · intro j within
    have handed := r.turnAt_handsOver (k + j)
    exact ⟨handed, handed.of_no_entries (entries_of_idle (idle.turn within))⟩

/-- A locked door that nobody comes to. -/
def deserted : Run := ofInputs {}
  { debug := { capacity := 1 }, audit := { capacity := 1 }, chat := { capacity := 1 }
    membership := { capacity := 1 } }
  fun n => {
    now := n
    wall := 0
    weekday := .monday
    keys := {}
    lock := { bolt := .locked }
    bolt := .locked
    card := none
    access _ := .forbidden
    drive _ := .ok () }

theorem deserted_idle : deserted.IdleOver 1 3 where
  rests := .inl rfl
  idle j within := by
    obtain rfl | rfl | rfl : j = 0 ∨ j = 1 ∨ j = 2 := by omega
    all_goals exact ⟨by rfl, rfl, rfl, rfl, nofun⟩
  sensors _ _ := rfl
  line j _ := (ofInputs_sole {} _ rfl).line (1 + j)

theorem deserted_silent : deserted.IdleOver 1 3 ∧ (deserted.deedsOver 1 3).filterMap Deed.chatItem? ≠ [] ∧
    ((deserted.deedsOver 1 3).filterMap Deed.chatItem?).length ≤ 1 := by
  have idle : deserted.IdleOver 1 3 := deserted_idle
  obtain ⟨-, -, chat, -⟩ := idle_door_is_silent idle
  exact ⟨idle, by decide, chat.1⟩

end Run

end DoorControl.Door
