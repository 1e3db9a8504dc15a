/- One turn of a door: what it does about the inputs of a moment. -/
import DoorControl.Access.Decision
import DoorControl.Device.Display
import DoorControl.Door.Mode
import DoorControl.Door.Settings
import DoorControl.Outbox.Outbound

namespace DoorControl.Door

/-- What a door finds at the beginning of a turn, and how the lock and the permissions answer in it. -/
structure Inputs where
  /-- The time in milliseconds. -/
  now : Nat
  /-- The time of day, in seconds since the beginning of 1970. -/
  wall : Int
  weekday : Weekday
  /-- The buttons held down. -/
  keys : Keys
  lock : Lock.Status
  /-- Where the bolt is reported to be once the turn comes to drive it. -/
  bolt : Lock.BoltState
  /-- A card swiped since the last turn. -/
  card : Option CardId
  access : CardId → AccessResult
  drive : Lock.BoltState → Except DeviceError Unit

/-- What a door does to its surroundings. -/
inductive Deed
  | showPattern (pattern : Reader.Pattern)
  | playSound (sound : Reader.Sound)
  | showStatus (text : String) (color : Color)
  | showMessage (text : String) (color : Color) (duration : Nat)
  | report (status : Gateway.Status)
  | checkCard (card : CardId)
  | driveLock (target : Lock.BoltState)
  /-- A message to a channel, as the door words it. The item that comes of it is offered next. -/
  | say (channel : Outbox.Channel) (text : String)
  | offer (item : Outbox.Item)
  deriving DecidableEq, Repr

/-- What is looked at during a turn. -/
structure Snapshot extends Inputs where
  /-- The buttons that went down since the last turn. -/
  pressed : Keys
  remote : Option Gateway.Action
  openDay : Bool

/-- A turn as far as it has come. -/
structure Turn where
  state : State
  outbound : Outbox.Outbound
  link : Gateway.Link
  /-- The deeds so far, in order. -/
  deeds : List Deed := []
  /-- Whether a time was asked for that the clock cannot tell. The door stops then. -/
  overrun : Bool := false

/-- Times from here on, in milliseconds, lie beyond the clock's range. -/
def clockEnd : Nat := 9223372036854775808000

namespace Turn

def act (d : Deed) (t : Turn) : Turn := { t with deeds := t.deeds ++ [d] }

def offer (item : Outbox.Item) (t : Turn) : Turn :=
  { act (.offer item) t with outbound := (t.outbound.offer item).2 }

def log (i : Snapshot) (text : String) (t : Turn) : Turn :=
  t.offer (Outbox.Outbound.logItem text i.wall)

def say (i : Snapshot) (channel : Outbox.Channel) (text : String) (t : Turn) : Turn :=
  act (.say channel text) t |>.offer (t.outbound.chatItem channel text i.wall)

/-- A message to those who watch over the door. -/
def send (i : Snapshot) (text : String) (t : Turn) : Turn := say i .monitoring text t

/-- A status line, unless it repeats the last one. -/
def setStatus (i : Snapshot) (text : String) (general : Bool) (t : Turn) : Turn :=
  let channels := t.outbound.statusChannels text general
  channels.foldl (fun t channel => say i channel text t)
    { t with outbound := { t.outbound with lastStatus := some text } }

def setMode (mode : Mode) (t : Turn) : Turn := { t with state := { t.state with mode } }

def setDeadline (deadline : Option Nat) (t : Turn) : Turn :=
  { t with state := { t.state with deadline } }

/-- Notes that a time is asked for. -/
def askFor (time : Nat) (t : Turn) : Turn := { t with overrun := t.overrun || clockEnd ≤ time }

def startTimeout (ms : Nat) (t : Turn) : Turn :=
  { t with state := { t.state with pendingTimeout := some ms } }

def setPattern (p : Reader.Pattern) (t : Turn) : Turn :=
  if t.state.pattern = some p then t
  else act (.showPattern p) { t with state := { t.state with pattern := some p } }

def setSound (s : Reader.Sound) (t : Turn) : Turn :=
  if t.state.sound = s then t
  else act (.playSound s) { t with state := { t.state with sound := s } }

/-- The pattern of a mode, which waits while the answer to a card is shown. -/
def idlePattern (i : Snapshot) (p : Reader.Pattern) (t : Turn) : Turn :=
  match t.state.feedbackUntil with
  | some time =>
      if i.now < time then t
      else setPattern p { t with state := { t.state with feedbackUntil := none } }
  | none => setPattern p t

/-- A pattern that answers a card. -/
def feedback (s : Settings) (i : Snapshot) (p : Reader.Pattern) (t : Turn) : Turn :=
  let time := i.now + s.message
  let t := askFor time (setPattern p t)
  { t with state := { t.state with feedbackUntil := some time } }

def showStatus (text : String) (color : Color) (t : Turn) : Turn := act (.showStatus text color) t

def showMessage (s : Settings) (text : String) (color : Color) (t : Turn) : Turn :=
  act (.showMessage text color s.message) t

/-- Logs a card, buttons that went down, and changes of bolt and door. -/
def logInputs (i : Snapshot) (t : Turn) : Turn :=
  let t := match i.card with
    | some card => log i s!"Card {card} swiped" t
    | none => t
  let t := if i.pressed.any then log i ("Keys " ++ i.keys.render) t else t
  let sensors := (i.lock.bolt, i.lock.doorOpen)
  if t.state.lastSensors = some sensors then t
  else
    let bolt := i.lock.bolt.word
    let door := Gateway.openClosed i.lock.doorOpen
    let t := log i s!"Lock status {bolt} door {door}" t
    { t with state := { t.state with lastSensors := some sensors } }

/-- The status to report. -/
def currentStatus (i : Snapshot) (t : Turn) : Gateway.Status where
  doorOpen := i.lock.doorOpen
  spaceOpen := t.state.mode = .opened
  bolt := i.lock.bolt
  overflows := t.outbound.overflows

/-- Whether a status has to be reported: it is new, or the last report is old. -/
def pushDue (s : Settings) (now : Nat) (status : Gateway.Status) (t : Turn) : Bool :=
  match t.state.lastPush with
  | none => true
  | some (last, time) => last ≠ status || s.statusPush ≤ now - time

def pushStatus (s : Settings) (i : Snapshot) (t : Turn) : Turn :=
  let status := t.currentStatus i
  if t.pushDue s i.now status then
    act (.report status) { t with
      link := t.link.setStatus status
      state := { t.state with lastPush := some (status, i.now) } }
  else t

/-- Tells everyone that the space is no longer open, if it was. -/
def leaveOpen (i : Snapshot) (t : Turn) : Turn :=
  if t.state.mode = .opened then t.setStatus i Outbox.Outbound.closedText true else t

/-- What the gateway asks for. The door is not locked while it stands open, whatever the bolt does. -/
def applyRemote (s : Settings) (i : Snapshot) (a : Gateway.Action) (t : Turn) : Turn :=
  let shown := a.render
  let t := log i s!"Start action '{shown}'" t
  match a with
  | .lock =>
      if i.lock.doorOpen then send i ":stop: Door is open, cannot lock" t
      else
        send i ":lock: Door locked remotely" t |>.leaveOpen i |>.setDeadline none |>.setMode .locked
  | .unlock =>
      let time := i.now + s.remoteUnlock
      send i ":unlock: Door unlocked remotely" t |>.leaveOpen i |>.setMode .timed
        |>.askFor time |>.setDeadline (some time)
  | .unknown _ =>
      log i s!"Unknown action '{shown}'" t |>.send i s!":question: Unknown action '{shown}'"

/-- The white button opens the space, on an open day. -/
def checkOpenDay (s : Settings) (i : Snapshot) (t : Turn) : Turn :=
  if i.openDay then t.setMode .opened |>.setStatus i Outbox.Outbound.openText true
  else showMessage s "It is not Thursday yet" .red t

/-- What follows from the answer on a card; only a card at a locked door unlocks it. -/
def answerCard (s : Settings) (i : Snapshot) (card : CardId) (unlocks : Bool)
    (answer : AccessResult) (t : Turn) : Turn :=
  match answer with
  | .allowed user =>
      let t :=
        if unlocks then
          showMessage s "Valid card swiped" .green t |>.setPattern .enter
            |>.send i ":key: Valid card swiped, unlocking" |>.startTimeout s.enter
            |>.setMode .timed
        else send i ":key: Valid card swiped while open" t
      t.offer (Outbox.Outbound.accessItem user i.wall)
        |>.offer (Outbox.Outbound.auditItem user (s.name ++ ": Granted entry") i.wall)
  | .forbidden =>
      showMessage s s!"Blocked card {card} swiped" .orange t |>.feedback s i .noEntry
        |>.send i ":bandit: Unauthorized card swiped"
        |>.log i s!"Unauthorized card {card} swiped"
  | .unknownCard =>
      showMessage s s!"Unknown card\n{card}\nswiped" .orange t |>.feedback s i .noEntry
        |>.send i s!":broken_key: Unknown card {card} swiped"
        |>.offer (Outbox.Outbound.unknownCardItem card i.wall)
  | .error message =>
      showMessage s "Error checking card" .red t |>.feedback s i .error
        |>.send i s!":computer_rage: Internal error checking card: {message}"

def checkCard (s : Settings) (i : Snapshot) (card : CardId) (unlocks : Bool) (t : Turn) : Turn :=
  answerCard s i card unlocks (i.access card) (act (.checkCard card) t)

def handleInitial (t : Turn) : Turn := t.setPattern .ready |>.setMode .locked

def pressLeave (s : Settings) (i : Snapshot) (t : Turn) : Turn :=
  send i ":exit: The Leave button has been pressed" t |>.startTimeout s.leave

/-- A locked door heeds the white button, then the green one, then a card, then the leave button. -/
def handleLocked (s : Settings) (i : Snapshot) (t : Turn) : Turn :=
  let t := idlePattern i .ready t |>.setSound .none |>.showStatus "Locked" .orange
    |>.setStatus i ":lock: Door is locked" false
  if i.pressed.white then checkOpenDay s i t
  else if i.pressed.green then
    log i "Green pressed" t |>.startTimeout s.unlockPeriod |>.setMode .timed
  else match i.card with
    | some card => checkCard s i card true t
    | none => if i.pressed.leave then pressLeave s i t |>.setMode .timed else t

/-- An open door is locked when the open day ends or the red button is held. Cards are checked. -/
def handleOpened (s : Settings) (i : Snapshot) (t : Turn) : Turn :=
  let t := idlePattern i .opened t |>.setSound .none |>.showStatus "Open" .green
  let t :=
    if !i.openDay then
      log i "It is no longer an open day" t |>.leaveOpen i |>.setMode .locked
    else if i.keys.red then leaveOpen i t |>.setMode .locked
    else t
  match i.card with
  | some card => checkCard s i card false t
  | none => t

/-- The text on the time left, in whole minutes as long as more than one has begun. -/
def countdown (left : Nat) : String :=
  let seconds := left / 1000
  let minutes := (seconds + 59) / 60
  if 1 < minutes then s!"Open for\n{minutes} minutes" else s!"Open for\n{seconds} seconds"

/-- Shows and plays how the end of a timed unlock comes nearer. -/
def warnClosing (s : Settings) (i : Snapshot) (t : Turn) : Turn :=
  let left := (t.state.timeLeft i.now).getD 0
  if left ≤ s.unlockWarn then
    t.setPattern .warnClosing
      |>.setSound (if s.closingWarn < left then .warningBeep else .closingWarning)
      |>.showStatus (countdown left) .orange
  else showStatus "Open" .green t

/-- Whether a timed unlock has ended. -/
def expired (now : Nat) (s : State) : Bool :=
  match s.deadline with
  | none => true
  | some time => time ≤ now

def handleTimed (s : Settings) (i : Snapshot) (t : Turn) : Turn :=
  if i.keys.red || expired i.now t.state then t.setDeadline none |>.setMode .locked
  else
    let t := if i.pressed.white then checkOpenDay s i t else t
    if t.state.mode = .opened then t.setDeadline none
    else if i.pressed.leave then pressLeave s i t |>.setSound .none
    else warnClosing s i t

def handle (s : Settings) (i : Snapshot) (t : Turn) : Turn :=
  match t.state.mode with
  | .initial => handleInitial t
  | .locked => handleLocked s i t
  | .opened => handleOpened s i t
  | .timed => handleTimed s i t

/-- Acts according to the mode, and logs a change of it. -/
def handleMode (s : Settings) (i : Snapshot) (t : Turn) : Turn :=
  let before := t.state.mode
  let t := handle s i t
  let after := t.state.mode
  if after = before then t
  else
    let fromName := before.name
    let toName := after.name
    log i s!"State {fromName} -> {toName}" t

/-- Makes the deadline of a time asked for in this turn. -/
def armDeadline (i : Snapshot) (t : Turn) : Turn :=
  match t.state.pendingTimeout with
  | none => t
  | some ms =>
      let seconds := ms / 1000
      let time := i.now + ms
      let t := log i s!"Set timeout of {seconds} s" t |>.askFor time
      { t with state := { t.state with pendingTimeout := none, deadline := some time } }

/-- Takes over the result of a lock command; only the first failure of a series goes to the chat. -/
def answerLock (s : Settings) (i : Snapshot) (result : Except DeviceError Unit) (t : Turn) : Turn :=
  match result with
  | .ok () => { t with state := { t.state with lockRetryAt := none, lockFailing := false } }
  | .error e =>
      let cause := e.message
      let time := i.now + s.lockRetry
      let failing := t.state.lockFailing
      let t := log i s!"Lock command failed: {cause}" t |>.askFor time
      let t := { t with state := { t.state with lockRetryAt := some time, lockFailing := true } }
      if failing then t else send i s!":warning: Lock command failed: {cause}" t

/-- Whether the wait after a failed command is not over yet. -/
def backingOff (now : Nat) (s : State) : Bool :=
  match s.lockRetryAt with
  | none => false
  | some time => now < time

/-- Drives the bolt to where the mode wants it. -/
def driveLock (s : Settings) (i : Snapshot) (t : Turn) : Turn :=
  let target := t.state.mode.target
  if i.bolt = target || backingOff i.now t.state then t
  else answerLock s i (i.drive target) (act (.driveLock target) t)

/-- A turn up to its mode: the inputs are logged, the status is reported, and the gateway's action is
carried out. -/
def prepare (s : Settings) (i : Snapshot) (t : Turn) : Turn :=
  let t := t.logInputs i |>.pushStatus s i
  match i.remote with
  | some action => t.applyRemote s i action
  | none => t

end Turn

/-- The snapshot that begins a turn, and the state and the link after it. -/
def snapshot (i : Inputs) (state : State) (link : Gateway.Link) :
    Snapshot × State × Gateway.Link :=
  let (remote, rest) := link.takeAction
  ({ toInputs := i
     pressed := i.keys.pressed state.lastKeys
     remote
     openDay := link.allowOpen || i.weekday = openDay },
    { state with lastKeys := i.keys }, rest)

/-- One turn of a door. -/
def tick (s : Settings) (i : Inputs) (state : State) (outbound : Outbox.Outbound)
    (link : Gateway.Link) : Turn :=
  let (i, state, link) := snapshot i state link
  let t : Turn := { state, outbound, link }
  t.prepare s i |>.handleMode s i |>.armDeadline i |>.driveLock s i

end DoorControl.Door
