/- The card reader's poll cycle. -/
import DoorControl.Card.Frame
import DoorControl.Reader.Command
import DoorControl.Serial.Link

namespace DoorControl.Reader

/-- How often the reader is polled. -/
structure Timing where
  pollInterval : Nat := 100
  livenessEvery : Nat := 120
  deriving DecidableEq, Repr, Inhabited

/-- At least one poll passes between two signs of life. -/
def Timing.withLiveness (t : Timing) (polls : Nat) : Timing :=
  { t with livenessEvery := max polls 1 }

/-- What the door and the poll cycle share. -/
structure Desk where
  pending : Option CardId := none
  pattern : Pattern := .ready
  sound : Sound := .none
  deriving DecidableEq, Repr

/-- Takes the card swiped last. -/
def Desk.takeCard (d : Desk) : Option CardId × Desk := (d.pending, { d with pending := none })

structure Session (P : Type) where
  link : Serial.Link P
  desk : Desk := {}
  decoder : Card.FrameDecoder := {}
  /-- The pattern written last. -/
  shown : Option Pattern := none
  playing : Sound := .none
  lastBeep : Option Nat := none
  polls : Nat := 0

/-- The last card among the frames that `bytes` close. -/
def lastFrameCard? (closed : List (Nat × Nat)) : Option CardId :=
  (closed.filterMap (fun (_, id) => CardId.ofNat? id)).getLast?

/-- The last card that a line reports. -/
def lastLineCard? (lines : List String) : Option CardId := (lines.filterMap cardOfLine?).getLast?

namespace Session

variable {P : Type} [Serial.Port P]

/-- Takes in what the reader has sent. A card from a line counts as newer than one from a frame. -/
def receive (bytes : List UInt8) (s : Session P) : Session P :=
  let (decoder, closed) := s.decoder.feedAll bytes
  let (lines, link) := s.link.collect bytes
  let swiped := (lastLineCard? lines).or (lastFrameCard? closed)
  { s with link, decoder, desk := { s.desk with pending := swiped.or s.desk.pending } }

/-- Writes the requested pattern, if it is not the one written last. -/
def showPattern (s : Session P) : Except Serial.PortFault Unit × Session P :=
  if s.shown = some s.desk.pattern then (.ok (), s)
  else match s.link.send s.desk.pattern.command with
    | (.error f, link) => (.error f, { s with link })
    | (.ok (), link) => (.ok (), { s with link, shown := some s.desk.pattern })

/-- Whether the sound beeps now: at once when it is new, then at its interval. -/
def beepDue (interval now : Nat) (last : Option Nat) : Bool :=
  match last with
  | none => true
  | some before => interval ≤ now - before

/-- Writes a beep of the requested sound, if one is due. -/
def playSound (now : Nat) (s : Session P) : Except Serial.PortFault Unit × Session P :=
  let s := if s.desk.sound = s.playing then s
    else { s with playing := s.desk.sound, lastBeep := none }
  match s.playing.beep? with
  | none => (.ok (), s)
  | some (command, interval) =>
      if beepDue interval now s.lastBeep then
        match s.link.send command with
        | (.error f, link) => (.error f, { s with link })
        | (.ok (), link) => (.ok (), { s with link, lastBeep := some now })
      else (.ok (), s)

/-- One poll cycle at the given time. -/
def poll (now : Nat) (s : Session P) : Except DeviceError Unit × Session P :=
  match s.link.send pollCommand with
  | (.error f, link) => (.error (.port f), { s with link })
  | (.ok (), link) => match link.readAvailable with
      | (.error f, link) => (.error (.port f), { s with link })
      | (.ok bytes, link) => match showPattern (receive bytes { s with link }) with
          | (.error f, s) => (.error (.port f), s)
          | (.ok (), s) => match playSound now s with
              | (.error f, s) => (.error (.port f), s)
              | (.ok (), s) => (.ok (), { s with polls := s.polls + 1 })

end Session

end DoorControl.Reader
