/- A door with in-memory devices, a permission cache and the four queues, on a clock of its own. -/
import DoorControl.Access.Cache
import DoorControl.Device.InMemory
import DoorControl.Door.Turn

namespace DoorControl.Door

structure Station (W : Type) where
  settings : Settings
  state : State := {}
  reader : InMemory.Reader := {}
  lock : InMemory.DoorLock := {}
  keys : Keys := {}
  display : InMemory.Display := {}
  outbound : Outbox.Outbound
  link : Gateway.Link := {}
  cache : Access.Cache := {}
  world : W
  weekday : Weekday := .monday
  /-- The time in milliseconds. -/
  now : Nat := 0
  /-- The time of day at time zero, in seconds since the beginning of 1970. -/
  epoch : Int := 0
  /-- Whether the door has stopped since its clock could not tell a time. -/
  stopped : Bool := false

namespace Station

variable {W : Type}

def inputs (source : Access.Source W) (s : Station W) : Inputs where
  now := s.now
  wall := s.epoch + (s.now / 1000 : Nat)
  weekday := s.weekday
  keys := s.keys
  lock := s.lock.reported
  bolt := s.lock.reported.bolt
  card := s.reader.pending
  access card := (s.cache.decide source card s.now s.world).1
  drive target := (s.lock.setState target).1

/-- What a deed does to the devices and the cache. The queues and the link are part of the turn. -/
def perform (source : Access.Source W) (s : Station W) : Deed → Station W
  | .showPattern p => { s with reader := s.reader.setPattern p }
  | .playSound sound => { s with reader := { s.reader with sound } }
  | .showStatus text color => { s with display := { s.display with status := some (text, color) } }
  | .showMessage text color duration =>
      { s with display := s.display.showMessage text color duration }
  | .checkCard card =>
      let (_, cache, world) := s.cache.decide source card s.now s.world
      { s with cache, world }
  | .driveLock target => { s with lock := (s.lock.setState target).2 }
  | .report _ => s
  | .say _ _ => s
  | .offer _ => s

/-- One turn. -/
def tick (source : Access.Source W) (s : Station W) : Station W :=
  if s.stopped then s
  else
    let t := Door.tick s.settings (s.inputs source) s.state s.outbound s.link
    let s := { s with
      state := t.state
      outbound := t.outbound
      link := t.link
      stopped := t.overrun
      reader := s.reader.takeCard.2 }
    t.deeds.foldl (perform source) s

def advance (ms : Nat) (s : Station W) : Station W := { s with now := s.now + ms }

/-- Further turns, one tick interval apart. -/
def turns (source : Access.Source W) : (n : Nat) → Station W → Station W
  | 0, s => s
  | n + 1, s => turns source n ((s.advance s.settings.tick).tick source)

/-- Works for a while: a turn at once, and further ones that begin within the given time. -/
def run (source : Access.Source W) (ms : Nat) (s : Station W) : Station W :=
  let finish := s.now + ms
  let s := turns source (ms / s.settings.tick) (s.tick source)
  { s with now := finish }

def timeLeft (s : Station W) : Option Nat := s.state.timeLeft s.now

end Station

end DoorControl.Door
