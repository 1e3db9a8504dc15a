/- What leaves the door for the services: log lines, audit entries, chat messages, membership updates. -/
import DoorControl.Outbox.Stamp

namespace DoorControl.Outbox

inductive Channel
  | monitoring
  | general
  deriving DecidableEq, Repr, Inhabited

inductive ItemKind
  | debug
  | audit
  | unknownCard
  | chat (channel : Channel)
  | membership
  deriving DecidableEq, Repr, Inhabited

def ItemKind.name : ItemKind → String
  | .debug => "Debug"
  | .audit => "Audit"
  | .unknownCard => "UnknownCard"
  | .chat .monitoring => "Chat(Monitoring)"
  | .chat .general => "Chat(General)"
  | .membership => "Membership"

/-- The most bytes of text that an item carries. -/
def maxItemText : Nat := 255

/-- The longest beginning of a text that takes up at most `room` bytes. -/
def fit : (room : Nat) → List Char → List Char
  | _, [] => []
  | room, c :: cs => if c.utf8Size ≤ room then c :: fit (room - c.utf8Size) cs else []

structure Item where
  kind : ItemKind
  text : String
  /-- The user or member that it is about. -/
  id : Option Int := none
  /-- When it arose, in seconds since the beginning of 1970. -/
  seconds : Int := 0
  deriving DecidableEq, Repr

/-- An item with as much of a text as fits. -/
def Item.new (kind : ItemKind) (text : String) (id : Option Int) (seconds : Int) : Item where
  kind
  text := String.ofList (fit maxItemText text.toList)
  id
  seconds

end DoorControl.Outbox
