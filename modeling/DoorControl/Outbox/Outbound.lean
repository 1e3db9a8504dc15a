/- The four queues and what the door puts into them. -/
import DoorControl.Access.Decision
import DoorControl.Card.Id
import DoorControl.Outbox.Item
import DoorControl.Outbox.Queue

namespace DoorControl.Outbox

structure Outbound where
  debug : Queue Item
  audit : Queue Item
  chat : Queue Item
  membership : Queue Item
  /-- What chat messages begin with. -/
  doorName : Option String := none
  /-- The status line sent last. -/
  lastStatus : Option String := none
  deriving DecidableEq, Repr

namespace Outbound

/-- Empty queues of the given capacities, if all of these are possible. -/
def create? (debug audit chat membership : Nat) : Option Outbound := do
  return {
    debug := ← Queue.create? debug
    audit := ← Queue.create? audit
    chat := ← Queue.create? chat
    membership := ← Queue.create? membership }

/-- The queues in order. -/
def queues (o : Outbound) : List (Queue Item) := [o.debug, o.audit, o.chat, o.membership]

/-- Changes each queue; its place among the four is given too. -/
def mapQueues (f : Nat → Queue Item → Queue Item) (o : Outbound) : Outbound :=
  { o with
    debug := f 0 o.debug
    audit := f 1 o.audit
    chat := f 2 o.chat
    membership := f 3 o.membership }

/-- The queues after all their items have been taken. -/
def drain (o : Outbound) : Outbound := o.mapQueues (fun _ q => q.drain.2)

/-- The consumer of one queue goes. -/
def close (place : Nat) (o : Outbound) : Outbound :=
  o.mapQueues (fun i q => if i = place then q.close else q)

/-- A door that has a name to begin messages with; an empty one is none. -/
def withDoorName (name : Option String) (o : Outbound) : Outbound :=
  { o with doorName := name.filter (!·.isEmpty) }

/-- Puts an item into the queue for its kind. -/
def offer (item : Item) (o : Outbound) : Enqueued × Outbound :=
  match item.kind with
  | .debug => let (r, debug) := o.debug.enqueue item; (r, { o with debug })
  | .audit | .unknownCard => let (r, audit) := o.audit.enqueue item; (r, { o with audit })
  | .chat _ => let (r, chat) := o.chat.enqueue item; (r, { o with chat })
  | .membership => let (r, membership) := o.membership.enqueue item; (r, { o with membership })

theorem offer_lastStatus (item : Item) (o : Outbound) : (o.offer item).2.lastStatus = o.lastStatus := by
  unfold offer
  split <;> rfl

theorem offer_doorName (item : Item) (o : Outbound) : (o.offer item).2.doorName = o.doorName := by
  unfold offer
  split <;> rfl

/-- Items lost by the two logs. -/
def overflows (o : Outbound) : Nat := o.debug.overflows + o.audit.overflows

def logItem (text : String) (seconds : Int) : Item := .new .debug text none seconds

/-- An audit entry about a user. -/
def auditItem (user : UserRef) (text : String) (seconds : Int) : Item :=
  .new .audit text (some user.internalId) seconds

/-- A report of a card that the permission service does not know. -/
def unknownCardItem (card : CardId) (seconds : Int) : Item :=
  .new .unknownCard card.toHex none seconds

/-- The news that a member has been at the door. -/
def accessItem (user : UserRef) (seconds : Int) : Item :=
  .new .membership "" (some user.externalId) seconds

def chatItem (o : Outbound) (channel : Channel) (text : String) (seconds : Int) : Item :=
  let text := match o.doorName with
    | some door => door ++ ": " ++ text
    | none => text
  .new (.chat channel) text none seconds

theorem chatItem_congr {o o' : Outbound} (name : o.doorName = o'.doorName) (channel : Channel)
    (text : String) (seconds : Int) :
    o.chatItem channel text seconds = o'.chatItem channel text seconds := by
  unfold chatItem
  rw [name]

/-- The channels that a status line goes to: none if it repeats the last one. -/
def statusChannels (o : Outbound) (text : String) (general : Bool) : List Channel :=
  if o.lastStatus = some text then [] else .monitoring :: if general then [.general] else []

/-- The items of a status line. -/
def statusItems (o : Outbound) (text : String) (general : Bool) (seconds : Int) : List Item :=
  (o.statusChannels text general).map (o.chatItem · text seconds)

/-- Sends a status line, unless it repeats the last one. -/
def setStatus (text : String) (general : Bool) (seconds : Int) (o : Outbound) : Outbound :=
  (o.statusItems text general seconds).foldl (fun o item => (o.offer item).2)
    { o with lastStatus := some text }

def openText : String := ":tada: The space is now open!"

def closedText : String := ":sad_panda2: The space is no longer open"

end Outbound

end DoorControl.Outbox
