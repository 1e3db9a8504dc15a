/- Deliveries: the consumer of a queue hands each item to a sink, and tries again where that may help. -/
import DoorControl.Clock
import DoorControl.Outbox.Item

namespace DoorControl.Outbox

/-- Why an item was not delivered. -/
inductive DeliveryError
  | missingCredential (name : String)
  | transport (message : String)
  | status (code : Nat)
  | rejected (message : String)
  | unsupported (item : String)
  | setup (message : String)
  deriving DecidableEq, Repr

namespace DeliveryError

def message : DeliveryError → String
  | .missingCredential name => s!"missing credential: {name}"
  | .transport m => m
  | .status code => s!"HTTP {code}"
  | .rejected m => s!"rejected: {m}"
  | .unsupported item => s!"unsupported item: {item}"
  | .setup m => s!"HTTP client setup failed: {m}"

/-- Whether a later attempt may go better. -/
def isRetryable : DeliveryError → Bool
  | .transport _ => true
  | .status code => 500 ≤ code || code = 429
  | _ => false

end DeliveryError

/-- Where items go; a delivery may change the world `W`. -/
structure Sink (W : Type) where
  name : String
  /-- False while the credentials for deliveries are missing. -/
  isConfigured : Bool
  deliver : Item → W → Except DeliveryError Unit × W

structure RetryPolicy where
  attempts : Nat
  /-- Milliseconds between two attempts. -/
  backoff : Nat
  deriving DecidableEq, Repr

namespace RetryPolicy

def debugLog : RetryPolicy := ⟨3, 250⟩

def audit : RetryPolicy := ⟨3, 250⟩

def chat : RetryPolicy := ⟨1, 0⟩

def membership : RetryPolicy := ⟨2, 1000⟩

end RetryPolicy

/-- One attempt to deliver an item. -/
structure Attempt where
  time : Nat
  item : Item
  result : Except DeliveryError Unit

/-- What a consumer warns of. -/
inductive Warning
  | unconfigured
  | dropped (cause : DeliveryError)
  deriving DecidableEq, Repr

def Warning.text : Warning → String
  | .unconfigured => "credential not configured, discarding items"
  | .dropped _ => "delivery failed, item dropped"

/-- The course of a consumer. -/
structure Course (W : Type) where
  world : W
  now : Nat := 0
  attempts : List Attempt := []
  warnings : List Warning := []

namespace Course

variable {W : Type}

/-- Attempts at one item: one, and after a failure that may pass up to `more` further ones. -/
def deliver (sink : Sink W) (backoff : Nat) (item : Item) : (more : Nat) → Course W → Course W
  | more, c =>
      let (result, world) := sink.deliver item c.world
      let c := { c with world, attempts := c.attempts ++ [⟨c.now, item, result⟩] }
      match result with
      | .ok () => c
      | .error e => match more with
          | 0 => { c with warnings := c.warnings ++ [.dropped e] }
          | more + 1 =>
              if e.isRetryable then
                deliver sink backoff item more { c with now := Clock.after c.now backoff }
              else { c with warnings := c.warnings ++ [.dropped e] }

/-- Takes an item that the queue has given. Without credentials it is discarded; that is warned of
once. -/
def take (sink : Sink W) (policy : RetryPolicy) (c : Course W) (item : Item) : Course W :=
  if sink.isConfigured then deliver sink policy.backoff item (policy.attempts - 1) c
  else if .unconfigured ∈ c.warnings then c
  else { c with warnings := c.warnings ++ [.unconfigured] }

/-- The course over all items of a queue. -/
def run (sink : Sink W) (policy : RetryPolicy) (items : List Item) (c : Course W) : Course W :=
  items.foldl (take sink policy) c

end Course

end DoorControl.Outbox
