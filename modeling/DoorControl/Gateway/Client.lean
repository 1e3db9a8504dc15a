/- The exchange with the gateway: rounds of telling the status and asking for an action. -/
import DoorControl.Gateway.Link
import DoorControl.Http.Message
import DoorControl.Json.Record

namespace DoorControl.Gateway

inductive GatewayError
  | transport (message : String)
  | status (code : Nat)
  | malformed (message : String)
  | setup (message : String)
  | tooManyFailures (count : Nat) (last : String)
  deriving DecidableEq, Repr

def GatewayError.message : GatewayError → String
  | .transport m => m
  | .status code => s!"HTTP {code}"
  | .malformed m => s!"malformed gateway reply: {m}"
  | .setup m => s!"HTTP client setup failed: {m}"
  | .tooManyFailures count last =>
      s!"gateway unreachable after {count} consecutive failures (last: {last})"

structure Client where
  /-- The address of the gateway, without slashes at its end. -/
  base : String
  token : String
  /-- Milliseconds between two rounds. -/
  interval : Nat := 10000
  /-- Failed rounds in a row after which the exchange ends. -/
  maxFailures : Nat := 10
  timeout : Nat := 5000
  deriving DecidableEq, Repr

namespace Client

/-- A client that puts up with one failure at least. -/
def new (base token : String) (interval maxFailures timeout : Nat) : Client where
  base := Http.trimBase base
  token
  interval
  maxFailures := max maxFailures 1
  timeout

def statusRequest (c : Client) (status : Status) : Http.Request where
  method := .post
  url := c.base ++ "/acsstatus"
  body := some (.object [("token", .text c.token), ("status", status.toJson)])

def queryRequest (c : Client) : Http.Request where
  method := .post
  url := c.base ++ "/acsquery"
  body := some (.object [("token", .text c.token)])

/-- What the gateway wants: the text of an action, and whether the day is an open one. -/
structure Query where
  action : Option String := none
  allowOpen : Option Bool := none
  deriving DecidableEq, Repr

def query? (body : Json) : Option Query :=
  match body.record? [("action", .always), ("allow_open", .always)] with
  | some [action, allowOpen] => do
      return {
        action := ← Json.optional? Json.text? action
        allowOpen := ← Json.optional? Json.bool? allowOpen }
  | _ => none

variable {W : Type}

/-- Sends a request; only a response that reports success counts. -/
def send (transport : Http.Transport W) (r : Http.Request) (world : W) :
    Except GatewayError Http.Response × W :=
  match transport r world with
  | (.error f, world) => (.error (.transport f.message), world)
  | (.ok r, world) => (if r.isSuccess then .ok r else .error (.status r.status), world)

def postStatus (transport : Http.Transport W) (c : Client) (status : Status) (world : W) :
    Except GatewayError Unit × W :=
  let (result, world) := send transport (c.statusRequest status) world
  (result.map (fun _ => ()), world)

def query (transport : Http.Transport W) (c : Client) (world : W) : Except GatewayError Query × W :=
  match send transport c.queryRequest world with
  | (.error e, world) => (.error e, world)
  | (.ok r, world) => match r.json?.bind query? with
      | some q => (.ok q, world)
      | none => (.error (.malformed Http.unreadable), world)

/-- One round: tells the status if there is one, then asks and records the answer. -/
def sync (transport : Http.Transport W) (c : Client) (link : Link) (world : W) :
    Except GatewayError Unit × Link × W :=
  let (told, world) : Except GatewayError Unit × W := match link.status with
    | none => (.ok (), world)
    | some status => postStatus transport c status world
  match told with
  | .error e => (.error e, link, world)
  | .ok () => match query transport c world with
      | (.error e, world) => (.error e, link, world)
      | (.ok q, world) =>
          (.ok (), link.record (q.action.bind Action.parse?) (q.allowOpen.getD false), world)

/-- The failed rounds in a row after one more round, before which there were `failed`; an error if they are
too many. -/
def afterRound (c : Client) (failed : Nat) : Except GatewayError Unit → Except GatewayError Nat
  | .ok () => .ok 0
  | .error e =>
      let failed := failed + 1
      if c.maxFailures ≤ failed then .error (.tooManyFailures failed e.message) else .ok failed

/-- Rounds until too many have failed in a row, where `failed` have so far; nothing comes out when
`rounds` of them have not led there. -/
def syncUntilLost (transport : Http.Transport W) (c : Client) :
    (rounds failed : Nat) → Link → W → Option GatewayError × Link × W
  | 0, _, link, world => (none, link, world)
  | rounds + 1, failed, link, world =>
      let (result, link, world) := sync transport c link world
      match c.afterRound failed result with
      | .ok failed => syncUntilLost transport c rounds failed link world
      | .error e => (some e, link, world)

end Client

end DoorControl.Gateway
