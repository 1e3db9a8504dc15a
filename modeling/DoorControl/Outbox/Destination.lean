/- The four services that items go to. -/
import DoorControl.Http.Message
import DoorControl.Json.Record
import DoorControl.Outbox.Delivery
import DoorControl.Text.Utf8

namespace DoorControl.Outbox

/-- A credential that is empty counts as none. -/
def given (credential : Option String) : Option String := credential.filter (!·.isEmpty)

/-- What a response of a service that answers with its status alone means. -/
def acknowledged (r : Http.Response) : Except DeliveryError Unit :=
  if r.isSuccess then .ok () else .error (.status r.status)

/-- Sends a request, and judges the response to it. -/
def exchange {W : Type} (transport : Http.Transport W)
    (judge : Http.Response → Except DeliveryError Unit) (request : Http.Request) (world : W) :
    Except DeliveryError Unit × W :=
  match transport request world with
  | (.error f, world) => (.error (.transport f.message), world)
  | (.ok r, world) => (judge r, world)

/-- A sink that has a request for each item, or a reason why there is none. -/
def httpSink {W : Type} (transport : Http.Transport W) (name : String) (isConfigured : Bool)
    (judge : Http.Response → Except DeliveryError Unit)
    (request : Item → Except DeliveryError (Option Http.Request)) : Sink W where
  name := name
  isConfigured := isConfigured
  deliver item world := match request item with
    | .error e => (.error e, world)
    | .ok none => (.ok (), world)
    | .ok (some r) => exchange transport judge r world

/-- The log kept by the gateway. -/
structure DebugLog where
  base : String
  token : Option String
  deriving DecidableEq, Repr

namespace DebugLog

def request (s : DebugLog) (item : Item) : Except DeliveryError (Option Http.Request) :=
  match given s.token with
  | none => .error (.missingCredential "gateway token")
  | some token => .ok (some {
      method := .post
      url := Http.trimBase s.base ++ "/acslog"
      body := some (.object [("token", .text token), ("timestamp", .text (stamp item.seconds)),
        ("text", .text item.text)]) })

def sink {W : Type} (transport : Http.Transport W) (s : DebugLog) : Sink W :=
  httpSink transport "debug-log" (given s.token).isSome acknowledged s.request

end DebugLog

/-- The audit log, which also takes reports of unknown cards. -/
structure AuditLog where
  base : String
  token : Option String
  deriving DecidableEq, Repr

namespace AuditLog

def idJson : Option Int → Json
  | some id => .int id
  | none => .null

def request (s : AuditLog) (item : Item) : Except DeliveryError (Option Http.Request) :=
  match given s.token with
  | none => .error (.missingCredential "API token")
  | some token => match item.kind with
      | .audit => .ok (some {
          method := .post
          url := Http.trimBase s.base ++ "/api/v1/logs"
          body := some (.object [("api_token", .text token),
            ("log", .object [("user_id", idJson item.id), ("message", .text item.text)])]) })
      | .unknownCard => .ok (some {
          method := .post
          url := Http.trimBase s.base ++ "/api/v1/unknown_cards"
          body := some (.object [("api_token", .text token), ("card_id", .text item.text)]) })
      | kind => .error (.unsupported kind.name)

def sink {W : Type} (transport : Http.Transport W) (s : AuditLog) : Sink W :=
  httpSink transport "audit" (given s.token).isSome acknowledged s.request

end AuditLog

/-- The chat. In test mode everything goes to one channel, and nothing to the general public. -/
structure Chat where
  url : String := "https://slack.com/api/chat.postMessage"
  token : Option String := none
  monitoring : String := "private-monitoring"
  general : String := "general"
  testing : String := "testing"
  testMode : Bool := false
  icon : String := ":panopticon:"
  deriving DecidableEq, Repr

namespace Chat

/-- The name of the channel that messages for a channel go to, if they go anywhere. -/
def channelName? (s : Chat) : Channel → Option String
  | .monitoring => some (if s.testMode then s.testing else s.monitoring)
  | .general => if s.testMode then none else some s.general

def request (s : Chat) (item : Item) : Except DeliveryError (Option Http.Request) :=
  match item.kind with
  | .chat channel => match s.channelName? channel with
      | none => .ok none
      | some name => match given s.token with
          | none => .error (.missingCredential "chat token")
          | some token => .ok (some {
              method := .post
              url := s.url
              authorization := some ("Bearer " ++ token)
              body := some (.object [("channel", .text name), ("text", .text item.text),
                ("icon_emoji", .text s.icon), ("parse", .text "full")]) })
  | kind => .error (.unsupported kind.name)

/-- The verdict in a reply: whether the message was taken, and why not. -/
def verdict? (body : Json) : Option (Bool × Option String) :=
  match body.record? [("ok", .never), ("error", .always)] with
  | some [ok, error] => do
      return (← Json.required? Json.bool? ok, ← Json.optional? Json.text? error)
  | _ => none

/-- The chat reports refusals in the body of a successful response. -/
def judge (r : Http.Response) : Except DeliveryError Unit :=
  if r.isSuccess then
    match r.json?.bind verdict? with
    | none => .error (.rejected ("unreadable reply: " ++ Http.unreadable))
    | some (true, _) => .ok ()
    | some (false, reason) => .error (.rejected (reason.getD "unknown error"))
  else .error (.status r.status)

def sink {W : Type} (transport : Http.Transport W) (s : Chat) : Sink W :=
  httpSink transport "chat" (given s.token).isSome judge s.request

end Chat

/-- The membership system, which keeps when a member was last seen. -/
structure Membership where
  base : String
  user : Option String
  password : Option String
  deriving DecidableEq, Repr

namespace Membership

def request (s : Membership) (item : Item) : Except DeliveryError (Option Http.Request) :=
  match given s.user, given s.password with
  | some user, some password => match item.id with
      | none => .error (.unsupported "membership update without member id")
      | some member => .ok (some {
          method := .put
          url := Http.trimBase s.base ++ s!"/api/member/id/{member}/?version=1"
          authorization := some (Http.basicAuthorization user password)
          body := some (.object [("members", .object [("field1", .text (stamp item.seconds))])]) })
  | _, _ => .error (.missingCredential "membership user/password")

def sink {W : Type} (transport : Http.Transport W) (s : Membership) : Sink W :=
  httpSink transport "membership" ((given s.user).isSome && (given s.password).isSome) acknowledged
    s.request

end Membership

end DoorControl.Outbox
