/- Requests to the services and what comes of them. -/
import DoorControl.Json.Reader
import DoorControl.Text.Base64
import DoorControl.Text.Utf8

namespace DoorControl.Http

inductive Method
  | get
  | post
  | put
  deriving DecidableEq, Repr

def Method.name : Method → String
  | .get => "GET"
  | .post => "POST"
  | .put => "PUT"

structure Request where
  method : Method
  url : String
  authorization : Option String := none
  body : Option Json := none

/-- The bytes of a body, which need not form a text. -/
structure Body where
  bytes : List UInt8
  deriving DecidableEq, Repr

/-- A text is sent as the bytes of its characters. -/
instance : Coe String Body := ⟨fun text => ⟨Text.Utf8.encode text⟩⟩

structure Response where
  status : Nat := 200
  body : Body := ""
  deriving DecidableEq, Repr

/-- Why a request got no response. -/
inductive Failure
  /-- It could not be built; the URL is given if it is one. -/
  | unusable (url : Option String)
  /-- It could not be sent, or no response came. -/
  | unanswered (url : String)
  deriving DecidableEq, Repr

def Failure.message : Failure → String
  | .unusable none => "builder error"
  | .unusable (some url) => s!"builder error for url ({url})"
  | .unanswered url => s!"error sending request for url ({url})"

abbrev Reply := Except Failure Response

/-- A way to have requests answered, which may change the world `W`. -/
abbrev Transport (W : Type) := Request → W → Reply × W

/-- Responses of the class that reports success. -/
def Response.isSuccess (r : Response) : Bool := 200 ≤ r.status && r.status < 300

/-- The body as JSON; two kinds of responses have none. -/
def Response.json? (r : Response) : Option Json :=
  if r.status = 204 || r.status = 304 then none else Json.read? r.body.bytes

/-- The text on a body that could not be read. -/
def unreadable : String := "error decoding response body"

/-- The authorization of a user by a password. -/
def basicAuthorization (user password : String) : String :=
  "Basic " ++ String.ofList (Text.Base64.encode (Text.Utf8.encode (user ++ ":" ++ password)))

/-- The URL without slashes at its end. -/
def trimBase (url : String) : String :=
  String.ofList ((url.toList.reverse.dropWhile (· = '/')).reverse)

end DoorControl.Http
