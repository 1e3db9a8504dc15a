/- A server that answers from a script and keeps what it was asked. -/
import DoorControl.Http.Sending
import DoorControl.Text.Blank

namespace DoorControl.Http

/-- What the stand-in does with a request. -/
structure Answer where
  /-- Nothing if it closes the connection instead. -/
  response : Option Response := some {}
  /-- Whether the program is interrupted before the answer arrives. -/
  interrupts : Bool := false
  deriving DecidableEq, Repr

/-- The answer on a path that the script does not name. -/
def Answer.notFound : Answer where
  response := some { status := 404 }

/-- A request as it arrives. -/
structure Received where
  method : Method
  path : String
  target : String
  authorization : Option String
  body : Option Json

structure StandIn where
  /-- Where it is reached. -/
  origin : String
  /-- The answers by path: the n-th request gets the n-th, and the last one is repeated. -/
  script : List (String × List Answer) := []
  /-- The requests so far. -/
  received : List Received := []
  /-- Whether the program has been interrupted. -/
  interrupted : Bool := false

namespace StandIn

/-- The answer that the next request to a path gets. -/
def next (s : StandIn) (path : String) : Answer :=
  match s.script.lookup path with
  | none | some [] => .notFound
  | some answers =>
      let nth := (s.received.filter (·.path = path)).length
      answers.getD (min nth (answers.length - 1)) .notFound

/-- Whether a status is one of a whole response. Those of one digit or two are none, and those of the first
hundred only announce a response, but for the one that ends the protocol. -/
def isFinal (status : Nat) : Bool := status = 101 || (200 ≤ status && status ≤ 999)

/-- Has a request answered. Other servers than this one are not reached. -/
def send : Transport StandIn := fun r s =>
  match Sending.ofRequest r with
  | .error f => (.error f, s)
  | .ok sending =>
      let url := sending.url
      let failure : Reply := .error (.unanswered url.render)
      if url.origin = s.origin then
        let path := String.ofList url.path
        let arrived : Received := {
          method := r.method
          path
          target := url.target
          authorization := sending.authorization.map arrivedValue
          body := r.body }
        let answer := s.next path
        let s := { s with
          received := s.received ++ [arrived]
          interrupted := s.interrupted || answer.interrupts }
        match answer.response with
        | some r => (if isFinal r.status then .ok r else failure, s)
        | none => (failure, s)
      else (failure, s)

end StandIn

end DoorControl.Http
