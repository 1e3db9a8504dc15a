/- Where permissions come from: what a service says about a card, and why it may say nothing. -/
import DoorControl.Access.Decision
import DoorControl.Card.Id

namespace DoorControl.Access

inductive AccessError
  | missingToken
  | transport (message : String)
  | status (code : Nat)
  | malformed (message : String)
  | setup (message : String)
  deriving DecidableEq, Repr

def AccessError.message : AccessError → String
  | .missingToken => "missing API token"
  | .transport m => m
  | .status code => s!"HTTP {code}"
  | .malformed m => s!"malformed response: {m}"
  | .setup m => s!"HTTP client setup failed: {m}"

/-- The answer on a single card. -/
inductive LookupOutcome
  | allowed (user : UserRef)
  | forbidden
  | unknown
  deriving DecidableEq, Repr

/-- An entry of the list of all cards with access. -/
structure Grant where
  card : CardId
  user : UserRef
  deriving DecidableEq, Repr

abbrev LookupAnswer := Except AccessError LookupOutcome

abbrev ListAnswer := Except AccessError (List Grant)

/-- A permission service; asking it may change the world `W`. -/
structure Source (W : Type) where
  /-- False while the credentials for asking are missing. -/
  isConfigured : W → Bool
  lookup : CardId → W → LookupAnswer × W
  listAll : W → ListAnswer × W

end DoorControl.Access
