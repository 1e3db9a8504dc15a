/- Users of cards, and what the evaluation of a swiped card can end with. -/

namespace DoorControl

/-- The ids under which a card's owner is known: to the permission service and to the membership
system. -/
structure UserRef where
  internalId : Int
  externalId : Int
  deriving DecidableEq, Repr, Inhabited

inductive AccessResult
  | allowed (user : UserRef)
  | forbidden
  | unknownCard
  | error (message : String)
  deriving DecidableEq, Repr

namespace AccessResult

def isAllowed : AccessResult → Bool
  | .allowed _ => true
  | _ => false

def user? : AccessResult → Option UserRef
  | .allowed user => some user
  | _ => none

def render : AccessResult → String
  | .allowed user => s!"allowed (user {user.internalId})"
  | .forbidden => "forbidden"
  | .unknownCard => "unknown card"
  | .error m => s!"error: {m}"

end AccessResult

end DoorControl
