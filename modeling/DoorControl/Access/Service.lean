/- The permission service on the web: one question a card, and one for the list of all cards. -/
import DoorControl.Access.Source
import DoorControl.Http.Message
import DoorControl.Json.Record

namespace DoorControl.Access

structure Service where
  /-- Its address, without slashes at the end. -/
  base : String := "http://127.0.0.1:8000"
  token : Option String := none
  timeout : Nat := 5000
  deriving DecidableEq, Repr

namespace Service

/-- A service at an address; an empty token counts as none. -/
def new (base : String) (token : Option String) (timeout : Nat) : Service where
  base := Http.trimBase base
  token := token.filter (!·.isEmpty)
  timeout

def lookupRequest (s : Service) (token : String) (card : CardId) : Http.Request where
  method := .post
  url := s.base ++ "/api/v1/permissions"
  body := some (.object [("api_token", .text token), ("card_id", .text card.toHex)])

def listRequest (s : Service) (token : String) : Http.Request where
  method := .get
  url := s.base ++ "/api/v2/permissions/"
  authorization := some ("Token " ++ token)

/-- The verdict in a body: whether the card has access, and under which ids its owner is known. -/
def verdict? (body : Json) : Option (Bool × Option Int × Option Int) :=
  match body.record? [("allowed", .never), ("id", .inObject), ("int_id", .inObject)] with
  | some [allowed, internalId, externalId] => do
      return (← Json.required? Json.bool? allowed, ← Json.optional? Json.int64? internalId,
        ← Json.optional? Json.int64? externalId)
  | _ => none

/-- What a response says about a card. -/
def readLookup (r : Http.Response) : LookupAnswer :=
  if r.status = 404 then .ok .unknown
  else if r.status ≠ 200 then .error (.status r.status)
  else match r.json?.bind verdict? with
    | none => .error (.malformed Http.unreadable)
    | some (false, _, _) => .ok .forbidden
    | some (true, some internalId, some externalId) => .ok (.allowed ⟨internalId, externalId⟩)
    | some (true, _, _) => .error (.malformed "allowed card without user ids")

/-- A valid entry of the list. -/
def grant? (entry : Json) : Option Grant :=
  match entry.record? [("card_id", .never), ("id", .never), ("int_id", .never)] with
  | some [card, internalId, externalId] => do
      let card ← Json.required? Json.text? card
      let internalId ← Json.required? Json.int64? internalId
      let externalId ← Json.required? Json.int64? externalId
      let card ← (CardId.ofHex card).toOption
      return ⟨card, ⟨internalId, externalId⟩⟩
  | _ => none

/-- The entries of a body that is a list. -/
def entries? (body : Json) : Option (List Json) :=
  match body.generic? Json.maxDepth with
  | some (.arr xs) => some xs
  | _ => none

/-- The valid entries of the list in a response; the others are skipped. -/
def readList (r : Http.Response) : ListAnswer :=
  if r.status ≠ 200 then .error (.status r.status)
  else match r.json?.bind entries? with
    | none => .error (.malformed Http.unreadable)
    | some entries => .ok (entries.filterMap grant?)

variable {W : Type}

def lookup (transport : Http.Transport W) (s : Service) (card : CardId) (world : W) :
    LookupAnswer × W :=
  match s.token with
  | none => (.error .missingToken, world)
  | some token => match transport (s.lookupRequest token card) world with
      | (.error f, world) => (.error (.transport f.message), world)
      | (.ok r, world) => (readLookup r, world)

def listAll (transport : Http.Transport W) (s : Service) (world : W) : ListAnswer × W :=
  match s.token with
  | none => (.error .missingToken, world)
  | some token => match transport (s.listRequest token) world with
      | (.error f, world) => (.error (.transport f.message), world)
      | (.ok r, world) => (readList r, world)

/-- The service as a source of permissions. -/
def source (transport : Http.Transport W) (s : Service) : Source W where
  isConfigured _ := s.token.isSome
  lookup := lookup transport s
  listAll := listAll transport s

end Service

end DoorControl.Access
