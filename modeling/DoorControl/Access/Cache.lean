/- Remembered permissions. Only a card without a fresh entry is asked about; a list of all cards
replaces everything remembered. -/
import DoorControl.Access.Source

namespace DoorControl.Access

/-- Times in milliseconds. -/
structure CacheTiming where
  /-- The age from which on an entry is not trusted. -/
  staleness : Nat := 900000
  refreshInterval : Nat := 300000
  /-- The wait between two looks for missing credentials. -/
  unconfiguredRetry : Nat := 60000
  deriving DecidableEq, Repr, Inhabited

structure Entry where
  user : UserRef
  refreshed : Nat
  deriving DecidableEq, Repr

/-- The remembered cards, each at most once. -/
structure Cache where
  entries : List (CardId × Entry) := []
  timing : CacheTiming := {}
  deriving DecidableEq, Repr

namespace Cache

/-- Replaces the entry of a card, or adds one. -/
def put (card : CardId) (entry : Entry) : List (CardId × Entry) → List (CardId × Entry)
  | [] => [(card, entry)]
  | (c, e) :: rest => if c = card then (card, entry) :: rest else (c, e) :: put card entry rest

def entry? (card : CardId) (cache : Cache) : Option Entry := cache.entries.lookup card

/-- The owner of a card whose entry is still trusted. -/
def fresh? (card : CardId) (now : Nat) (cache : Cache) : Option UserRef :=
  match cache.entry? card with
  | none => none
  | some e => if cache.timing.staleness ≤ now - e.refreshed then none else some e.user

/-- Takes over the answer of a lookup; only a permission is remembered. -/
def settle (card : CardId) (answer : LookupAnswer) (now : Nat) (cache : Cache) :
    AccessResult × Cache :=
  match answer with
  | .ok (.allowed user) =>
      (.allowed user, { cache with entries := put card ⟨user, now⟩ cache.entries })
  | .ok .forbidden => (.forbidden, cache)
  | .ok .unknown => (.unknownCard, cache)
  | .error e => (.error e.message, cache)

/-- The entries of a list of grants, where a later grant of a card replaces an earlier one. -/
def ofGrants (grants : List Grant) (now : Nat) : List (CardId × Entry) :=
  grants.foldl (fun entries g => put g.card ⟨g.user, now⟩ entries) []

/-- Takes over a list of all cards: the number of cards with access, or why nothing changes. -/
def replace (answer : ListAnswer) (now : Nat) (cache : Cache) : Except AccessError Nat × Cache :=
  match answer with
  | .ok grants =>
      let entries := ofGrants grants now
      (.ok entries.length, { cache with entries })
  | .error e => (.error e, cache)

variable {W : Type}

/-- Whether a card opens the door, and whether the service had to be asked. -/
def decide (source : Source W) (card : CardId) (now : Nat) (cache : Cache) (world : W) :
    AccessResult × Cache × W :=
  match cache.fresh? card now with
  | some user => (.allowed user, cache, world)
  | none =>
      let (answer, world) := source.lookup card world
      let (result, cache) := cache.settle card answer now
      (result, cache, world)

/-- Fetches the list of all cards and takes it over. -/
def refresh (source : Source W) (now : Nat) (cache : Cache) (world : W) :
    Except AccessError Nat × Cache × W :=
  let (answer, world) := source.listAll world
  let (result, cache) := cache.replace answer now
  (result, cache, world)

end Cache

end DoorControl.Access
