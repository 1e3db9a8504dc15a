/- A permission service whose answers stand in a table. It counts the questions. -/
import DoorControl.Access.Source

namespace DoorControl.Access

structure Table where
  /-- The answers on single cards; a card without one is unknown. -/
  answers : List (CardId × LookupAnswer) := []
  list : ListAnswer
  isConfigured : Bool := true
  lookups : Nat := 0
  listings : Nat := 0

namespace Table

/-- Lays down answers before the ones that are there. -/
def withAnswers (answers : List (CardId × LookupAnswer)) (t : Table) : Table :=
  { t with answers := answers ++ t.answers }

def source : Source Table where
  isConfigured t := t.isConfigured
  lookup card t := ((t.answers.lookup card).getD (.ok .unknown), { t with lookups := t.lookups + 1 })
  listAll t := (t.list, { t with listings := t.listings + 1 })

end Table

end DoorControl.Access
