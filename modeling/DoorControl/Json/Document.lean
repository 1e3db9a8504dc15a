/- Card ids, users, lock statuses and button samples as stored documents. -/
import DoorControl.Access.Decision
import DoorControl.Card.Id
import DoorControl.Json.Record
import DoorControl.Lock.State
import DoorControl.Panel.Keys

namespace DoorControl

def CardId.ofJson? (j : Json) : Option CardId := j.nat64?.bind CardId.ofNat?

def CardId.toJson (c : CardId) : Json := .int c.raw

def UserRef.ofJson? (j : Json) : Option UserRef :=
  match j.record? [("internal_id", .never), ("external_id", .never)] with
  | some [internalId, externalId] => do
      return ⟨← Json.required? Json.int64? internalId, ← Json.required? Json.int64? externalId⟩
  | _ => none

def UserRef.toJson (u : UserRef) : Json :=
  .object [("internal_id", .int u.internalId), ("external_id", .int u.externalId)]

/-- A state stands as its key, or as an object with the key alone and null. -/
def Lock.BoltState.ofJson? (j : Json) : Option Lock.BoltState :=
  let key : Option String := match j with
    | .str s => s
    | .obj [(k, .null)] => k
    | _ => none
  key.bind (fun k => all.find? (·.key = k))

def Lock.BoltState.toJson (b : Lock.BoltState) : Json := .text b.key

def Lock.Status.ofJson? (j : Json) : Option Lock.Status :=
  match j.record? [("state", .never), ("door_open", .never), ("handle_raised", .never),
      ("encoder_position", .never)] with
  | some [bolt, doorOpen, handleRaised, encoder] => do
      return {
        bolt := ← Json.required? Lock.BoltState.ofJson? bolt
        doorOpen := ← Json.required? Json.bool? doorOpen
        handleRaised := ← Json.required? Json.bool? handleRaised
        encoder := ← Json.required? Json.int32? encoder }
  | _ => none

def Lock.Status.toJson (s : Lock.Status) : Json :=
  .object [("state", s.bolt.toJson), ("door_open", .bool s.doorOpen),
    ("handle_raised", .bool s.handleRaised), ("encoder_position", .int s.encoder)]

def Keys.ofJson? (j : Json) : Option Keys :=
  match j.record? [("red", .never), ("white", .never), ("green", .never), ("leave", .never)] with
  | some [red, white, green, leave] => do
      return {
        red := ← Json.required? Json.bool? red
        white := ← Json.required? Json.bool? white
        green := ← Json.required? Json.bool? green
        leave := ← Json.required? Json.bool? leave }
  | _ => none

def Keys.toJson (k : Keys) : Json :=
  .object [("red", .bool k.red), ("white", .bool k.white), ("green", .bool k.green),
    ("leave", .bool k.leave)]

end DoorControl
