/- When the permission service grants a card access: which bodies of a response say so, and that nothing
else does. -/
import DoorControl.Access.Service

namespace DoorControl

namespace Json

/-- An object has one member with a name, and this is its value. -/
def HasField (members : List (Option String × Json)) (name : String) (value : Json) : Prop :=
  members.filter (fun (k, _) => k = some name) = [(some name, value)]

theorem field?_eq_some_iff {members : List (Option String × Json)} {field : String × Absence}
    {value : Json} :
    field? members field = some (some value) ↔ HasField members field.1 value := by
  unfold field? HasField
  have named : ∀ m ∈ members.filter (fun (k, _) => k = some field.1), m.1 = some field.1 := by simp
  generalize members.filter (fun (k, _) => k = some field.1) = found at named
  match found with
  | [] => cases field.2 <;> simp
  | [(k, x)] =>
      obtain rfl : k = some field.1 := named (k, x) (by simp)
      simp
  | _ :: _ :: _ => simp

theorem any_unnamed (members : List (Option String × Json)) :
    members.any (fun (k, _) => k.isNone) = false ↔ ∀ m ∈ members, m.1 ≠ none := by
  simp

/-- The ways to have three fields that all are there. -/
theorem record?_eq_some_iff {body x y z : Json} {f g h : String × Absence} :
    body.record? [f, g, h] = some [some x, some y, some z] ↔
      (∃ members, body = .obj members ∧ (∀ m ∈ members, m.1 ≠ none) ∧ HasField members f.1 x ∧
        HasField members g.1 y ∧ HasField members h.1 z) ∨ body = .arr [x, y, z] := by
  cases body with
  | obj members =>
      have fields : [f, g, h].mapM (field? members) = some [some x, some y, some z] ↔
          HasField members f.1 x ∧ HasField members g.1 y ∧ HasField members h.1 z := by
        simp [Option.bind_eq_some_iff, field?_eq_some_iff]
      have named := any_unnamed members
      simp only [record?, Json.obj.injEq, exists_eq_left', reduceCtorEq, or_false, ← fields, ← named]
      cases members.any (fun (k, _) => k.isNone) with
      | true => simp only [if_true, reduceCtorEq, false_and]
      | false => simp only [Bool.false_eq_true, if_false, true_and]
  | arr xs =>
      match xs with
      | [] | [_] | [_, _] => simp [record?, List.replicate]
      | [_, _, _] => simp [record?]
      | _ :: _ :: _ :: _ :: _ => simp [record?]
  | null | bool | num | str => simp [record?]

end Json

namespace Access.Service

open Json (HasField)

/-- The body says that a card has access, and under which ids its owner is known. -/
inductive Grants : Json → UserRef → Prop
  | object {members : List (Option String × Json)} {x y : Json} {user : UserRef}
      (named : ∀ m ∈ members, m.1 ≠ none) (allowed : HasField members "allowed" (.bool true))
      (internal : HasField members "id" x) (hx : x.int64? = some user.internalId)
      (external : HasField members "int_id" y) (hy : y.int64? = some user.externalId) :
      Grants (.obj members) user
  | array {x y : Json} {user : UserRef} (hx : x.int64? = some user.internalId)
      (hy : y.int64? = some user.externalId) : Grants (.arr [.bool true, x, y]) user

theorem required_bool {field : Option Json} {b : Bool} :
    Json.required? Json.bool? field = some b ↔ field = some (.bool b) := by
  cases field with
  | none => simp [Json.required?]
  | some x => cases x <;> simp [Json.required?, Json.bool?]

theorem optional_int {field : Option Json} {v : Int} :
    Json.optional? Json.int64? field = some (some v) ↔ ∃ x, field = some x ∧ x.int64? = some v := by
  cases field with
  | none => simp [Json.optional?]
  | some x => cases x <;> simp [Json.optional?, Json.int64?, Json.intIn?]

/-- The verdict is a permission when the record has all three fields, two of them integers. -/
theorem verdict?_eq_some_iff_record {body : Json} {user : UserRef} :
    verdict? body = some (true, some user.internalId, some user.externalId) ↔
      ∃ x y, body.record? [("allowed", .never), ("id", .inObject), ("int_id", .inObject)] =
        some [some (.bool true), some x, some y] ∧
        x.int64? = some user.internalId ∧ y.int64? = some user.externalId := by
  unfold verdict?
  split
  · next allowed internalId externalId hrecord =>
    simp only [hrecord, Option.pure_def, Option.bind_eq_bind, Option.bind_eq_some_iff,
      Option.some.injEq, Prod.mk.injEq, List.cons.injEq, and_true]
    constructor
    · rintro ⟨_, hallowed, _, hinternal, _, hexternal, rfl, rfl, rfl⟩
      obtain ⟨x, rfl, hx⟩ := optional_int.mp hinternal
      obtain ⟨y, rfl, hy⟩ := optional_int.mp hexternal
      exact ⟨x, y, ⟨required_bool.mp hallowed, rfl, rfl⟩, hx, hy⟩
    · rintro ⟨x, y, ⟨rfl, rfl, rfl⟩, hx, hy⟩
      exact ⟨true, rfl, _, optional_int.mpr ⟨x, rfl, hx⟩, _, optional_int.mpr ⟨y, rfl, hy⟩,
        rfl, rfl, rfl⟩
  · next hrecord =>
    constructor
    · simp
    · rintro ⟨x, y, h, -⟩
      exact absurd h (hrecord _ _ _)

theorem verdict?_eq_some_iff {body : Json} {user : UserRef} :
    verdict? body = some (true, some user.internalId, some user.externalId) ↔ Grants body user := by
  simp only [verdict?_eq_some_iff_record, Json.record?_eq_some_iff]
  constructor
  · rintro ⟨x, y, ⟨members, rfl, named, allowed, internal, external⟩ | rfl, hx, hy⟩
    · exact .object named allowed internal hx external hy
    · exact .array hx hy
  · rintro (⟨named, allowed, internal, hx, external, hy⟩ | ⟨hx, hy⟩)
    · exact ⟨_, _, .inl ⟨_, rfl, named, allowed, internal, external⟩, hx, hy⟩
    · exact ⟨_, _, .inr rfl, hx, hy⟩

theorem json?_eq_read? {r : Http.Response} (h : r.status = 200) :
    r.json? = Json.read? r.body.bytes := by
  simp [Http.Response.json?, h]

/-- A response allows a card only with status 200 and a body that says so. -/
theorem readLookup_eq_allowed_iff {r : Http.Response} {user : UserRef} :
    readLookup r = .ok (.allowed user) ↔
      r.status = 200 ∧ ∃ body, Json.read? r.body.bytes = some body ∧ Grants body user := by
  unfold readLookup
  by_cases unknown : r.status = 404
  · simp [unknown]
  · by_cases ok : r.status = 200
    · simp only [ok, json?_eq_read? ok, ne_eq, not_true_eq_false, true_and,
        ← verdict?_eq_some_iff, ← Option.bind_eq_some_iff]
      generalize (Json.read? r.body.bytes).bind verdict? = verdict
      match verdict with
      | none | some (false, _, _) | some (true, none, _) | some (true, some _, none) => simp
      | some (true, some internalId, some externalId) => cases user; simp
    · simp [unknown, ok]

variable {W : Type} {s : Service} {transport : Http.Transport W} {card : CardId} {world : W}

/-- The service is asked about a card, and its answer is that the card has access. -/
def Admits (s : Service) (transport : Http.Transport W) (card : CardId) (world : W)
    (user : UserRef) : Prop :=
  ∃ token r body, s.token = some token ∧
    (transport (s.lookupRequest token card) world).1 = .ok r ∧ r.status = 200 ∧
    Json.read? r.body.bytes = some body ∧ Grants body user

theorem lookup_eq_allowed_iff {user : UserRef} :
    (s.lookup transport card world).1 = .ok (.allowed user) ↔
      s.Admits transport card world user := by
  unfold lookup Admits
  cases s.token with
  | none => simp
  | some token =>
      dsimp only
      split
      · next hreply => simp [hreply]
      · next r _ hreply =>
        have reply : (transport (s.lookupRequest token card) world).1 = .ok r := by rw [hreply]
        rw [readLookup_eq_allowed_iff]
        constructor
        · rintro ⟨ok, body, read, grants⟩
          exact ⟨token, r, body, rfl, reply, ok, read, grants⟩
        · rintro ⟨token', r', body, configured, answered, ok, read, grants⟩
          obtain rfl : token = token' := Option.some.inj configured
          obtain rfl : r = r' := Except.ok.inj (reply.symm.trans answered)
          exact ⟨ok, body, read, grants⟩

end Access.Service

end DoorControl
