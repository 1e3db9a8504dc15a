/- Taking over the list of all cards: its valid entries are what is remembered afterwards, or nothing changes. -/
import DoorControl.Proofs.Access.Entries
import DoorControl.Proofs.Card.Texts
import DoorControl.Proofs.Json.Generic
import Mathlib.Data.Set.Card
import Mathlib.Logic.Relation

namespace DoorControl

namespace Access

namespace Cache

theorem length_ofGrants (grants : List Grant) (now : Nat) :
    (ofGrants grants now).length = {card | card ∈ grants.map (·.card)}.ncard := by
  obtain ⟨once, cards⟩ := keys_ofGrants grants now
  have set : {card | card ∈ grants.map (·.card)} =
      ↑((ofGrants grants now).map (·.1)).toFinset := by
    ext card
    rw [Set.mem_ofPred_eq, ← cards, List.coe_toFinset, Set.mem_ofPred_eq]
  rw [set, Set.ncard_coe_finset, List.toFinset_card_of_nodup once, List.length_map]

end Cache

namespace Service

open Json (HasField HasLast Readable)

/-- An entry of the list is valid and grants this: in an object the last members with the three names do so. -/
inductive Lists : Json → Grant → Prop
  | object {members : List (Option String × Json)} {text : String} {x y : Json} {g : Grant}
      (card : HasLast members "card_id" (.text text))
      (spelled : CardId.Spelled (Text.trim text.toList) g.card)
      (internal : HasLast members "id" x) (hx : x.int64? = some g.user.internalId)
      (external : HasLast members "int_id" y) (hy : y.int64? = some g.user.externalId) :
      Lists (.obj members) g
  | array {text : String} {x y : Json} {g : Grant}
      (spelled : CardId.Spelled (Text.trim text.toList) g.card)
      (hx : x.int64? = some g.user.internalId) (hy : y.int64? = some g.user.externalId) :
      Lists (.arr [.text text, x, y]) g

/-- The text that an entry has in the place of its card. -/
inductive CardText : Json → String → Prop
  | object {members : List (Option String × Json)} {text : String}
      (card : HasLast members "card_id" (.text text)) : CardText (.obj members) text
  | array {text : String} {rest : List Json} : CardText (.arr (.text text :: rest)) text

/-- An entry has no card, or one that is not spelled with a plus. -/
def Unsigned (x : Json) : Prop := ∀ text, CardText x text → '+' ∉ text.toList

variable {x entry : Json} {g : Grant} {depth : Nat}

theorem required?_eq_some_iff {α : Type} {read : Json → Option α} {field : Option Json} {v : α} :
    Json.required? read field = some v ↔ ∃ x, field = some x ∧ read x = some v := by
  cases field <;> simp [Json.required?]

theorem text?_eq_some_iff {t : String} : x.text? = some t ↔ x = .text t := by
  cases x <;> simp [Json.text?, Json.text]

theorem grant?_eq_some_iff : grant? entry = some g ↔ ∃ text x y,
    entry.record? [("card_id", .never), ("id", .never), ("int_id", .never)] =
      some [some (.text text), some x, some y] ∧ CardId.Names text g.card ∧
    x.int64? = some g.user.internalId ∧ y.int64? = some g.user.externalId := by
  unfold grant?
  split
  · next card internalId externalId hrecord =>
    simp only [hrecord, Option.pure_def, Option.bind_eq_bind, Option.bind_eq_some_iff,
      required?_eq_some_iff, text?_eq_some_iff, CardId.toOption_ofHex_iff, Option.some.injEq, List.cons.injEq,
      and_true]
    constructor
    · rintro ⟨text, ⟨_, rfl, rfl⟩, _, ⟨x, rfl, hx⟩, _, ⟨y, rfl, hy⟩, _, named, rfl⟩
      exact ⟨text, x, y, ⟨rfl, rfl, rfl⟩, named, hx, hy⟩
    · rintro ⟨text, x, y, ⟨rfl, rfl, rfl⟩, named, hx, hy⟩
      exact ⟨text, ⟨_, rfl, rfl⟩, _, ⟨x, rfl, hx⟩, _, ⟨y, rfl, hy⟩, g.card, named, rfl⟩
  · next hrecord =>
    constructor
    · simp
    · rintro ⟨text, x, y, h, -⟩
      exact absurd h (hrecord _ _ _)

theorem grant?_arr_iff {es : List Json} : grant? (.arr es) = some g ↔ ∃ text x y,
    es = [.text text, x, y] ∧ CardId.Names text g.card ∧ x.int64? = some g.user.internalId ∧
      y.int64? = some g.user.externalId := by
  simp [grant?_eq_some_iff, Json.record?_eq_some_iff]

theorem grant?_obj_iff {read : List (Option String × Json)} (named : ∀ m ∈ read, m.1 ≠ none) :
    grant? (.obj read) = some g ↔ ∃ text x y, (HasField read "card_id" (.text text) ∧
      HasField read "id" x ∧ HasField read "int_id" y) ∧ CardId.Names text g.card ∧
        x.int64? = some g.user.internalId ∧ y.int64? = some g.user.externalId := by
  simp only [grant?_eq_some_iff, Json.record?_eq_some_iff, Json.obj.injEq, exists_eq_left',
    reduceCtorEq, or_false, eq_true named, true_and]

theorem grant?_of_arr {xs es : List Json} (h : Json.genericList? depth xs = some es)
    (unsigned : Unsigned (.arr xs)) : grant? (.arr es) = some g ↔ Lists (.arr xs) g := by
  rw [Json.genericList?_eq_some_iff] at h
  rw [grant?_arr_iff]
  constructor
  · rintro ⟨text, x', y', rfl, named, hx, hy⟩
    obtain ⟨t, readText, x, y, ⟨readX, readY⟩, rfl⟩ := by
      simpa [List.forall₂_cons_right_iff] using h
    obtain rfl := Json.generic?_eq_text_iff.mp readText
    exact .array ((CardId.names_iff_of_unsigned (unsigned text .array)).mp named)
      ((Json.int64?_generic readX).symm.trans hx) ((Json.int64?_generic readY).symm.trans hy)
  · intro lists
    cases lists with
    | @array text x y _ spelled hx hy =>
        obtain ⟨t, readText, x', y', ⟨readX, readY⟩, rfl⟩ := by
          simpa [List.forall₂_cons_left_iff] using h
        obtain rfl : t = .text text :=
          Option.some.inj (readText.symm.trans (Json.generic?_eq_text_iff.mpr rfl))
        exact ⟨text, x', y', rfl, (CardId.names_iff_of_unsigned (unsigned text .array)).mpr spelled,
          (Json.int64?_generic readX).trans hx, (Json.int64?_generic readY).trans hy⟩

theorem grant?_of_obj {members read : List (Option String × Json)}
    (h : Json.genericMembers? depth members = some read) (unsigned : Unsigned (.obj members)) :
    grant? (.obj read) = some g ↔ Lists (.obj members) g := by
  have fields := fun name => (Json.genericMembers?_keeps_last h name).2
  rw [grant?_obj_iff (Json.genericMembers?_named h)]
  simp only [fields, Json.generic?_eq_text_iff, exists_eq_right]
  constructor
  · rintro ⟨text, _, _, ⟨card, ⟨x, internal, readX⟩, y, external, readY⟩, named, hx, hy⟩
    exact .object card ((CardId.names_iff_of_unsigned (unsigned text (.object card))).mp named)
      internal ((Json.int64?_generic readX).symm.trans hx) external
      ((Json.int64?_generic readY).symm.trans hy)
  · intro lists
    cases lists with
    | @object _ text x y _ card spelled internal hx external hy =>
        have values : ∀ m ∈ members, (m.2.generic? depth).isSome := fun m mem =>
          (Json.genericMembers?_isSome_iff.mp (Option.isSome_of_eq_some h) m mem).2
        obtain ⟨x', readX⟩ := Option.isSome_iff_exists.mp (values _ internal.mem)
        obtain ⟨y', readY⟩ := Option.isSome_iff_exists.mp (values _ external.mem)
        exact ⟨text, x', y', ⟨card, ⟨x, internal, readX⟩, y, external, readY⟩,
          (CardId.names_iff_of_unsigned (unsigned text (.object card))).mpr spelled,
          (Json.int64?_generic readX).trans hx, (Json.int64?_generic readY).trans hy⟩

/-- An entry as it is read is a grant exactly if the entry as it is spelled is valid. -/
theorem grant?_generic_iff (h : x.generic? depth = some entry) (unsigned : Unsigned x) :
    grant? entry = some g ↔ Lists x g := by
  cases x with
  | arr xs =>
      obtain ⟨less, es, read, rfl⟩ := Json.generic?_arr_eq_some h
      exact grant?_of_arr read unsigned
  | obj members =>
      obtain ⟨less, read, hread, rfl⟩ := Json.generic?_obj_eq_some h
      exact grant?_of_obj hread unsigned
  | null | bool _ | num _ | str _ =>
      obtain rfl | ⟨_, _, other, _⟩ | ⟨_, _, other, _⟩ := Json.generic?_eq_some h
      · exact iff_of_false (by simp [grant?, Json.record?]) (by rintro ⟨⟩)
      · cases other
      · cases other

/-- The last valid entry for a card is one for this user. -/
def ListedLast (xs : List Json) (card : CardId) (user : UserRef) : Prop :=
  LastOf (Lists · ⟨card, user⟩) (fun x => ∃ other, Lists x ⟨card, other⟩) xs

/-- The cards of the valid entries. -/
def listedCards (xs : List Json) : Set CardId := {card | ∃ x ∈ xs, ∃ user, Lists x ⟨card, user⟩}

section Entries

variable {xs ys entries : List Json} {card : CardId} {user : UserRef}

theorem mem_grants_iff (read : Json.genericList? depth xs = some entries)
    (unsigned : ∀ x ∈ xs, Unsigned x) : g ∈ entries.filterMap grant? ↔ ∃ x ∈ xs, Lists x g := by
  rw [Json.genericList?_eq_some_iff] at read
  induction read with
  | nil => simp
  | cons hx _ ih =>
      obtain ⟨first, rest⟩ := List.forall_mem_cons.mp unsigned
      have later := ih rest
      simp only [List.mem_filterMap, List.exists_mem_cons_iff, grant?_generic_iff hx first] at later ⊢
      exact or_congr_right later

theorem lastGrant?_grants (read : Json.genericList? depth xs = some entries)
    (unsigned : ∀ x ∈ xs, Unsigned x) :
    lastGrant? card (entries.filterMap grant?) = some user ↔ ListedLast xs card user := by
  -- Both sides ask the later entries first, and this one only if none of those is for the card.
  induction xs generalizing entries with
  | nil =>
      obtain rfl : [] = entries := Option.some.inj read
      exact iff_of_false (by simp [lastGrant?]) lastOf_nil
  | cons x xs ih =>
      obtain ⟨first, others⟩ := List.forall_mem_cons.mp unsigned
      rw [Json.genericList?] at read
      split at read
      · next entry rest hx hrest =>
        obtain rfl := Option.some.inj read
        have valid (g : Grant) : grant? entry = some g ↔ Lists x g := grant?_generic_iff hx first
        have unlisted : lastGrant? card (rest.filterMap grant?) = none ↔
            ∀ y ∈ xs, ¬∃ other, Lists y ⟨card, other⟩ := by
          rw [lastGrant?_eq_none_iff]
          constructor
          · rintro none' y mem ⟨other, lists⟩
            exact none' _ ((mem_grants_iff hrest others).mpr ⟨y, mem, lists⟩) rfl
          · rintro none' g mem rfl
            obtain ⟨y, mem, lists⟩ := (mem_grants_iff hrest others).mp mem
            exact none' y mem ⟨g.user, lists⟩
        rw [ListedLast, lastOf_cons, ← ListedLast, ← ih hrest others, ← unlisted, ← valid]
        cases hg : grant? entry with
        | none => simp [hg]
        | some g =>
            rw [List.filterMap_cons_some hg, lastGrant?_cons]
            cases g
            cases lastGrant? card (rest.filterMap grant?) <;> simp
      · cases read

end Entries

/-- Entries that are not valid are left out, and neighbours that are not for one card change places. -/
inductive Rearranged : List Json → List Json → Prop
  | drop {before after : List Json} {x : Json} (invalid : ∀ g, ¬Lists x g) :
      Rearranged (before ++ x :: after) (before ++ after)
  | swap {before after : List Json} {x y : Json}
      (apart : ∀ g h, Lists x g → Lists y h → g.card ≠ h.card) :
      Rearranged (before ++ x :: y :: after) (before ++ y :: x :: after)

namespace Rearranged

variable {xs ys : List Json} {card : CardId} {user : UserRef}

theorem mem (h : Rearranged xs ys) {x : Json} (there : x ∈ ys) : x ∈ xs := by
  cases h with
  | drop invalid =>
      simp only [List.mem_append, List.mem_cons] at there ⊢
      exact there.imp_right .inr
  | swap apart =>
      simp only [List.mem_append, List.mem_cons] at there ⊢
      exact there.imp_right or_left_comm.mp

theorem listedCards_eq (h : Rearranged xs ys) : listedCards ys = listedCards xs := by
  ext card
  constructor
  · rintro ⟨x, there, lists⟩
    exact ⟨x, h.mem there, lists⟩
  · rintro ⟨x, there, user, lists⟩
    refine ⟨x, ?_, user, lists⟩
    cases h with
    | @drop _ _ x' invalid =>
        have other : x ≠ x' := fun same => invalid _ (same ▸ lists)
        simpa [other] using there
    | swap apart =>
        simp only [List.mem_append, List.mem_cons] at there ⊢
        exact there.imp_right or_left_comm.mp

theorem listedLast_iff (h : Rearranged xs ys) : ListedLast ys card user ↔ ListedLast xs card user := by
  unfold ListedLast
  cases h with
  | drop invalid => simp [lastOf_append, lastOf_cons, invalid]
  | @swap _ _ x y apart =>
      -- At most one of the two is for the card at hand.
      have notBoth : (∃ u, Lists x ⟨card, u⟩) → ¬∃ u, Lists y ⟨card, u⟩ :=
        fun ⟨_, hx⟩ ⟨_, hy⟩ => apart _ _ hx hy rfl
      have hx : Lists x ⟨card, user⟩ → ∃ u, Lists x ⟨card, u⟩ := fun lists => ⟨user, lists⟩
      have hy : Lists y ⟨card, user⟩ → ∃ u, Lists y ⟨card, u⟩ := fun lists => ⟨user, lists⟩
      simp only [lastOf_append, lastOf_cons, List.forall_mem_cons]
      grind

theorem readable (h : Rearranged xs ys) (all : Readable depth (.arr xs)) :
    Readable depth (.arr ys) := by
  cases all with
  | arr elements => exact .arr fun x there => elements x (h.mem there)

end Rearranged

/-- None of this changes what the entries say, and no entry is new. -/
theorem rearranged_invariant {xs ys : List Json} (h : Relation.ReflTransGen Rearranged xs ys)
    (readable : Readable depth (.arr xs)) : Readable depth (.arr ys) ∧ (∀ y ∈ ys, y ∈ xs) ∧
      listedCards ys = listedCards xs ∧ ∀ card user, ListedLast ys card user ↔ ListedLast xs card user := by
  induction h with
  | refl => exact ⟨readable, fun _ there => there, rfl, fun _ _ => Iff.rfl⟩
  | tail _ step ih =>
      obtain ⟨readable, old, cards, last⟩ := ih
      exact ⟨step.readable readable, fun y there => old y (step.mem there),
        step.listedCards_eq.trans cards, fun card user => step.listedLast_iff.trans (last card user)⟩

variable {W : Type} {s : Service} {transport : Http.Transport W} {world : W} {r : Http.Response}
  {xs : List Json}

/-- The service is asked for the list of all cards, and the body of its answer is an array. -/
def Answers (s : Service) (transport : Http.Transport W) (world : W) (xs : List Json) : Prop :=
  ∃ token r, s.token = some token ∧ (transport (s.listRequest token) world).1 = .ok r ∧
    r.status = 200 ∧ Json.read? r.body.bytes = some (.arr xs)

/-- Why there is no list. -/
inductive Fails (s : Service) (transport : Http.Transport W) (world : W) : AccessError → Prop
  | unconfigured (missing : s.token = none) : Fails s transport world .missingToken
  | unanswered {token : String} {f : Http.Failure} (configured : s.token = some token)
      (failed : (transport (s.listRequest token) world).1 = .error f) :
      Fails s transport world (.transport f.message)
  | refused {token : String} {r : Http.Response} (configured : s.token = some token)
      (answered : (transport (s.listRequest token) world).1 = .ok r) (other : r.status ≠ 200) :
      Fails s transport world (.status r.status)
  | unreadable {token : String} {r : Http.Response} (configured : s.token = some token)
      (answered : (transport (s.listRequest token) world).1 = .ok r) (ok : r.status = 200)
      (unread : ∀ xs, Json.read? r.body.bytes = some (.arr xs) → ¬Readable Json.maxDepth (.arr xs)) :
      Fails s transport world (.malformed Http.unreadable)

theorem entries?_eq_some_iff {body : Json} {entries : List Json} : entries? body = some entries ↔
    ∃ xs, body = .arr xs ∧ Json.genericList? (Json.maxDepth - 1) xs = some entries := by
  have opened (xs : List Json) : Json.generic? Json.maxDepth (.arr xs) =
      (Json.genericList? (Json.maxDepth - 1) xs).map .arr := rfl
  unfold entries?
  cases body with
  | arr xs =>
      rw [opened]
      cases read : Json.genericList? (Json.maxDepth - 1) xs <;> simp [read]
  | null | bool _ | num _ | str _ | obj _ =>
      refine iff_of_false (fun h => ?_) (by simp)
      split at h
      · next read =>
        obtain other | ⟨_, _, other, _⟩ | ⟨_, _, _, other⟩ := Json.generic?_eq_some read <;> cases other
      · cases h

theorem readList_of_readable {xs : List Json} (ok : r.status = 200)
    (body : Json.read? r.body.bytes = some (.arr xs)) (readable : Readable Json.maxDepth (.arr xs)) :
    ∃ entries, Json.genericList? (Json.maxDepth - 1) xs = some entries ∧
      readList r = .ok (entries.filterMap grant?) := by
  obtain ⟨read, h⟩ := Option.isSome_iff_exists.mp (Json.generic?_isSome_iff.mpr readable)
  obtain ⟨entries, hentries, rfl⟩ := Option.map_eq_some_iff.mp h
  have found : r.json?.bind entries? = some entries := by
    rw [json?_eq_read? ok, body, Option.bind_some, entries?_eq_some_iff]
    exact ⟨xs, rfl, hentries⟩
  exact ⟨entries, hentries, by simp [readList, ok, found]⟩

theorem readList_of_unreadable (ok : r.status = 200) (unread : ∀ xs,
    Json.read? r.body.bytes = some (.arr xs) → ¬Readable Json.maxDepth (.arr xs)) :
    readList r = .error (.malformed Http.unreadable) := by
  have missing : r.json?.bind entries? = none := by
    rw [Option.eq_none_iff_forall_ne_some]
    intro entries found
    rw [json?_eq_read? ok, Option.bind_eq_some_iff] at found
    obtain ⟨body, read, found⟩ := found
    obtain ⟨xs, rfl, hentries⟩ := entries?_eq_some_iff.mp found
    refine unread xs read (Json.generic?_isSome_iff.mp ?_)
    change ((Json.genericList? (Json.maxDepth - 1) xs).map Json.arr).isSome
    simp [hentries]
  simp [readList, ok, missing]

theorem listAll_of_readable {xs : List Json} (answers : s.Answers transport world xs)
    (readable : Readable Json.maxDepth (.arr xs)) :
    ∃ entries, Json.genericList? (Json.maxDepth - 1) xs = some entries ∧
      (s.listAll transport world).1 = .ok (entries.filterMap grant?) := by
  obtain ⟨token, r, configured, answered, ok, body⟩ := answers
  obtain ⟨entries, read, listed⟩ := readList_of_readable ok body readable
  refine ⟨entries, read, ?_⟩
  rw [listAll, configured]
  dsimp only
  split
  · next failed => simp [failed] at answered
  · next r' _ reply =>
    obtain rfl : r' = r := by simpa [reply] using answered
    exact listed

theorem listAll_of_unreadable (unread : ∀ xs, s.Answers transport world xs →
    ¬Readable Json.maxDepth (.arr xs)) :
    ∃ e, s.Fails transport world e ∧ (s.listAll transport world).1 = .error e := by
  cases configured : s.token with
  | none => exact ⟨_, .unconfigured configured, by rw [listAll, configured]⟩
  | some token =>
      rw [listAll, configured]
      dsimp only
      split
      · next f _ reply =>
        exact ⟨_, .unanswered configured (by rw [reply]), rfl⟩
      · next r _ reply =>
        have answered : (transport (s.listRequest token) world).1 = .ok r := by rw [reply]
        by_cases ok : r.status = 200
        · have unread' xs (body : Json.read? r.body.bytes = some (.arr xs)) :=
            unread xs ⟨token, r, configured, answered, ok, body⟩
          exact ⟨_, .unreadable configured answered ok unread', readList_of_unreadable ok unread'⟩
        · exact ⟨_, .refused configured answered ok, by simp [readList, ok]⟩

theorem refresh_of_readable {xs : List Json} (now : Nat) (cache : Cache)
    (answers : s.Answers transport world xs) (readable : Readable Json.maxDepth (.arr xs))
    (unsigned : ∀ x ∈ xs, Unsigned x) :
    (cache.refresh (s.source transport) now world).1 = .ok (listedCards xs).ncard ∧
      ∀ card entry, Cache.entry? card (cache.refresh (s.source transport) now world).2.1 = some entry ↔
        entry.refreshed = now ∧ ListedLast xs card entry.user := by
  obtain ⟨entries, read, listed⟩ := listAll_of_readable answers readable
  have answer : ((s.source transport).listAll world).1 = .ok (entries.filterMap grant?) := listed
  have cards : {card | card ∈ (entries.filterMap grant?).map (·.card)} = listedCards xs := by
    ext card
    simp only [Set.mem_ofPred_eq, List.mem_map, mem_grants_iff read unsigned]
    constructor
    · rintro ⟨g, ⟨x, there, lists⟩, rfl⟩
      exact ⟨x, there, g.user, lists⟩
    · rintro ⟨x, there, user, lists⟩
      exact ⟨⟨card, user⟩, ⟨x, there, lists⟩, rfl⟩
  constructor
  · rw [← cards, ← Cache.length_ofGrants _ now]
    simp only [Cache.refresh, answer, Cache.replace]
  · intro card entry
    simp only [Cache.refresh, answer, Cache.entry?_replace_ok, Option.map_eq_some_iff,
      lastGrant?_grants read unsigned]
    constructor
    · rintro ⟨user, last, rfl⟩
      exact ⟨rfl, last⟩
    · rintro ⟨rfl, last⟩
      exact ⟨entry.user, last, rfl⟩

theorem refresh_of_unreadable (now : Nat) (cache : Cache) (unread : ∀ xs,
    s.Answers transport world xs → ¬Readable Json.maxDepth (.arr xs)) :
    ∃ e, s.Fails transport world e ∧
      (cache.refresh (s.source transport) now world).1 = .error e ∧
      (cache.refresh (s.source transport) now world).2.1 = cache := by
  obtain ⟨e, fails, listed⟩ := listAll_of_unreadable unread
  have answer : ((s.source transport).listAll world).1 = .error e := listed
  exact ⟨e, fails, by simp [Cache.refresh, answer, Cache.replace]⟩

/-- A list that is had is taken over: afterwards exactly the cards of its valid entries are remembered, each
with the user of its last one. Neither entries that are not valid nor the order of different cards matter.
Nothing is said here of a list that spells a card with a plus. Without a list nothing changes. -/
theorem refresh_takes_over_valid_entries (s : Service) (transport : Http.Transport W) (now : Nat)
    (cache : Cache) (world : W) :
    let after := cache.refresh (s.source transport) now world
    (∀ xs, s.Answers transport world xs → Readable Json.maxDepth (.arr xs) → (∀ x ∈ xs, Unsigned x) →
      after.1 = .ok (listedCards xs).ncard ∧
      (∀ card entry, Cache.entry? card after.2.1 = some entry ↔
        entry.refreshed = now ∧ ListedLast xs card entry.user) ∧
      ∀ ys (transport' : Http.Transport W) (world' : W), Relation.ReflTransGen Rearranged xs ys →
        s.Answers transport' world' ys →
        let other := cache.refresh (s.source transport') now world'
        other.1 = after.1 ∧ ∀ card, Cache.entry? card other.2.1 = Cache.entry? card after.2.1) ∧
    ((∀ xs, s.Answers transport world xs → ¬Readable Json.maxDepth (.arr xs)) →
      ∃ e, s.Fails transport world e ∧ after.1 = .error e ∧ after.2.1 = cache) := by
  intro after
  refine ⟨fun xs answers readable unsigned => ?_, refresh_of_unreadable now cache⟩
  obtain ⟨count, entries⟩ := refresh_of_readable now cache answers readable unsigned
  refine ⟨count, entries, fun ys transport' world' rearranged answers' => ?_⟩
  obtain ⟨readable', old, cards, last⟩ := rearranged_invariant rearranged readable
  obtain ⟨count', entries'⟩ :=
    refresh_of_readable now cache answers' readable' fun y there => unsigned y (old y there)
  refine ⟨?_, fun card => Option.ext fun entry => ?_⟩
  · rw [count', cards]
    exact count.symm
  · rw [entries', last]
    exact (entries card entry).symm

def service : Service := { token := some "secret" }

def listing (body : String) : Http.Transport Unit := fun _ world => (.ok { body }, world)

theorem answers_listing {body : String} {xs : List Json} : service.Answers (listing body) () xs ↔
    Json.read? (Text.Utf8.encode body) = some (.arr xs) := by
  constructor
  · rintro ⟨token, r, -, answered, -, read⟩
    obtain rfl : ({ body } : Http.Response) = r := Except.ok.inj answered
    exact read
  · exact fun read => ⟨"secret", { body }, rfl, rfl, rfl, read⟩

/-- An entry for a card, and one that spells the card in another way. -/
def spelled : Json := .object [("card_id", .text "AB"), ("id", .int 1), ("int_id", .int 2)]

def respelled : Json := .arr [.text " 00ab ", .int 3, .int 4]

def spelledText : String := "\x7b\"card_id\": \"AB\", \"id\": 1, \"int_id\": 2\x7d"

def respelledText : String := "[\" 00ab \", 3, 4]"

/-- A number that is too large to be read. -/
def infinite : Json := .num { whole := 1, exponent := some 999 }

theorem infinite_answers : service.Answers (listing "[1e999]") () [infinite] :=
  answers_listing.mpr rfl

theorem infinite_unreadable : ∀ xs, service.Answers (listing "[1e999]") () xs →
    ¬Readable Json.maxDepth (.arr xs) := by
  intro xs answers readable
  obtain rfl : [infinite] = xs :=
    Json.arr.inj (Option.some.inj ((answers_listing.mp infinite_answers).symm.trans
      (answers_listing.mp answers)))
  cases readable with
  | arr elements => cases elements infinite List.mem_cons_self with
    | num finite => exact absurd finite (by decide +kernel)

def refreshed (body : String) : Except AccessError Nat × Cache × Unit :=
  ({} : Cache).refresh (service.source (listing body)) 5 ()

/-- The later of two spellings counts, whatever stands between them; a number that is too large leaves
everything as it was. -/
theorem later_spelling_taken_over :
    let card : CardId := ⟨0xAB, by decide, by decide⟩
    let mixed := "[" ++ spelledText ++ ", 7, " ++ respelledText ++ "]"
    let valid := "[" ++ spelledText ++ ", " ++ respelledText ++ "]"
    Cache.entry? card (refreshed mixed).2.1 = some ⟨⟨3, 4⟩, 5⟩ ∧
      (refreshed valid).1 = (refreshed mixed).1 ∧ (refreshed "[1e999]").2.1 = {} := by
  intro card mixed valid
  let xs := [spelled, .int 7, respelled]
  have answers : service.Answers (listing mixed) () xs := answers_listing.mpr rfl
  have answers' : service.Answers (listing valid) () [spelled, respelled] := answers_listing.mpr rfl
  have readable : Readable Json.maxDepth (.arr xs) := Json.generic?_isSome_iff.mp (by decide +kernel)
  have last : ListedLast xs card ⟨3, 4⟩ := by
    have digits : CardId.Spelled (Text.trim " 00ab ".toList) card := ⟨by decide, by decide⟩
    exact ⟨[spelled, .int 7], respelled, [], rfl, .array digits rfl rfl, List.forall_mem_nil _⟩
  have unsigned : ∀ x ∈ xs, Unsigned x := by
    rw [List.forall_mem_cons, List.forall_mem_cons, List.forall_mem_singleton]
    refine ⟨?_, ?_, ?_⟩
    · rintro text ⟨given⟩
      obtain rfl : text = "AB" := by simpa [Json.text] using given.mem
      decide
    · rintro text ⟨⟩
    · rintro text ⟨⟩
      decide
  have rearranged : Rearranged xs [spelled, respelled] :=
    @Rearranged.drop [spelled] [respelled] (.int 7) (by rintro g ⟨⟩)
  have taken := refresh_takes_over_valid_entries service (listing mixed) 5 {} ()
  obtain ⟨-, entries, alike⟩ := taken.1 xs answers readable unsigned
  have spoilt := refresh_takes_over_valid_entries service (listing "[1e999]") 5 {} ()
  obtain ⟨e, -, -, kept⟩ := spoilt.2 infinite_unreadable
  unfold refreshed
  refine ⟨?_, ?_, kept⟩
  · exact (entries card ⟨⟨3, 4⟩, 5⟩).mpr ⟨rfl, last⟩
  · exact (alike _ _ () (.single rearranged) answers').1

/-- An array that holds such a number is no list. -/
theorem infinite_number_spoils_list : ¬∀ (transport : Http.Transport Unit) (now : Nat) (cache : Cache)
    (xs : List Json), service.Answers transport () xs →
      ∃ n, (cache.refresh (service.source transport) now ()).1 = .ok n := by
  intro taken
  obtain ⟨n, ok⟩ := taken (listing "[1e999]") 0 {} [infinite] infinite_answers
  obtain ⟨e, -, failed, -⟩ := refresh_of_unreadable 0 {} infinite_unreadable
  rw [failed] at ok
  cases ok

end Service

end Access

end DoorControl
