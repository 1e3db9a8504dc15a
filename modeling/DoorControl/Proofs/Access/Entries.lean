/- What a cache remembers about a card: what it was told last, by the answer to a question about this card or
by a list of all cards. -/
import DoorControl.Access.Cache
import Mathlib.Data.List.Induction

namespace DoorControl

/-- The smallest card. -/
def CardId.smallest : CardId := ⟨1, Nat.one_pos, Nat.le_of_ble_eq_true rfl⟩

namespace Access

/-- The owner that the last grant of a card in a list names. -/
def lastGrant? (card : CardId) (grants : List Grant) : Option UserRef :=
  ((grants.filter (·.card = card)).getLast?).map (·.user)

theorem lastGrant?_cons (card : CardId) (g : Grant) (grants : List Grant) :
    lastGrant? card (g :: grants) =
      (lastGrant? card grants).or (if g.card = card then some g.user else none) := by
  unfold lastGrant?
  by_cases h : g.card = card
  · rw [List.filter_cons_of_pos (by simpa using h), List.getLast?_cons, if_pos h]
    cases (grants.filter (·.card = card)).getLast? <;> simp
  · simp [h]

theorem lastGrant?_eq_none_iff {card : CardId} {grants : List Grant} :
    lastGrant? card grants = none ↔ ∀ g ∈ grants, g.card ≠ card := by
  simp [lastGrant?]

namespace Cache

theorem lookup_cons_entry (card other : CardId) (entry : Entry) (entries : List (CardId × Entry)) :
    ((card, entry) :: entries).lookup other =
      if other = card then some entry else entries.lookup other := by
  rw [List.lookup_cons]
  by_cases h : other = card
  · simp [h]
  · simp [h, beq_false_of_ne h]

theorem lookup_put (card other : CardId) (entry : Entry) (entries : List (CardId × Entry)) :
    (put card entry entries).lookup other =
      if other = card then some entry else entries.lookup other := by
  induction entries with
  | nil => rw [put, lookup_cons_entry]
  | cons head rest ih =>
      obtain ⟨c, e⟩ := head
      by_cases hc : c = card
      · subst hc
        rw [put, if_pos rfl, lookup_cons_entry, lookup_cons_entry]
        split <;> rfl
      · rw [put, if_neg hc, lookup_cons_entry, lookup_cons_entry, ih]
        by_cases h : other = c
        · subst h
          rw [if_pos rfl, if_neg hc, if_pos rfl]
        · rw [if_neg h, if_neg h]

/-- The last grant of a card in a list is the one that counts. -/
theorem lookup_ofGrants (card : CardId) (grants : List Grant) (now : Nat) :
    (ofGrants grants now).lookup card = (lastGrant? card grants).map (⟨·, now⟩) := by
  induction grants using List.reverseRecOn with
  | nil => rfl
  | append_singleton grants g ih =>
      rw [ofGrants, List.foldl_append, List.foldl_cons, List.foldl_nil, lookup_put]
      by_cases h : card = g.card
      · simp [h, lastGrant?]
      · have hg : g.card ≠ card := fun e => h e.symm
        rw [if_neg h]
        refine Eq.trans ih ?_
        simp [lastGrant?, hg]

theorem keys_put (card : CardId) (entry : Entry) (entries : List (CardId × Entry)) :
    (put card entry entries).map (·.1) = if card ∈ entries.map (·.1) then entries.map (·.1)
      else entries.map (·.1) ++ [card] := by
  induction entries with
  | nil => simp [put]
  | cons head rest ih =>
      obtain ⟨c, e⟩ := head
      by_cases same : c = card
      · simp [put, same]
      · have other : card ≠ c := fun h => same h.symm
        rw [put, if_neg same, List.map_cons, List.map_cons, ih]
        by_cases mem : card ∈ rest.map (·.1)
        · rw [if_pos mem, if_pos (List.mem_cons_of_mem _ mem)]
        · rw [if_neg mem, if_neg (List.not_mem_cons_of_ne_of_not_mem other mem), List.cons_append]

/-- The cards of a list of grants are remembered, each once. -/
theorem keys_ofGrants (grants : List Grant) (now : Nat) :
    ((ofGrants grants now).map (·.1)).Nodup ∧
      ∀ card, card ∈ (ofGrants grants now).map (·.1) ↔ card ∈ grants.map (·.card) := by
  induction grants using List.reverseRecOn with
  | nil => simp [ofGrants]
  | append_singleton grants g ih =>
      obtain ⟨once, cards⟩ := ih
      rw [ofGrants, List.foldl_append, List.foldl_cons, List.foldl_nil, ← ofGrants, keys_put,
        List.map_append, List.map_singleton]
      by_cases known : g.card ∈ (ofGrants grants now).map (·.1)
      · rw [if_pos known]
        refine ⟨once, fun card => ?_⟩
        rw [List.mem_append, List.mem_singleton, ← cards]
        refine (or_iff_left_of_imp ?_).symm
        rintro rfl
        exact known
      · rw [if_neg known]
        refine ⟨?_, fun card => by rw [List.mem_append, List.mem_append, cards]⟩
        rw [List.nodup_append]
        refine ⟨once, by simp, fun c mem d here => ?_⟩
        obtain rfl := List.mem_singleton.mp here
        rintro rfl
        exact known mem

theorem fresh?_eq_some_iff {card : CardId} {now : Nat} {cache : Cache} {user : UserRef} :
    cache.fresh? card now = some user ↔ ∃ e, cache.entry? card = some e ∧
      now - e.refreshed < cache.timing.staleness ∧ e.user = user := by
  unfold fresh?
  cases cache.entry? card with
  | none => simp
  | some e =>
      by_cases h : cache.timing.staleness ≤ now - e.refreshed
      · simp [h, Nat.not_lt_of_le h]
      · simp [h, Nat.lt_of_not_le h]

theorem settle_allowed_iff {card : CardId} {answer : LookupAnswer} {now : Nat} {cache : Cache}
    {user : UserRef} :
    (cache.settle card answer now).1 = .allowed user ↔ answer = .ok (.allowed user) := by
  match answer with
  | .ok (.allowed _) | .ok .forbidden | .ok .unknown | .error _ => simp [settle]

/-- Only a permission is remembered. -/
theorem settle_eq_self {card : CardId} {answer : LookupAnswer} {now : Nat} {cache : Cache}
    (refused : ∀ user, answer ≠ .ok (.allowed user)) : (cache.settle card answer now).2 = cache := by
  match answer with
  | .ok (.allowed user) => exact absurd rfl (refused user)
  | .ok .forbidden | .ok .unknown | .error _ => rfl

@[simp] theorem settle_timing (card : CardId) (answer : LookupAnswer) (now : Nat) (cache : Cache) :
    (cache.settle card answer now).2.timing = cache.timing := by
  match answer with
  | .ok (.allowed _) | .ok .forbidden | .ok .unknown | .error _ => rfl

@[simp] theorem replace_timing (answer : ListAnswer) (now : Nat) (cache : Cache) :
    (cache.replace answer now).2.timing = cache.timing := by
  cases answer <;> rfl

theorem entry?_settle_allowed (card other : CardId) (user : UserRef) (now : Nat) (cache : Cache) :
    Cache.entry? other (cache.settle card (.ok (.allowed user)) now).2 =
      if other = card then some ⟨user, now⟩ else cache.entry? other :=
  lookup_put card other ⟨user, now⟩ cache.entries

theorem entry?_replace_ok (card : CardId) (grants : List Grant) (now : Nat) (cache : Cache) :
    Cache.entry? card (cache.replace (.ok grants) now).2 = (lastGrant? card grants).map (⟨·, now⟩) :=
  lookup_ofGrants card grants now

variable {W : Type} {source : Source W} {card : CardId} {now : Nat} {cache : Cache} {world : W}

/-- A card without a fresh entry has access when the service says so now, and then only. -/
theorem decide_eq_allowed_iff (missing : cache.fresh? card now = none) {user : UserRef} :
    (cache.decide source card now world).1 = .allowed user ↔
      (source.lookup card world).1 = .ok (.allowed user) := by
  simp only [decide, missing]
  exact settle_allowed_iff

theorem decide_cache_of_refused (missing : cache.fresh? card now = none)
    (refused : ∀ user, (source.lookup card world).1 ≠ .ok (.allowed user)) :
    (cache.decide source card now world).2.1 = cache := by
  simp only [decide, missing]
  exact settle_eq_self refused

end Cache

end Access

end DoorControl
