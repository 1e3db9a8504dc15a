/- Which values are read as generic ones, and what their fields are then: of members with one name the last
one counts. -/
import DoorControl.Proofs.Access.Verdict
import DoorControl.Proofs.Latest
import Mathlib.Data.List.Forall2

namespace DoorControl.Json

/-- A value that opens at most so many levels, with finite numbers only and with texts for all strings and
names. -/
inductive Readable : Nat → Json → Prop
  | null {depth : Nat} : Readable depth .null
  | bool {depth : Nat} {b : Bool} : Readable depth (.bool b)
  | num {depth : Nat} {n : JsonNumber} (finite : n.isFinite = true) : Readable depth (.num n)
  | text {depth : Nat} {s : String} : Readable depth (.text s)
  | arr {depth : Nat} {xs : List Json} (elements : ∀ x ∈ xs, Readable depth x) :
      Readable (depth + 1) (.arr xs)
  | obj {depth : Nat} {members : List (Option String × Json)} (named : ∀ m ∈ members, m.1 ≠ none)
      (values : ∀ m ∈ members, Readable depth m.2) : Readable (depth + 1) (.obj members)

/-- The last member with a name has this value. -/
def HasLast (members : List (Option String × Json)) (name : String) (value : Json) : Prop :=
  LastOf (· = (some name, value)) (·.1 = some name) members

variable {depth : Nat} {name : String} {members rest : List (Option String × Json)}

theorem hasLast_nil {value : Json} : ¬HasLast [] name value := lastOf_nil

theorem hasLast_cons {key : String} {x value : Json} :
    HasLast ((some key, x) :: rest) name value ↔ HasLast rest name value ∨
      key = name ∧ x = value ∧ ∀ m ∈ rest, m.1 ≠ some name := by
  rw [HasLast, lastOf_cons]
  simp [HasLast, and_assoc]

theorem genericList?_eq_some_iff {xs ys : List Json} :
    genericList? depth xs = some ys ↔ List.Forall₂ (fun x y => generic? depth x = some y) xs ys := by
  induction xs generalizing ys with
  | nil => cases ys <;> simp [genericList?]
  | cons x xs ih =>
      rw [genericList?]
      cases ys with
      | nil => split <;> simp
      | cons y ys =>
          rw [List.forall₂_cons, ← ih]
          cases generic? depth x <;> cases genericList? depth xs <;> simp

theorem HasLast.mem {value : Json} (h : HasLast members name value) :
    (some name, value) ∈ members := by
  obtain ⟨before, m, after, rfl, rfl, -⟩ := h
  simp

theorem hasField_cons {key : String} {x value : Json} :
    HasField ((some key, x) :: rest) name value ↔
      (key = name ∧ x = value ∧ ∀ m ∈ rest, m.1 ≠ some name) ∨
      key ≠ name ∧ HasField rest name value := by
  unfold HasField
  by_cases same : key = name
  · simp [same, List.filter_eq_nil_iff]
  · simp [same]

/-- An object that is read keeps, of the members with a name, the last. -/
theorem genericMembers?_keeps_last {read : List (Option String × Json)}
    (h : genericMembers? depth members = some read) (name : String) :
    ((∃ m ∈ read, m.1 = some name) ↔ ∃ m ∈ members, m.1 = some name) ∧
      ∀ y, HasField read name y ↔ ∃ x, HasLast members name x ∧ generic? depth x = some y := by
  induction members generalizing read name with
  | nil =>
      obtain rfl : [] = read := Option.some.inj h
      simp [HasField, hasLast_nil]
  | cons m members ih =>
      obtain ⟨key, x⟩ := m
      cases key with
      | none => simp [genericMembers?] at h
      | some key =>
          rw [genericMembers?] at h
          split at h
          · next y kept hx hkept =>
            have names := fun name => (ih hkept name).1
            have fields := (ih hkept name).2
            split at h
            -- A later member with the name takes the place of this one.
            · next any =>
              have again : ∃ m ∈ members, m.1 = some key := (names key).mp (by simpa using any)
              obtain rfl : kept = read := Option.some.inj h
              have shadowed : ¬(key = name ∧ ∀ m ∈ members, m.1 ≠ some name) := by
                rintro ⟨rfl, last⟩
                obtain ⟨m, mem, named⟩ := again
                exact last m mem named
              constructor
              · simp only [List.exists_mem_cons_iff, Option.some.injEq, names name]
                refine (or_iff_right_of_imp ?_).symm
                rintro rfl
                exact again
              · intro z
                simp only [hasLast_cons, fields]
                refine exists_congr fun x' => and_congr_left fun _ => (or_iff_left ?_).symm
                rintro ⟨same, -, last⟩
                exact shadowed ⟨same, last⟩
            · next none_any =>
              have again : ¬∃ m ∈ members, m.1 = some key :=
                fun named => none_any (by simpa using (names key).mpr named)
              obtain rfl : (some key, y) :: kept = read := Option.some.inj h
              have unnamed : (∀ m ∈ kept, m.1 ≠ some name) ↔ ∀ m ∈ members, m.1 ≠ some name := by
                simpa only [not_exists, not_and] using not_congr (names name)
              constructor
              · simp only [List.exists_mem_cons_iff, names name]
              · intro z
                simp only [hasField_cons, hasLast_cons, fields, unnamed]
                by_cases same : key = name
                · subst same
                  have none' : ∀ x', ¬HasLast members key x' := fun _ h => again ⟨_, h.mem, rfl⟩
                  simp [hx, none', and_comm]
                · simp [same]
          · cases h

theorem genericMembers?_named {read : List (Option String × Json)}
    (h : genericMembers? depth members = some read) : ∀ m ∈ read, m.1 ≠ none := by
  induction members generalizing read with
  | nil =>
      obtain rfl : [] = read := Option.some.inj h
      simp
  | cons m members ih =>
      obtain ⟨key, x⟩ := m
      cases key with
      | none => simp [genericMembers?] at h
      | some key =>
          rw [genericMembers?] at h
          split at h
          · next y kept _ hkept =>
            have named := ih hkept
            split at h
            · exact Option.some.inj h ▸ named
            · exact Option.some.inj h ▸ List.forall_mem_cons.mpr ⟨Option.some_ne_none key, named⟩
          · cases h

theorem genericMembers?_isSome_iff : (genericMembers? depth members).isSome ↔
    ∀ m ∈ members, m.1 ≠ none ∧ (generic? depth m.2).isSome := by
  induction members with
  | nil => simp [genericMembers?]
  | cons m members ih =>
      obtain ⟨key, x⟩ := m
      rw [List.forall_mem_cons, ← ih]
      cases key with
      | none => simp [genericMembers?]
      | some key =>
          rw [genericMembers?]
          cases generic? depth x <;> cases genericMembers? depth members <;> simp

theorem genericList?_isSome_iff {xs : List Json} :
    (genericList? depth xs).isSome ↔ ∀ x ∈ xs, (generic? depth x).isSome := by
  induction xs with
  | nil => simp [genericList?]
  | cons x xs ih =>
      rw [List.forall_mem_cons, ← ih, genericList?]
      cases generic? depth x <;> cases genericList? depth xs <;> simp

theorem generic?_isSome_iff {x : Json} : (generic? depth x).isSome ↔ Readable depth x := by
  -- The elements of an array and the values of an object have one level less.
  induction depth using Nat.strongRecOn generalizing x with
  | ind depth ih =>
      cases x with
      | null => exact iff_of_true (by simp [generic?]) .null
      | bool b => exact iff_of_true (by simp [generic?]) .bool
      | num n =>
          rw [generic?]
          constructor
          · intro h
            split at h
            · next finite => exact .num finite
            · cases h
          · rintro ⟨⟩
            next finite => simp [finite]
      | str s =>
          cases s with
          | none => exact iff_of_false (by simp [generic?]) (fun h => by cases h)
          | some s => exact iff_of_true (by simp [generic?]) .text
      | arr xs =>
          cases depth with
          | zero => exact iff_of_false (by simp [generic?]) (fun h => by cases h)
          | succ depth =>
              simp only [generic?, Option.isSome_map, genericList?_isSome_iff, ih depth depth.lt_succ_self]
              exact ⟨.arr, fun | .arr elements => elements⟩
      | obj members =>
          cases depth with
          | zero => exact iff_of_false (by simp [generic?]) (fun h => by cases h)
          | succ depth =>
              simp only [generic?, Option.isSome_map, genericMembers?_isSome_iff,
                ih depth depth.lt_succ_self]
              constructor
              · exact fun h => .obj (fun m mem => (h m mem).1) (fun m mem => (h m mem).2)
              · exact fun | .obj named values => fun m mem => ⟨named m mem, values m mem⟩

theorem generic?_arr_eq_some {xs : List Json} {y : Json} (h : generic? depth (.arr xs) = some y) :
    ∃ less ys, genericList? less xs = some ys ∧ y = .arr ys := by
  cases depth with
  | zero => simp [generic?] at h
  | succ depth =>
      rw [generic?] at h
      obtain ⟨ys, read, rfl⟩ := Option.map_eq_some_iff.mp h
      exact ⟨depth, ys, read, rfl⟩

theorem generic?_obj_eq_some {y : Json} (h : generic? depth (.obj members) = some y) :
    ∃ less read, genericMembers? less members = some read ∧ y = .obj read := by
  cases depth with
  | zero => simp [generic?] at h
  | succ depth =>
      rw [generic?] at h
      obtain ⟨read, hread, rfl⟩ := Option.map_eq_some_iff.mp h
      exact ⟨depth, read, hread, rfl⟩

/-- Reading changes only arrays and objects. -/
theorem generic?_eq_some {x y : Json} (h : generic? depth x = some y) :
    y = x ∨ (∃ xs ys, x = .arr xs ∧ y = .arr ys) ∨ ∃ ms ns, x = .obj ms ∧ y = .obj ns := by
  cases x with
  | null | bool b => exact .inl (by simpa [generic?] using h.symm)
  | num n =>
      rw [generic?] at h
      split at h
      · exact .inl (Option.some.inj h).symm
      · cases h
  | str s =>
      rw [generic?] at h
      obtain ⟨t, rfl, rfl⟩ := Option.map_eq_some_iff.mp h
      exact .inl rfl
  | arr xs =>
      obtain ⟨-, ys, -, rfl⟩ := generic?_arr_eq_some h
      exact .inr (.inl ⟨xs, ys, rfl, rfl⟩)
  | obj ms =>
      obtain ⟨-, ns, -, rfl⟩ := generic?_obj_eq_some h
      exact .inr (.inr ⟨ms, ns, rfl, rfl⟩)

theorem generic?_eq_text_iff {x : Json} {t : String} :
    generic? depth x = some (.text t) ↔ x = .text t := by
  constructor
  · intro h
    obtain same | ⟨_, _, _, other⟩ | ⟨_, _, _, other⟩ := generic?_eq_some h
    · exact same.symm
    · cases other
    · cases other
  · rintro rfl
    simp [generic?, text]

theorem int64?_generic {x y : Json} (h : generic? depth x = some y) : y.int64? = x.int64? := by
  obtain rfl | ⟨xs, ys, rfl, rfl⟩ | ⟨ms, ns, rfl, rfl⟩ := generic?_eq_some h <;> rfl

end DoorControl.Json
