/- Configuration values as files and the environment give them, before they mean anything. -/

namespace DoorControl.Config

inductive Tree
  | null
  | bool (b : Bool)
  | int (n : Int)
  /-- A number with a fraction or an exponent. No setting takes one. -/
  | real
  | text (s : String)
  | list (xs : List Tree)
  | dict (members : List (String × Tree))
  deriving Repr, Inhabited

namespace Tree

/-- The value of a key; of several the last one counts. -/
def member? (key : String) (members : List (String × Tree)) : Option Tree :=
  members.foldl (fun found (k, t) => if k = key then some t else found) none

mutual

/-- Lays a value over another one: dictionaries are joined, everything else is replaced. -/
def merge (base upper : Tree) : Tree :=
  match upper, base with
  | .dict upper, .dict base => .dict (mergeMembers base upper)
  | upper, _ => upper

/-- Lays members over others. -/
def mergeMembers (base : List (String × Tree)) : List (String × Tree) → List (String × Tree)
  | [] => base
  | (k, t) :: rest =>
      let t := match member? k base with
        | some b => merge b t
        | none => t
      mergeMembers (base.filter (fun (l, _) => l ≠ k) ++ [(k, t)]) rest

end

/-- A value at the end of a path of keys. -/
def nested (leaf : Tree) : List String → Tree
  | [] => leaf
  | k :: ks => .dict [(k, nested leaf ks)]

end Tree

end DoorControl.Config
