/- Configuration files, whose mappings and scalars are settings. -/
import DoorControl.Config.Literal
import DoorControl.Yaml.Document

namespace DoorControl.Config.File

open Yaml (Node Properties TagText)

/-- How deep the settings of a file may be nested. -/
def maxDepth : Nat := 128

/-- The standard tag with a name. -/
def standardTag (name : String) : TagText := ("tag:yaml.org,2002:" ++ name).toUTF8.toList

/-- Whether a tag belongs to a file alone. -/
def isLocal (p : Properties) : Bool := (p.tag.map (·.head? == some 33)).getD false

/-- The value of a scalar: by its tag if it has one, else by its text unless it is quoted. -/
def scalar? (p : Properties) (text : List Char) (plain : Bool) : Option Tree :=
  let s := String.ofList text
  match p.tag with
  | none => some (if plain then Literal.ofFile s else .text s)
  | some tag =>
      if isLocal p then none
      else if tag = standardTag "bool" then (Literal.bool? s).map .bool
      else if tag = standardTag "int" then (Literal.integer? text).map .int
      else if tag = standardTag "float" then if Literal.isReal text then some .real else none
      else if tag = standardTag "null" then if Literal.null? s then some .null else none
      else some (.text s)

/-- The node that a node stands for, and how many references may still be followed. -/
def resolve? (named : List (Nat × Node)) : Node → (left : Nat) → Option (Node × Nat)
  | .reference _, 0 => none
  | .reference n, left + 1 => (named.lookup n).map (fun node => (node, left))
  | node, left => some (node, left)

/-- The text of a key, whatever its tag and its quotes. -/
def key? (named : List (Nat × Node)) (node : Node) (left : Nat) : Option (String × Nat) :=
  match resolve? named node left with
  | some (.scalar _ text _, left) => some (String.ofList text, left)
  | _ => none

/-- Reads one node after the other. -/
def each? {α β : Type} (read : α → Nat → Option (β × Nat)) : List α → (left : Nat) → Option (List β × Nat)
  | [], left => some ([], left)
  | x :: xs, left => match read x left with
      | none => none
      | some (y, left) => (each? read xs left).map (fun (ys, left) => (y :: ys, left))

/-- The tree that a node spells, where `depth` more levels may be opened. -/
def tree? (named : List (Nat × Node)) : (depth : Nat) → Node → (left : Nat) → Option (Tree × Nat)
  | depth, node, left => match resolve? named node left, depth with
      | some (.scalar p text plain, left), _ => (scalar? p text plain).map (fun t => (t, left))
      | some (.sequence p items, left), depth + 1 =>
          if isLocal p then none
          else (each? (tree? named depth) items left).map (fun (ts, left) => (.list ts, left))
      | some (.mapping p members, left), depth + 1 =>
          let member := fun (m : Node × Node) (left : Nat) => match key? named m.1 left with
            | none => none
            | some (k, left) => (tree? named depth m.2 left).map (fun (t, left) => ((k, t), left))
          if isLocal p then none
          else (each? member members left).map (fun (ms, left) => (.dict ms, left))
      | _, _ => none

/-- The settings in a document. One that is left out has none, and one that is no mapping cannot be read.
For each of its words a document may refer to names a hundred times. -/
def settings? : Node → Option Tree
  | .scalar _ text plain => if text.isEmpty && plain then some (.dict []) else none
  | .mapping p members =>
      let node : Node := .mapping { p with tag := none } members
      (tree? node.named.reverse maxDepth node (100 * node.size)).map (·.1)
  | _ => none

/-- The tree that a file spells. -/
def read? (text : String) : Option Tree := (Yaml.document? text).bind settings?

end DoorControl.Config.File
