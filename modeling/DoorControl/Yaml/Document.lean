/- The document of a text: its directives, its node, and the nodes that have names. -/
import DoorControl.Yaml.Node

namespace DoorControl.Yaml

/-- The handles that the directives before a document define, and the tokens after them. There may be one
version, and one definition of a handle. -/
def directives? (handles : List (List Char × TagText)) (versioned : Bool) :
    List Token → Option (List (List Char × TagText) × List Token)
  | .version major minor :: rest =>
      if versioned || major ≠ 1 || (minor ≠ 1 && minor ≠ 2) then none
      else directives? handles true rest
  | .handle name lead :: rest =>
      if (handles.lookup name).isSome then none
      else directives? (handles ++ [(name, lead)]) versioned rest
  | rest => some (handles, rest)

namespace Node

mutual

/-- The nodes that have names, with the numbers of those, in order. -/
def named : Node → List (Nat × Node)
  | .scalar p text plain => (p.anchor.map (fun n => (n, .scalar p text plain))).toList
  | .sequence p items =>
      (p.anchor.map (fun n => (n, .sequence p items))).toList ++ namedItems items
  | .mapping p members =>
      (p.anchor.map (fun n => (n, .mapping p members))).toList ++ namedMembers members
  | .reference _ => []

def namedItems : List Node → List (Nat × Node)
  | [] => []
  | n :: ns => named n ++ namedItems ns

def namedMembers : List (Node × Node) → List (Nat × Node)
  | [] => []
  | (k, v) :: ms => named k ++ named v ++ namedMembers ms

end

mutual

/-- The length of a node: one for a scalar or a reference, two for the ends of another one. -/
def size : Node → Nat
  | .sequence _ items => sizeItems items + 2
  | .mapping _ members => sizeMembers members + 2
  | _ => 1

def sizeItems : List Node → Nat
  | [] => 0
  | n :: ns => size n + sizeItems ns

def sizeMembers : List (Node × Node) → Nat
  | [] => 0
  | (k, v) :: ms => size k + size v + sizeMembers ms

end

end Node

/-- The node of the only document among some tokens. -/
def documentOf? (tokens : List Token) : Option Node :=
  match directives? [] false tokens with
  | none => none
  | some (handles, rest) =>
      let handles := handles ++ Node.ownHandles
      let node := fun rest : List Token =>
        Node.node? handles true false (3 * rest.length + 3) { tokens := rest }
      let found : Option (Node × Node.Progress) := match rest with
        | .documentStart :: rest =>
            if rest.isEmpty || rest.head? = some .documentEnd then
              some (Node.empty, { tokens := rest })
            else node rest
        | _ => if rest.length < tokens.length then none else node rest
      match found with
      | some (n, p) => if p.tokens.all (· = .documentEnd) then some n else none
      | none => none

/-- The node of a text. A text without any is a scalar that is left out. -/
def document? (text : String) : Option Node :=
  match tokens? text with
  | none => none
  | some [] => some Node.empty
  | some tokens => documentOf? tokens

end DoorControl.Yaml
