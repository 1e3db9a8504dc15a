/- The nodes that tokens form: scalars, sequences and mappings. -/
import DoorControl.Yaml.Layout

namespace DoorControl.Yaml

/-- What stands before a node: a number for its name, and its tag. -/
structure Properties where
  anchor : Option Nat := none
  tag : Option TagText := none
  deriving Repr

def Properties.isEmpty (p : Properties) : Bool := p.anchor.isNone && p.tag.isNone

inductive Node
  | scalar (properties : Properties) (text : List Char) (plain : Bool)
  | sequence (properties : Properties) (items : List Node)
  | mapping (properties : Properties) (members : List (Node × Node))
  /-- Another place of the node whose name has the given number. -/
  | reference (number : Nat)
  deriving Repr

namespace Node

/-- A scalar that is left out. -/
def empty : Node := .scalar {} [] true

/-- The nodes that have been read: the tokens left, and the numbers of names. -/
structure Progress where
  tokens : List Token
  names : List (List Char × Nat) := []

/-- A name for a node. Its number is that of the other names so far, also when it is given again. -/
def Progress.register (p : Progress) (name : List Char) : Progress × Nat :=
  let number := p.names.length
  ({ p with names := (name, number) :: p.names.filter (fun (n, _) => n ≠ name) }, number)

/-- The handles that need no definition. -/
def ownHandles : List (List Char × TagText) :=
  [(['!'], [33]), (['!', '!'], "tag:yaml.org,2002:".toUTF8.toList)]

/-- The tag that a handle and a suffix spell. -/
def tagOf? (handles : List (List Char × TagText)) (handle : List Char) (suffix : TagText) :
    Option TagText :=
  if handle.isEmpty then some suffix else (handles.lookup handle).map (· ++ suffix)

/-- A name and a tag, in either order, that stand before a node. -/
def properties? (handles : List (List Char × TagText)) (p : Progress) : Option (Properties × Progress) :=
  let named := fun (name : List Char) (tag : Option TagText) (rest : List Token) =>
    let (p, number) := { p with tokens := rest }.register name
    (({ anchor := some number, tag } : Properties), p)
  match p.tokens with
  | .anchor name :: .tag handle suffix :: rest =>
      (tagOf? handles handle suffix).map (fun tag => named name (some tag) rest)
  | .tag handle suffix :: .anchor name :: rest =>
      (tagOf? handles handle suffix).map (fun tag => named name (some tag) rest)
  | .anchor name :: rest => some (named name none rest)
  | .tag handle suffix :: rest =>
      (tagOf? handles handle suffix).map (fun tag => ({ tag := some tag }, { p with tokens := rest }))
  | _ => some ({}, p)

/-- A scalar whose tag is the lone exclamation mark has none. -/
def untagged (p : Properties) : Properties :=
  if p.tag = some [33] then { p with tag := none } else p

def isOneOf (ends : List Token) (tokens : List Token) : Bool := tokens.head?.any ends.contains

/-- Whether a node inside a block is left out, since one of its marks follows. -/
def isLeftOut (tokens : List Token) : Bool := isOneOf [.key, .value, .blockEnd] tokens

mutual

/-- A node; blocks may begin it only where `block` holds, and a sequence without indentation of its own
only where `level` does. `left` bounds the steps. -/
def node? (handles : List (List Char × TagText)) (block level : Bool) :
    (left : Nat) → Progress → Option (Node × Progress)
  | 0, _ => none
  | left + 1, p => match p.tokens with
      | .reference name :: rest =>
          (p.names.lookup name).map (fun n => (.reference n, { p with tokens := rest }))
      | _ => match properties? handles p with
          | none => none
          | some (properties, p) => match p.tokens with
              | .scalar text plain :: rest =>
                  some (.scalar (untagged properties) text plain, { p with tokens := rest })
              | .openSequence :: rest =>
                  (entries? handles true left { p with tokens := rest }).map
                    (fun (ns, p) => (.sequence properties ns, p))
              | .openMapping :: rest =>
                  (pairs? handles true left { p with tokens := rest }).map
                    (fun (ms, p) => (.mapping properties ms, p))
              | t :: rest =>
                  if level && t = .item then
                    (levelItems? handles left p).map (fun (ns, p) => (.sequence properties ns, p))
                  else if block && t = .blockSequence then
                    (items? handles left { p with tokens := rest }).map
                      (fun (ns, p) => (.sequence properties ns, p))
                  else if block && t = .blockMapping then
                    (members? handles left { p with tokens := rest }).map
                      (fun (ms, p) => (.mapping properties ms, p))
                  else if properties.isEmpty then none
                  else some (.scalar properties [] true, p)
              | [] => if properties.isEmpty then none else some (.scalar properties [] true, p)

/-- The items of a sequence in a block of its own. -/
def items? (handles : List (List Char × TagText)) :
    (left : Nat) → Progress → Option (List Node × Progress)
  | 0, _ => none
  | left + 1, p => match p.tokens with
      | .item :: rest =>
          let p := { p with tokens := rest }
          let found := if isOneOf [.item, .blockEnd] rest then some (empty, p)
            else node? handles true false left p
          match found with
          | none => none
          | some (n, p) => (items? handles left p).map (fun (ns, p) => (n :: ns, p))
      | .blockEnd :: rest => some ([], { p with tokens := rest })
      | _ => none

/-- The items of a sequence on the level of the mapping around it. -/
def levelItems? (handles : List (List Char × TagText)) :
    (left : Nat) → Progress → Option (List Node × Progress)
  | 0, _ => none
  | left + 1, p => match p.tokens with
      | .item :: rest =>
          let p := { p with tokens := rest }
          let found := if isLeftOut rest || isOneOf [.item] rest then some (empty, p)
            else node? handles true false left p
          match found with
          | none => none
          | some (n, p) => (levelItems? handles left p).map (fun (ns, p) => (n :: ns, p))
      | _ => some ([], p)

/-- The members of a mapping in a block. -/
def members? (handles : List (List Char × TagText)) :
    (left : Nat) → Progress → Option (List (Node × Node) × Progress)
  | 0, _ => none
  | left + 1, p => match p.tokens with
      | .key :: rest =>
          let p := { p with tokens := rest }
          let key := if isLeftOut rest then some (empty, p) else node? handles true true left p
          match key with
          | none => none
          | some (k, p) =>
              let value := match p.tokens with
                | .value :: rest =>
                    let p := { p with tokens := rest }
                    if isLeftOut rest then some (empty, p) else node? handles true true left p
                | _ => some (empty, p)
              match value with
              | none => none
              | some (v, p) => (members? handles left p).map (fun (ms, p) => ((k, v) :: ms, p))
      | .blockEnd :: rest => some ([], { p with tokens := rest })
      | _ => none

/-- The entries of a sequence between brackets; all but the first follow a comma. An entry that begins
with the mark of a key is a mapping of one member. -/
def entries? (handles : List (List Char × TagText)) (first : Bool) :
    (left : Nat) → Progress → Option (List Node × Progress)
  | 0, _ => none
  | left + 1, p =>
      let after := match p.tokens with
        | .closeSequence :: _ => some p.tokens
        | .comma :: rest => if first then none else some rest
        | _ => if first then some p.tokens else none
      match after with
      | none => none
      | some (.closeSequence :: rest) => some ([], { p with tokens := rest })
      | some tokens =>
          let entry := match tokens with
            | .key :: rest => single? handles left { p with tokens := rest }
            | _ => node? handles false false left { p with tokens }
          match entry with
          | none => none
          | some (n, p) => (entries? handles false left p).map (fun (ns, p) => (n :: ns, p))

/-- A mapping of one member inside a sequence between brackets, behind the mark of its key. A mark that
stands in the place of the key counts as the key. -/
def single? (handles : List (List Char × TagText)) :
    (left : Nat) → Progress → Option (Node × Progress)
  | 0, _ => none
  | left + 1, p =>
      let ends : List Token := [.comma, .closeSequence]
      let key := if isOneOf (.value :: ends) p.tokens then
          some (empty, { p with tokens := p.tokens.drop 1 })
        else node? handles false false left p
      match key with
      | none => none
      | some (k, p) =>
          let value := match p.tokens with
            | .value :: rest =>
                let p := { p with tokens := rest }
                if isOneOf ends rest then some (empty, p) else node? handles false false left p
            | _ => some (empty, p)
          value.map (fun (v, p) => (.mapping {} [(k, v)], p))

/-- The members of a mapping between braces; all but the first follow a comma. -/
def pairs? (handles : List (List Char × TagText)) (first : Bool) :
    (left : Nat) → Progress → Option (List (Node × Node) × Progress)
  | 0, _ => none
  | left + 1, p =>
      let ends : List Token := [.comma, .closeMapping]
      let after := match p.tokens with
        | .closeMapping :: _ => some p.tokens
        | .comma :: rest => if first then none else some rest
        | _ => if first then some p.tokens else none
      match after with
      | none => none
      | some (.closeMapping :: rest) => some ([], { p with tokens := rest })
      | some (.key :: rest) =>
          let p := { p with tokens := rest }
          let key := if isOneOf (.value :: ends) rest then some (empty, p)
            else node? handles false false left p
          match key with
          | none => none
          | some (k, p) =>
              let value := match p.tokens with
                | .value :: rest =>
                    let p := { p with tokens := rest }
                    if isOneOf ends rest then some (empty, p) else node? handles false false left p
                | _ => some (empty, p)
              match value with
              | none => none
              | some (v, p) =>
                  (pairs? handles false left p).map (fun (ms, p) => ((k, v) :: ms, p))
      | some tokens => match node? handles false false left { p with tokens } with
          | none => none
          | some (k, p) =>
              (pairs? handles false left p).map (fun (ms, p) => ((k, empty) :: ms, p))

end

end Node

end DoorControl.Yaml
