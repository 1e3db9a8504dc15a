/- The words that a YAML text consists of, apart from scalars: marks, names, tags and directives. -/
import DoorControl.Text.Numeral
import DoorControl.Yaml.Quoted

namespace DoorControl.Yaml

/-- A tag as octets, since escapes may stand for any of them. -/
abbrev TagText := List UInt8

inductive Token
  | version (major minor : Nat)
  /-- What a handle stands for in the tags of a document. -/
  | handle (name : List Char) (lead : TagText)
  | documentStart
  | documentEnd
  | blockSequence
  | blockMapping
  | blockEnd
  | openSequence
  | closeSequence
  | openMapping
  | closeMapping
  | comma
  | item
  | key
  | value
  | reference (name : List Char)
  | anchor (name : List Char)
  | tag (handle : List Char) (suffix : TagText)
  | scalar (text : List Char) (plain : Bool)
  deriving DecidableEq, Repr

namespace Token

/-- The characters of names. -/
def isNameChar (c : Char) : Bool := c.isAlphanum || c = '_' || c = '-'

/-- What may stand right behind the name of a node. -/
def endsName (ps : List Place) : Bool :=
  match ps with
  | [] => true
  | p :: _ => !isSolid p.char || "?:,]\x7d%@".toList.contains p.char || p.char.toNat = 96

/-- The name of a node. -/
def name? (ps : List Place) : Option (List Char × List Place) :=
  let (name, rest) := Place.splitWhile isNameChar ps
  if name.isEmpty || !endsName rest then none else some (Place.chars name, rest)

/-- How many octets a character takes whose first one is given. -/
def octetWidth? (n : Nat) : Option Nat :=
  if n < 128 then some 1
  else if 192 ≤ n && n < 224 then some 2
  else if 224 ≤ n && n < 240 then some 3
  else if 240 ≤ n && n < 248 then some 4
  else none

/-- One escaped octet. -/
def octet? : List Place → Option (Nat × List Place)
  | p :: q :: r :: rest =>
      if p.char = '%' then
        (Text.Numeral.digits? 16 [q.char, r.char]).map (fun n => (n, rest))
      else none
  | _ => none

/-- The given number of octets that go on with a character. -/
def octetTail? : (count : Nat) → List Place → Option (TagText × List Place)
  | 0, ps => some ([], ps)
  | count + 1, ps => match octet? ps with
      | none => none
      | some (n, rest) =>
          if 128 ≤ n && n < 192 then
            (octetTail? count rest).map (fun (os, rest) => (n.toUInt8 :: os, rest))
          else none

/-- An escaped character. -/
def octets? (ps : List Place) : Option (TagText × List Place) :=
  match octet? ps with
  | none => none
  | some (n, rest) => match octetWidth? n with
      | none => none
      | some width =>
          (octetTail? (width - 1) rest).map (fun (os, rest) => (n.toUInt8 :: os, rest))

/-- The characters of a tag; those of lists only if the tag stands between marks of its own. -/
def isTagChar (free : Bool) (c : Char) : Bool :=
  isNameChar c || ";/?:@&=+$.%!~*()".toList.contains c || c = quote ||
    (free && (c = ',' || c = '[' || c = ']'))

/-- A tag, or the end of one; `left` bounds its length. -/
def tagText? (free : Bool) : (left : Nat) → List Place → Option (TagText × List Place)
  | 0, _ => none
  | _ + 1, [] => some ([], [])
  | left + 1, p :: ps =>
      let next : Option (TagText × List Place) :=
        if p.char = '%' then octets? (p :: ps) else some ([p.char.toNat.toUInt8], ps)
      if isTagChar free p.char then match next with
        | none => none
        | some (os, rest) => (tagText? free left rest).map (fun (more, rest) => (os ++ more, rest))
      else some ([], p :: ps)

/-- A tag of one octet or more. -/
def someTagText? (free : Bool) (ps : List Place) : Option (TagText × List Place) :=
  (tagText? free (ps.length + 1) ps).filter (fun (os, _) => !os.isEmpty)

/-- A handle: an exclamation mark, or a name between two of them. Without the second one the name is
given too. -/
def tagHandle? (ps : List Place) : Option (List Char × List Place) :=
  match ps with
  | [] => none
  | p :: rest =>
      if p.char = '!' then
        let (name, rest) := Place.splitWhile isNameChar rest
        let text := '!' :: Place.chars name
        if Place.at? '!' rest then some (text ++ ['!'], rest.drop 1) else some (text, rest)
      else none

def isHandle (text : List Char) : Bool := 1 < text.length && text.getLast? = some '!'

/-- What may stand right behind a tag. -/
def endsTag (bracketed : Bool) (ps : List Place) : Bool :=
  Place.isOpen ps || (bracketed && Place.at? ',' ps)

/-- A tag with its exclamation mark. The lone mark is a tag without a handle, and so is what stands between
angle brackets. -/
def tag? (bracketed : Bool) (ps : List Place) : Option (Token × List Place) :=
  let found : Option (Token × List Place) :=
    if Place.at? '<' (ps.drop 1) then match someTagText? true (ps.drop 2) with
      | some (text, rest) => if Place.at? '>' rest then some (.tag [] text, rest.drop 1) else none
      | none => none
    else match tagHandle? ps with
      | none => none
      | some (text, rest) =>
          if isHandle text then
            (someTagText? false rest).map (fun (suffix, rest) => (.tag text suffix, rest))
          else match tagText? false (rest.length + 1) rest with
            | none => none
            | some (more, rest) =>
                let suffix := (text.drop 1).map (fun c => c.toNat.toUInt8) ++ more
                if suffix.isEmpty then some (.tag [] [33], rest) else some (.tag ['!'] suffix, rest)
  found.filter (fun (_, rest) => endsTag bracketed rest)

/-- A part of a version: one digit to nine. -/
def versionPart? (ps : List Place) : Option (Nat × List Place) :=
  let (digits, rest) := Place.splitWhile (fun c => '0' ≤ c && c ≤ '9') ps
  if 9 < digits.length then none
  else (Text.Numeral.digits? 10 (Place.chars digits)).map (fun n => (n, rest))

def version? (ps : List Place) : Option (Token × List Place) :=
  match versionPart? ps with
  | none => none
  | some (major, rest) =>
      if Place.at? '.' rest then
        (versionPart? (rest.drop 1)).map (fun (minor, rest) => (.version major minor, rest))
      else none

/-- The definition of a handle: the handle, a gap, and what it stands for. -/
def handle? (ps : List Place) : Option (Token × List Place) :=
  match tagHandle? ps with
  | none => none
  | some (name, rest) =>
      let (gap, rest) := Place.splitWhile isGap rest
      if gap.isEmpty || !(name = ['!'] || name.getLast? = some '!') then none
      else match someTagText? true rest with
        | some (lead, rest) => if Place.isOpen rest then some (.handle name lead, rest) else none
        | none => none

/-- A directive behind its percent sign, up to the next line. -/
def directive? (ps : List Place) : Option (Token × List Place) :=
  let (name, rest) := Place.splitWhile isNameChar ps
  let found : Option (Token × List Place) :=
    let rest' := rest.dropWhile (isGap ·.char)
    if !Place.isOpen rest then none
    else if Place.chars name = "YAML".toList then version? rest'
    else if Place.chars name = "TAG".toList then handle? rest'
    else none
  match found with
  | none => none
  | some (token, rest) => (Place.afterComment? rest).map (fun rest => (token, rest.drop 1))

end Token

end DoorControl.Yaml
