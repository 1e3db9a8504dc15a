/- The tokens of a text. Indentation opens and closes blocks, and a colon makes a key of what stands
before it. -/
import DoorControl.Yaml.Block
import DoorControl.Yaml.Token

namespace DoorControl.Yaml

/-- Where a key may have begun: the number of tokens before it. A key that stands at the indentation of
its block has to end with a colon. -/
structure KeyStart where
  number : Nat
  place : Place
  required : Bool
  deriving Repr

/-- A text that has been read to some place. -/
structure Layout where
  rest : List Place
  /-- The column of the innermost block, less than zero outside all of them. -/
  indent : Int := -1
  /-- The columns of the blocks around it, the innermost first. -/
  outer : List Int := []
  keyAllowed : Bool := true
  /-- The key that may have begun inside the innermost brackets. -/
  start : Option KeyStart := none
  /-- The same outside of them, for each pair of brackets. -/
  starts : List (Option KeyStart) := []
  /-- The tokens so far, the last one first. -/
  tokens : List Token := []
  deriving Repr

namespace Layout

def bracketed (l : Layout) : Bool := !l.starts.isEmpty

def push (l : Layout) (t : Token) : Layout := { l with tokens := t :: l.tokens }

/-- Puts a token behind the first `number` ones. -/
def insert (l : Layout) (number : Nat) (t : Token) : Layout :=
  let (after, before) := l.tokens.splitAt (l.tokens.length - number)
  { l with tokens := after ++ t :: before }

def skip (l : Layout) (count : Nat) : Layout := { l with rest := l.rest.drop count }

/-- Closes the blocks that are indented more than `column`; the closed columns come from `outer`. -/
def closeTo (column : Int) (indent : Int) : List Int → (tokens : List Token) → Int × List Int × List Token
  | [], tokens => (indent, [], tokens)
  | o :: outer, tokens =>
      if column < indent then closeTo column o outer (.blockEnd :: tokens)
      else (indent, o :: outer, tokens)

def unindent (l : Layout) (column : Int) : Layout :=
  if l.bracketed then l
  else
    let (indent, outer, tokens) := closeTo column l.indent l.outer l.tokens
    { l with indent, outer, tokens }

/-- Opens a block with token `t` behind the first `number` tokens, if its column lies deeper than the
innermost block. -/
def indentTo (l : Layout) (column : Nat) (number : Nat) (t : Token) : Layout :=
  if l.bracketed || (column : Int) ≤ l.indent then l
  else { l.insert number t with indent := column, outer := l.indent :: l.outer }

/-- Gives up the key that may have begun; none may be given up that is required. -/
def dropStart? (l : Layout) : Option Layout :=
  match l.start with
  | some start => if start.required then none else some { l with start := none }
  | none => some l

/-- Notes that a key may begin at a place. -/
def noteStart? (l : Layout) (p : Place) : Option Layout :=
  if l.keyAllowed then
    let start : KeyStart :=
      ⟨l.tokens.length, p, !l.bracketed && l.indent = (p.column : Int)⟩
    l.dropStart?.map (fun l => { l with start := some start })
  else some l

/-- Whether a key that began at a place cannot reach to another one: it is longer than a line, or than
1024 characters. -/
def KeyStart.isStale (start : KeyStart) (p : Place) : Bool :=
  start.place.line < p.line || start.place.index + 1024 < p.index

/-- Forgets the starts of keys that do not reach to a place, if none of them is required. -/
def freshStarts? (l : Layout) (p : Place) : Option Layout :=
  let isStale := fun start : Option KeyStart => (start.map (KeyStart.isStale · p)).getD false
  let isFault := fun start : Option KeyStart => isStale start && (start.map (·.required)).getD false
  let fresh := fun start : Option KeyStart => if isStale start then none else start
  if isFault l.start || l.starts.any isFault then none
  else some { l with start := fresh l.start, starts := l.starts.map fresh }

/-- Goes to the next token; a new line outside brackets may begin a key. `left` bounds the steps. -/
def toToken : (left : Nat) → Layout → Layout
  | 0, l => l
  | left + 1, l =>
      let ps := match l.rest with
        | p :: rest => if p.column = 0 && isMark p.char then rest else p :: rest
        | [] => []
      let ps := ps.dropWhile (fun p => p.char = ' ' || (p.char = '\t' && (l.bracketed || !l.keyAllowed)))
      let ps := if Place.at? '#' ps then ps.dropWhile (!isBreak ·.char) else ps
      match ps with
      | [] => { l with rest := [] }
      | p :: rest =>
          if isBreak p.char then
            toToken left { l with rest, keyAllowed := l.keyAllowed || !l.bracketed }
          else { l with rest := ps }

/-- The directive or the mark at the beginning of a line, behind which no block goes on. -/
def boundary? (l : Layout) (t : Token) (rest : List Place) : Option Layout :=
  (l.unindent (-1)).dropStart?.map
    (fun l => { l with rest, keyAllowed := false, tokens := t :: l.tokens })

def openBracket? (l : Layout) (p : Place) (t : Token) : Option Layout :=
  (l.noteStart? p).map (fun l =>
    { l.skip 1 with
      start := none, starts := l.start :: l.starts, keyAllowed := true, tokens := t :: l.tokens })

def closeBracket? (l : Layout) (t : Token) : Option Layout :=
  l.dropStart?.map (fun l =>
    let l := match l.starts with
      | start :: starts => { l with start, starts }
      | [] => l
    { l.skip 1 with keyAllowed := false, tokens := t :: l.tokens })

def comma? (l : Layout) : Option Layout :=
  l.dropStart?.map (fun l => { (l.skip 1).push .comma with keyAllowed := true })

/-- A dash. Outside brackets it stands where a key may begin, and opens a sequence. -/
def item? (l : Layout) (p : Place) : Option Layout :=
  if !l.bracketed && !l.keyAllowed then none
  else (l.indentTo p.column l.tokens.length .blockSequence).dropStart?.map
    (fun l => { (l.skip 1).push .item with keyAllowed := true })

/-- A question mark, which begins a key of any kind. -/
def key? (l : Layout) (p : Place) : Option Layout :=
  if !l.bracketed && !l.keyAllowed then none
  else (l.indentTo p.column l.tokens.length .blockMapping).dropStart?.map
    (fun l => { (l.skip 1).push .key with keyAllowed := !l.bracketed })

/-- A colon. It makes a key of what has begun as one; otherwise its key was marked, or is left out. -/
def value? (l : Layout) (p : Place) : Option Layout :=
  match l.start with
  | some start =>
      let l := (l.insert start.number .key).indentTo start.place.column start.number .blockMapping
      some { (l.skip 1).push .value with start := none, keyAllowed := false }
  | none =>
      if !l.bracketed && !l.keyAllowed then none
      else
        let l := l.indentTo p.column l.tokens.length .blockMapping
        some { (l.skip 1).push .value with keyAllowed := !l.bracketed }

/-- A token that may be a key by itself, or belong to one. -/
def simple? (l : Layout) (p : Place) (found : Option (Token × List Place)) : Option Layout :=
  match l.noteStart? p, found with
  | some l, some (t, rest) => some { l.push t with rest, keyAllowed := false }
  | _, _ => none

def block? (l : Layout) (folds : Bool) (rest : List Place) : Option Layout :=
  match l.dropStart?, Yaml.block? folds l.indent rest with
  | some l, some (text, rest) => some { l.push (.scalar text false) with rest, keyAllowed := true }
  | _, _ => none

def plain? (l : Layout) (p : Place) : Option Layout :=
  match l.noteStart? p, Yaml.plain? l.bracketed (l.indent + 1) (l.rest.length + 1) l.rest with
  | some l, some (text, ended, rest) =>
      some { l.push (.scalar text true) with rest, keyAllowed := ended }
  | _, _ => none

/-- Whether a plain scalar may begin with a character. -/
def beginsPlain (bracketed : Bool) (c : Char) (rest : List Place) : Bool :=
  if c = '-' then !(rest.head?.map (isGap ·.char)).getD false
  else if c = '?' || c = ':' then !bracketed && !Place.isOpen rest
  else isSolid c && !(isBracket c || "#&*!|>\"%@".toList.contains c || c = quote || c.toNat = 96)

/-- The token that begins at a place. -/
def token? (l : Layout) (p : Place) (rest : List Place) : Option Layout :=
  let c := p.char
  if p.column = 0 && c = '%' then match Token.directive? rest with
    | some (t, rest) => l.boundary? t rest
    | none => none
  else if Place.isTriple '-' l.rest then l.boundary? .documentStart (l.rest.drop 3)
  else if Place.isTriple '.' l.rest then l.boundary? .documentEnd (l.rest.drop 3)
  else if c = '[' then l.openBracket? p .openSequence
  else if c = '\x7b' then l.openBracket? p .openMapping
  else if c = ']' then l.closeBracket? .closeSequence
  else if c = '\x7d' then l.closeBracket? .closeMapping
  else if c = ',' then l.comma?
  else if c = '-' && Place.isOpen rest then l.item? p
  else if c = '?' && (l.bracketed || Place.isOpen rest) then l.key? p
  else if c = ':' && (l.bracketed || Place.isOpen rest) then l.value? p
  else if c = '*' then l.simple? p ((Token.name? rest).map (fun (n, rest) => (.reference n, rest)))
  else if c = '&' then l.simple? p ((Token.name? rest).map (fun (n, rest) => (.anchor n, rest)))
  else if c = '!' then l.simple? p (Token.tag? l.bracketed l.rest)
  else if (c = '|' || c = '>') && !l.bracketed then l.block? (c = '>') rest
  else if c = quote || c = '"' then
    l.simple? p ((quoted? (c = quote) (rest.length + 1) rest).map
      (fun (text, rest) => (.scalar text false, rest)))
  else if beginsPlain l.bracketed c rest then l.plain? p
  else none

/-- The tokens from a place on, in order; `left` bounds their number. -/
def tokens? : (left : Nat) → Layout → Option (List Token)
  | 0, _ => none
  | left + 1, l =>
      let l := l.toToken (l.rest.length + 1)
      match l.rest with
      | [] => (l.unindent (-1)).dropStart?.map (·.tokens.reverse)
      | p :: rest => match l.freshStarts? p with
          | none => none
          | some l => match (l.unindent p.column).token? p rest with
              | none => none
              | some l => tokens? left l

end Layout

/-- The tokens of a text. -/
def tokens? (text : String) : Option (List Token) :=
  (places? text).bind (fun ps => Layout.tokens? (ps.length + 1) ⟨ps, -1, [], true, none, [], []⟩)

end DoorControl.Yaml
