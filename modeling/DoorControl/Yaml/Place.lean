/- The characters of a YAML text and where they stand. -/

namespace DoorControl.Yaml

/-- A character, how many stand before it, and its line and column. -/
structure Place where
  char : Char
  index : Nat
  line : Nat
  column : Nat
  deriving Repr

def isGap (c : Char) : Bool := c = ' ' || c = '\t'

/-- The ends of lines: the line feed, and the separators of lines and paragraphs. -/
def isBreak (c : Char) : Bool := c = '\n' || c.toNat = 0x2028 || c.toNat = 0x2029

/-- What is neither a gap nor the end of a line. -/
def isSolid (c : Char) : Bool := !isGap c && !isBreak c

/-- The text with a line feed at the end of its lines, where a carriage return, both, or the control for
a next line may stand. -/
def withLineFeeds : List Char → List Char
  | [] => []
  | '\r' :: '\n' :: rest => '\n' :: withLineFeeds rest
  | c :: rest => (if c = '\r' || c.toNat = 0x85 then '\n' else c) :: withLineFeeds rest

def placesFrom (index line column : Nat) : List Char → List Place
  | [] => []
  | c :: cs => ⟨c, index, line, column⟩ ::
      if isBreak c then placesFrom (index + 1) (line + 1) 0 cs
      else placesFrom (index + 1) line (column + 1) cs

/-- The characters that a text consists of: no controls but tabs and line ends, and no code that stands
for no character. -/
def isReadable (c : Char) : Bool :=
  let n := c.toNat
  (32 ≤ n && n ≤ 126) || n = 9 || n = 10 || n = 13 || n = 0x85 ||
    (0xA0 ≤ n && n ≠ 0xFFFE && n ≠ 0xFFFF)

/-- The mark that may stand before a text and at the beginning of its lines. -/
def isMark (c : Char) : Bool := c.toNat = 0xFEFF

/-- The places of a text, without the mark before it, if all its characters are readable. -/
def places? (text : String) : Option (List Place) :=
  let cs := match text.toList with
    | c :: rest => if isMark c then rest else c :: rest
    | [] => []
  if cs.all isReadable then some (placesFrom 0 0 0 (withLineFeeds cs)) else none

namespace Place

def chars (ps : List Place) : List Char := ps.map char

/-- Whether the first character is `c`. -/
def at? (c : Char) : List Place → Bool
  | [] => false
  | p :: _ => p.char = c

/-- Whether a text ends, or goes on with a gap or the end of a line. -/
def isOpen : List Place → Bool
  | [] => true
  | p :: _ => !isSolid p.char

/-- Whether three characters `c` begin a line and nothing else clings to them. -/
def isTriple (c : Char) : List Place → Bool
  | p :: q :: r :: rest => p.column = 0 && p.char = c && q.char = c && r.char = c && isOpen rest
  | _ => false

/-- Whether a document begins or ends here. -/
def isBoundary (ps : List Place) : Bool := isTriple '-' ps || isTriple '.' ps

/-- The places up to the first one that fails a test, and the others. -/
def splitWhile (test : Char → Bool) (ps : List Place) : List Place × List Place :=
  (ps.takeWhile (test ·.char), ps.dropWhile (test ·.char))

/-- What follows the rest of a line that holds nothing but gaps and a comment; its end is left. -/
def afterComment? (ps : List Place) : Option (List Place) :=
  let ps := ps.dropWhile (isGap ·.char)
  let ps := if at? '#' ps then ps.dropWhile (!isBreak ·.char) else ps
  match ps with
  | [] => some []
  | p :: _ => if isBreak p.char then some ps else none

end Place

end DoorControl.Yaml
