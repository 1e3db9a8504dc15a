/- Folding of lines, and the scalars that stand without quotes. -/
import DoorControl.Yaml.Place

namespace DoorControl.Yaml

/-- What the ends of lines between two words mean: one line feed is a blank, and of several ends that
begin with one the first is dropped. -/
def folded : List Char → List Char
  | '\n' :: breaks => if breaks.isEmpty then [' '] else breaks
  | breaks => breaks

/-- What a run of gaps and line ends inside a scalar means. -/
def runText (run : List Place) : List Char :=
  let cs := Place.chars run
  if cs.any isBreak then folded (cs.filter isBreak) else cs

def hasBreak (run : List Place) : Bool := run.any (isBreak ·.char)

/-- The characters that end a plain scalar inside brackets. -/
def isBracket (c : Char) : Bool :=
  c = ',' || c = '[' || c = ']' || c = '\x7b' || c = '\x7d'

/-- A word of a plain scalar and what follows it. Inside brackets no colon may stand before one of their
marks. -/
def plainWord? (bracketed : Bool) : List Place → Option (List Char × List Place)
  | [] => some ([], [])
  | p :: ps =>
      let next := (ps.head?.map Place.char).getD ' '
      if !isSolid p.char then some ([], p :: ps)
      else if bracketed && p.char = ':' && (isBracket next || next = '?') then none
      else if (p.char = ':' && Place.isOpen ps) || (bracketed && isBracket p.char) then
        some ([], p :: ps)
      else (plainWord? bracketed ps).map (fun (cs, rest) => (p.char :: cs, rest))

/-- Whether a tab stands where a line is indented. -/
def hasStrayTab (indent : Int) (run : List Place) : Bool :=
  (run.dropWhile (!isBreak ·.char)).any (fun p => p.char = '\t' && p.column < indent)

/-- Whether a scalar ends before a line, outside brackets: the line is indented less than `indent`. -/
def isOutside (bracketed : Bool) (indent : Int) : List Place → Bool
  | [] => true
  | p :: _ => !bracketed && p.column < indent

/-- A plain scalar: its text, whether it ends with a line, and what follows; `left` bounds the words. -/
def plain? (bracketed : Bool) (indent : Int) :
    (left : Nat) → List Place → Option (List Char × Bool × List Place)
  | 0, _ => none
  | left + 1, ps =>
      if Place.isBoundary ps || Place.at? '#' ps then some ([], false, ps)
      else match plainWord? bracketed ps with
        | none => none
        | some (word, rest) =>
            let (run, after) := Place.splitWhile (!isSolid ·) rest
            if word.isEmpty || run.isEmpty then some (word, false, rest)
            else if hasStrayTab indent run then none
            else if isOutside bracketed indent after then some (word, hasBreak run, after)
            else match plain? bracketed indent left after with
              | none => none
              | some ([], _, _) => some (word, hasBreak run, after)
              | some (more, ended, rest) => some (word ++ runText run ++ more, ended, rest)

end DoorControl.Yaml
