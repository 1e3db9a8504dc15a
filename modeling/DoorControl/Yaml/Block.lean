/- Scalars that keep their lines, or fold them, as blocks of their own. -/
import DoorControl.Yaml.Plain

namespace DoorControl.Yaml

/-- What happens to the ends of lines behind a block. -/
inductive Chomping
  | strip
  | clip
  | keep
  deriving DecidableEq, Repr

def chomping? (c : Char) : Option Chomping :=
  if c = '-' then some .strip else if c = '+' then some .keep else none

/-- The digit of an indentation; zero is none. -/
def isStep (c : Char) : Bool := '1' ≤ c && c ≤ '9'

/-- What the marks behind the letter of a block say, in either order: chomping and indentation. -/
def blockHeader (ps : List Place) : Chomping × Nat × List Place :=
  match ps with
  | [] => (.clip, 0, [])
  | p :: rest => match chomping? p.char with
      | some chomping => match rest with
          | q :: after =>
              if isStep q.char then (chomping, q.char.toNat - 48, after) else (chomping, 0, rest)
          | [] => (chomping, 0, [])
      | none =>
          if isStep p.char then match rest with
            | q :: after => match chomping? q.char with
                | some chomping => (chomping, p.char.toNat - 48, after)
                | none => (.clip, p.char.toNat - 48, rest)
            | [] => (.clip, p.char.toNat - 48, [])
          else (.clip, 0, ps)

/-- The line ends and the indentation before a line of a block, the deepest column among them, and the
line. An indentation of zero is not known yet: then all blanks belong to it. No tab may stand in it. -/
def blockGap? (indent : Nat) :
    (left deepest : Nat) → List Place → Option (List Char × Nat × List Place)
  | 0, _, _ => none
  | left + 1, deepest, ps =>
      let inside := fun p : Place => indent = 0 || p.column < indent
      match ps.dropWhile (fun p => p.char = ' ' && inside p) with
      | [] => some ([], deepest, [])
      | p :: rest =>
          let deepest := max deepest p.column
          if p.char = '\t' && inside p then none
          else if isBreak p.char then
            (blockGap? indent left deepest rest).map (fun (cs, d, rest) => (p.char :: cs, d, rest))
          else some ([], deepest, p :: rest)

/-- The end of the line that a text begins with. -/
def lineEnd (ps : List Place) : List Char × List Place :=
  match ps with
  | p :: rest => if isBreak p.char then ([p.char], rest) else ([], ps)
  | [] => ([], [])

/-- What stands between two lines of a block: `ended` ends the upper one and `breaks` are the empty
lines. A folded block joins them unless one of them begins with a gap. -/
def blockJoint (folds spaced : Bool) (ended breaks : List Char) : List Char :=
  if folds && !spaced && ended = ['\n'] then if breaks.isEmpty then [' '] else breaks
  else ended ++ breaks

/-- The lines of a block, given what stands before the first of them: the end of the line above it,
empty lines, and whether the line above begins with a gap. -/
def blockLines? (folds : Bool) (chomping : Chomping) (indent : Nat) :
    (left : Nat) → (ended breaks : List Char) → (gapAbove : Bool) → List Place →
      Option (List Char × List Place)
  | 0, _, _, _, _ => none
  | left + 1, ended, breaks, gapAbove, ps =>
      let isLine := match ps with
        | p :: _ => p.column == indent
        | [] => false
      if isLine then
        let gapHere := ((ps.head?.map Place.char).map isGap).getD false
        let (line, rest) := Place.splitWhile (!isBreak ·) ps
        let (next, rest) := lineEnd rest
        match blockGap? indent (rest.length + 1) 0 rest with
        | none => none
        | some (empty, _, rest) =>
            (blockLines? folds chomping indent left next empty gapHere rest).map
              (fun (more, rest) =>
                (blockJoint folds (gapAbove || gapHere) ended breaks ++ Place.chars line ++ more, rest))
      else
        let tail := match chomping with
          | .strip => []
          | .clip => ended
          | .keep => ended ++ breaks
        some (tail, ps)

/-- A block behind its letter, in a place that is indented by `outer`, and what follows it. -/
def block? (folds : Bool) (outer : Int) (ps : List Place) : Option (List Char × List Place) :=
  let (chomping, step, ps) := blockHeader ps
  match Place.afterComment? ps with
  | none => none
  | some ps =>
      let (_, ps) := lineEnd ps
      let fixed := if step = 0 then 0 else (max outer 0).toNat + step
      match blockGap? fixed (ps.length + 1) 0 ps with
      | none => none
      | some (breaks, deepest, rest) =>
          let indent := if step = 0 then max deepest (max (outer + 1) 1).toNat else fixed
          blockLines? folds chomping indent (rest.length + 1) [] breaks false rest

end DoorControl.Yaml
