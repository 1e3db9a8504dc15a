/- Scalars between quotes. -/
import DoorControl.Text.Numeral
import DoorControl.Yaml.Plain

namespace DoorControl.Yaml

/-- The codes that escapes of one letter stand for. -/
def escapes : List (Char × Nat) :=
  [('0', 0), ('a', 7), ('b', 8), ('t', 9), ('\t', 9), ('n', 10), ('v', 11), ('f', 12), ('r', 13),
    ('e', 27), (' ', 32), ('"', 34), ('/', 47), ('\\', 92), ('N', 0x85), ('_', 0xA0), ('L', 0x2028),
    ('P', 0x2029)]

/-- How many digits follow the letter of a hexadecimal escape. -/
def escapeWidths : List (Char × Nat) := [('x', 2), ('u', 4), ('U', 8)]

/-- The character with a code in hexadecimal digits. -/
def coded? (digits : List Char) : Option Char :=
  (Text.Numeral.digits? 16 digits).bind (fun n => if n.isValidChar then some (Char.ofNat n) else none)

/-- An escape behind its backslash, and what follows it. The end of a line is hidden together with the
gaps that begin the next one. -/
def escape? : List Place → Option (List Char × List Place)
  | [] => none
  | p :: ps =>
      if isBreak p.char then
        let (run, rest) := Place.splitWhile (!isSolid ·) ps
        some ((Place.chars run).filter isBreak, rest)
      else match escapeWidths.lookup p.char with
        | some width =>
            let digits := Place.chars (ps.take width)
            if digits.length < width then none
            else (coded? digits).map (fun c => ([c], ps.drop width))
        | none => (escapes.lookup p.char).map (fun n => ([Char.ofNat n], ps))

def quote : Char := Char.ofNat 39

/-- What stands between quotes, and what follows the closing one. A quote between single quotes is
written twice; between double quotes a backslash begins an escape. No document may begin or end inside.
`left` bounds the steps. -/
def quoted? (single : Bool) : (left : Nat) → List Place → Option (List Char × List Place)
  | 0, _ => none
  | _ + 1, [] => none
  | left + 1, p :: ps =>
      let go := fun (cs : List Char) (rest : List Place) =>
        (quoted? single left rest).map (fun (more, rest) => (cs ++ more, rest))
      if Place.isBoundary (p :: ps) then none
      else if single && p.char = quote && Place.at? quote ps then go [quote] (ps.drop 1)
      else if p.char = (if single then quote else '"') then some ([], ps)
      else if !single && p.char = '\\' then match escape? ps with
        | none => none
        | some (cs, rest) => go cs rest
      else if isSolid p.char then go [p.char] ps
      else
        let (run, rest) := Place.splitWhile (!isSolid ·) (p :: ps)
        go (runText run) rest

end DoorControl.Yaml
