/- Settings in environment variables. A variable's name is a path of keys. -/
import DoorControl.Config.Literal

namespace DoorControl.Config.Environment

/-- What the names of the variables begin with. -/
def mark : List Char := "DOORKEEPER_".toList

/-- The parts of a name between points and pairs of underscores, where `part` has been read so far. -/
def splitPath (part : List Char) : List Char → List (List Char)
  | [] => [part]
  | '_' :: '_' :: rest => part :: splitPath [] rest
  | '.' :: rest => part :: splitPath [] rest
  | c :: rest => splitPath (part ++ [c]) rest

/-- The path that a name stands for, if it is the name of a setting. No part of it may be empty, and the
blanks at both of its ends are no part of it. -/
def path? (name : String) : Option (List String) :=
  let cs := (Text.trim name.toList).map Char.toLower
  match Text.after? (mark.map Char.toLower) cs with
  | none => none
  | some rest =>
      let keys := splitPath [] (Text.trim rest)
      if keys.any List.isEmpty then none else some (keys.map String.ofList)

/-- The blanks between the parts of a value. -/
def isSpace (c : Char) : Bool := c = ' ' || c = '\t' || c = '\n' || c = '\r' || c.toNat = 12

def isSeparator (c : Char) : Bool :=
  c = ',' || c = '\x7b' || c = '\x7d' || c = '[' || c = ']'

def isKeyChar (c : Char) : Bool := c.isAlphanum || c = '_' || c = '-'

/-- The characters that escapes of one letter stand for. -/
def escapes : List (Char × Char) :=
  [('n', '\n'), ('t', '\t'), ('r', '\r'), ('b', Char.ofNat 8), ('f', Char.ofNat 12), ('"', '"'),
    ('\\', '\\')]

/-- Whether a character may stand in a text in double quotes without an escape: it is a tab or no control
of seven bits. -/
def isQuotable (c : Char) : Bool := c = '\t' || (32 ≤ c.toNat && c.toNat ≠ 127)

/-- The character whose code has the given number of hexadecimal digits, and what follows. -/
def coded? (width : Nat) (cs : List Char) : Option (Char × List Char) :=
  let digits := cs.take width
  if digits.length < width then none
  else match Text.Numeral.digits? 16 digits with
    | some n => if n.isValidChar then some (Char.ofNat n, cs.drop width) else none
    | none => none

/-- What stands between double quotes and after them; `left` bounds its length. -/
def quoted? : (left : Nat) → List Char → Option (List Char × List Char)
  | 0, _ => none
  | _ + 1, [] => none
  | _ + 1, '"' :: rest => some ([], rest)
  | left + 1, '\\' :: e :: rest =>
      let found : Option (Char × List Char) :=
        if e = 'u' then coded? 4 rest
        else if e = 'U' then coded? 8 rest
        else (escapes.lookup e).map (fun c => (c, rest))
      match found with
      | some (c, rest) => (quoted? left rest).map (fun (cs, rest) => (c :: cs, rest))
      | none => none
  | left + 1, c :: rest =>
      if isQuotable c then (quoted? left rest).map (fun (cs, rest) => (c :: cs, rest)) else none

/-- The key of a member of a dictionary. -/
def key? (cs : List Char) : Option (String × List Char) :=
  match cs with
  | '"' :: rest => (quoted? (rest.length + 1) rest).map (fun (k, rest) => (String.ofList k, rest))
  | _ =>
      let k := cs.takeWhile isKeyChar
      if k.isEmpty then none else some (String.ofList k, cs.dropWhile isKeyChar)

/-- A word and what follows it. -/
def word (cs : List Char) : Tree × List Char :=
  let w := cs.takeWhile (!isSeparator ·)
  (Literal.ofWord (Text.trimmed (String.ofList w)), cs.dropWhile (!isSeparator ·))

mutual

/-- A value with the blanks around it; `left` bounds the steps. -/
def value? : (left : Nat) → List Char → Option (Tree × List Char)
  | 0, _ => none
  | left + 1, cs =>
      let found : Option (Tree × List Char) := match cs.dropWhile isSpace with
        | 't' :: 'r' :: 'u' :: 'e' :: rest => some (.bool true, rest)
        | 'f' :: 'a' :: 'l' :: 's' :: 'e' :: rest => some (.bool false, rest)
        | '\x7b' :: rest => (members? left rest).map (fun (ms, rest) => (.dict ms, rest))
        | '[' :: rest => (elements? left rest).map (fun (xs, rest) => (.list xs, rest))
        | '"' :: rest => (quoted? (rest.length + 1) rest).map
            (fun (s, rest) => (.text (String.ofList s), rest))
        | c :: rest =>
            if c.toNat = 39 then match rest with
              | d :: e :: rest =>
                  if e.toNat = 39 then some (.text (String.singleton d), rest) else none
              | _ => none
            else some (word (c :: rest))
        | [] => some (word [])
      found.map (fun (t, rest) => (t, rest.dropWhile isSpace))

/-- The elements of a list up to its closing bracket. Blanks alone are an element too. -/
def elements? : (left : Nat) → List Char → Option (List Tree × List Char)
  | 0, _ => none
  | _ + 1, ']' :: rest => some ([], rest)
  | left + 1, cs => match value? left cs with
      | none => none
      | some (t, ']' :: rest) => some ([t], rest)
      | some (t, ',' :: rest) => (elements? left rest).map (fun (ts, rest) => (t :: ts, rest))
      | some _ => none

/-- The members of a dictionary up to its closing brace. -/
def members? : (left : Nat) → List Char → Option (List (String × Tree) × List Char)
  | 0, _ => none
  | _ + 1, '\x7d' :: rest => some ([], rest)
  | left + 1, cs => match key? (cs.dropWhile isSpace) with
      | none => none
      | some (k, rest) => match rest.dropWhile isSpace with
          | '=' :: rest => match value? left rest with
              | none => none
              | some (t, '\x7d' :: rest) => some ([(k, t)], rest)
              | some (t, ',' :: rest) =>
                  (members? left rest).map (fun (ts, rest) => ((k, t) :: ts, rest))
              | some _ => none
          | _ => none

end

/-- The value of a variable. What is not spelled as a value is a text as it stands. -/
def read (s : String) : Tree :=
  match value? (s.length + 1) s.toList with
  | some (t, []) => t
  | _ => .text s

/-- The settings in variables. -/
def settings (environment : List (String × String)) : Tree :=
  environment.foldl (fun t (name, s) => match path? name with
    | some path => t.merge ((read s).nested path)
    | none => t) (.dict [])

/-- Lays the settings in variables over a tree of settings; another tree stays what it is. -/
def overlay (environment : List (String × String)) (t : Tree) : Tree :=
  match t with
  | .dict _ => t.merge (settings environment)
  | _ => t

end DoorControl.Config.Environment
