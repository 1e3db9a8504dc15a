/- Blank and control characters, and what trimming and splitting at them do. -/

namespace DoorControl.Text

/-- The characters with the Unicode property White_Space. -/
def isBlank (c : Char) : Bool :=
  let n := c.toNat
  (9 ≤ n && n ≤ 13) || n == 0x20 || n == 0x85 || n == 0xA0 || n == 0x1680 ||
    (0x2000 ≤ n && n ≤ 0x200A) || n == 0x2028 || n == 0x2029 || n == 0x202F || n == 0x205F ||
    n == 0x3000

/-- The characters of the general category Cc. -/
def isControl (c : Char) : Bool :=
  c.toNat < 32 || (127 ≤ c.toNat && c.toNat < 160)

def dropBlanks (s : List Char) : List Char := s.dropWhile isBlank

def dropBlanksRight (s : List Char) : List Char := (s.reverse.dropWhile isBlank).reverse

/-- The text without the blanks at both ends. -/
def trim (s : List Char) : List Char := dropBlanksRight (dropBlanks s)

def trimmed (s : String) : String := String.ofList (trim s.toList)

def trimmedRight (s : String) : String := String.ofList (dropBlanksRight s.toList)

/-- The rest of `s` after `lead`, if `s` begins with it. -/
def after? : (lead s : List Char) → Option (List Char)
  | [], s => some s
  | _ :: _, [] => none
  | l :: ls, c :: cs => if l = c then after? ls cs else none

/-- Whether `part` stands somewhere inside `s`. -/
def hasPart (part : List Char) : (s : List Char) → Bool
  | [] => part.isEmpty
  | c :: cs => (after? part (c :: cs)).isSome || hasPart part cs

/-- The words that end the text, where `word` has been read so far. -/
def wordsFrom (word : List Char) : List Char → List (List Char)
  | [] => if word.isEmpty then [] else [word]
  | c :: cs =>
      if isBlank c then
        if word.isEmpty then wordsFrom [] cs else word :: wordsFrom [] cs
      else wordsFrom (word ++ [c]) cs

/-- The longest runs without blanks, in order. -/
def words (s : String) : List String := (wordsFrom [] s.toList).map String.ofList

/-- The lines of a text; a final line end starts no further line. -/
def linesFrom (line : List Char) : List Char → List (List Char)
  | [] => if line.isEmpty then [] else [line]
  | c :: cs => if c = '\n' then line :: linesFrom [] cs else linesFrom (line ++ [c]) cs

end DoorControl.Text
