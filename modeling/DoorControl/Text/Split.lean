/- Texts as parts between separators. -/

namespace DoorControl.Text

/-- The parts of a text between the characters that pass a test. There is always one. -/
def splitWhere (test : Char → Bool) : List Char → List (List Char)
  | [] => [[]]
  | c :: cs =>
      if test c then [] :: splitWhere test cs
      else match splitWhere test cs with
        | [] => [[c]]
        | part :: parts => (c :: part) :: parts

/-- The parts with a separator between them. -/
def joinWith (separator : Char) : List (List Char) → List Char
  | [] => []
  | [part] => part
  | part :: parts => part ++ separator :: joinWith separator parts

end DoorControl.Text
