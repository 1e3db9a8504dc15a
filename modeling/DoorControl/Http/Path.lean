/- The paths of web addresses: segments, of which some lead to the same place or to the one above. -/
import DoorControl.Http.Escape
import DoorControl.Text.Split

namespace DoorControl.Http.Path

/-- Reads the escapes of points. -/
def plainDots : List Char → List Char
  | [] => []
  | '%' :: '2' :: c :: rest =>
      if c = 'e' || c = 'E' then '.' :: plainDots rest else '%' :: '2' :: c :: plainDots rest
  | c :: rest => c :: plainDots rest

/-- Whether a segment stands for the place itself. -/
def isHere (segment : List Char) : Bool := plainDots segment = ['.']

/-- Whether a segment stands for the place above. -/
def isAbove (segment : List Char) : Bool := plainDots segment = ['.', '.']

/-- Whether a segment names a drive: a letter, and a colon or a bar. -/
def isDrive (segment : List Char) : Bool :=
  match segment with
  | c :: d :: rest =>
      c.isAlpha && (d = ':' || d = '|') && (rest.isEmpty || rest.head? = some '\\')
  | _ => false

/-- One place up. There is none above the root or a drive. -/
def up (done : List (List Char)) : List (List Char) :=
  match done with
  | top :: rest => if isDrive top then done else rest
  | [] => []

/-- The segments of a path without the ones that lead elsewhere, where `done` are those before them, the
last one first. -/
def resolve (done : List (List Char)) : List (List Char) → List (List Char)
  | [] => done.reverse
  | [s] =>
      if isAbove s then ([] :: up done).reverse
      else if isHere s then ([] :: done).reverse
      else (s :: done).reverse
  | s :: rest =>
      if isAbove s then resolve (up done) rest
      else if isHere s then resolve done rest
      else resolve (s :: done) rest

/-- The path with the given segments, each behind a slash. -/
def render (segments : List (List Char)) : List Char := segments.flatMap (fun s => '/' :: s)

/-- The usual form of a path without the slash that it begins with. -/
def normal (isSeparator : Char → Bool) (cs : List Char) : List Char :=
  render (resolve [] ((Text.splitWhere isSeparator cs).map Part.path.escape))

end DoorControl.Http.Path
