/- Files in directories, and the ways that lead to them. -/
import DoorControl.Files.Basic
import DoorControl.Text.Split

namespace DoorControl.Files

/-- The names of directories on the way from the root, and of what stands at its end. -/
abbrev Way := List String

structure Disk where
  files : List (Way × List UInt8) := []
  /-- The directories that hold no files. -/
  directories : List Way := []
  /-- Where paths begin that do not begin at the root. -/
  home : Way := []
  deriving Repr

namespace Disk

/-- The longest name of a file, in bytes. -/
def maxName : Nat := 255

/-- The longest path, in bytes. -/
def maxPath : Nat := 4095

/-- What stands at the end of a way. Every way to something leads through directories. -/
def entry? (d : Disk) (way : Way) : Option Entry :=
  match d.files.lookup way with
  | some bytes => some (.file bytes)
  | none =>
      let ends := d.home :: d.directories ++ d.files.map (·.1)
      if ends.any (way.isPrefixOf ·) then some .directory else none

/-- Goes on from a place by the names of a path. An empty name and a point stay there, two points lead one
up. -/
def follow (d : Disk) (place : Way) : List String → Except Fault Entry
  | [] => match d.entry? place with
      | some e => .ok e
      | none => .error .missing
  | name :: rest => match d.entry? place with
      | none => .error .missing
      | some (.file _) => .error .noDirectory
      | some .directory =>
          if maxName < name.utf8ByteSize then .error .tooLong
          else if name.isEmpty || name = "." then d.follow place rest
          else if name = ".." then d.follow place.dropLast rest
          else d.follow (place ++ [name]) rest

/-- The names between the slashes of a path. -/
def names (path : String) : List String :=
  (Text.splitWhere (· = '/') path.toList).map String.ofList

/-- What a path leads to. -/
def find (d : Disk) : Files := fun path =>
  if path.toList.contains (Char.ofNat 0) then .error .endMark
  else if maxPath < path.utf8ByteSize then .error .tooLong
  else if path.isEmpty then .error .missing
  else d.follow (if path.toList.head? = some '/' then [] else d.home) (names path)

/-- A disk as it is everywhere, with files in one directory of its own. -/
def common (directory : String) (files : List (String × List UInt8)) : Disk where
  files := (["dev", "null"], []) :: files.map (fun (name, bytes) => (directory :: names name, bytes))
  directories := [[directory], ["bin"], ["etc"], ["home"], ["proc"], ["tmp"], ["usr"], ["var"]]

end Disk

end DoorControl.Files
