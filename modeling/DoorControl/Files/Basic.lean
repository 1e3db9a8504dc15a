/- What paths lead to. -/
import DoorControl.Text.Utf8

namespace DoorControl.Files

/-- Why a path leads nowhere. -/
inductive Fault
  | missing
  /-- Something that is no directory stands on the way. -/
  | noDirectory
  | tooLong
  /-- The path holds the character that ends paths. -/
  | endMark
  | other (reason : String)
  deriving DecidableEq, Repr

/-- Why a file cannot be read. -/
def Fault.reason : Fault → String
  | .missing => "No such file or directory (os error 2)"
  | .noDirectory => "Not a directory (os error 20)"
  | .tooLong => "File name too long (os error 36)"
  | .endMark => "file name contained an unexpected NUL byte"
  | .other reason => reason

inductive Entry
  | file (bytes : List UInt8)
  | directory
  deriving DecidableEq, Repr

/-- The reason why a directory cannot be read like a file. -/
def isDirectory : String := "Is a directory (os error 21)"

/-- The reason why bytes are no text. -/
def notUtf8 : String := "stream did not contain valid UTF-8"

end Files

/-- What each path leads to. -/
abbrev Files := String → Except Files.Fault Files.Entry

namespace Files

/-- The text of a file, or the reason why there is none. -/
def text (files : Files) (path : String) : Except String String :=
  match files path with
  | .error fault => .error fault.reason
  | .ok .directory => .error isDirectory
  | .ok (.file bytes) => match Text.Utf8.decode? bytes with
      | some text => .ok text
      | none => .error notUtf8

end Files

end DoorControl
