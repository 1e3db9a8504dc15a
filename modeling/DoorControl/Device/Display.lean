/- The status display: a status line that stays, and messages that pass. -/

namespace DoorControl

inductive Color
  | white
  | green
  | orange
  | red
  | blue
  deriving DecidableEq, Repr, Inhabited

namespace Color

def name : Color → String
  | .white => "white"
  | .green => "green"
  | .orange => "orange"
  | .red => "red"
  | .blue => "blue"

def all : List Color := [.white, .green, .orange, .red, .blue]

end Color

/-- A display that reports what it is told to show; a status line is reported when it changes. -/
structure LogDisplay where
  status : String := ""
  deriving DecidableEq, Repr, Inhabited

namespace LogDisplay

def setStatus (text : String) (d : LogDisplay) : List String × LogDisplay :=
  if d.status = text then ([], d) else (["display: " ++ text], { d with status := text })

def showMessage (text : String) (d : LogDisplay) : List String × LogDisplay :=
  (["display message: " ++ text], d)

end LogDisplay

end DoorControl
