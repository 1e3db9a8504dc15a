/- The four buttons of the panel. -/

namespace DoorControl

/-- The buttons held down in one sample. -/
structure Keys where
  red : Bool := false
  white : Bool := false
  green : Bool := false
  leave : Bool := false
  deriving DecidableEq, Repr, Inhabited

namespace Keys

def any (k : Keys) : Bool := k.red || k.white || k.green || k.leave

/-- The buttons down in `now` and not in `before`. -/
def pressed (now before : Keys) : Keys where
  red := now.red && !before.red
  white := now.white && !before.white
  green := now.green && !before.green
  leave := now.leave && !before.leave

def bit (b : Bool) : String := if b then "1" else "0"

def render (k : Keys) : String :=
  "R" ++ bit k.red ++ "W" ++ bit k.white ++ "G" ++ bit k.green ++ "L" ++ bit k.leave

end Keys

end DoorControl
