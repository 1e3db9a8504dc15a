/- Actions that the gateway asks for. -/
import DoorControl.Text.Blank

namespace DoorControl.Gateway

inductive Action
  | lock
  | unlock
  /-- An action that the door does not know. -/
  | unknown (text : String)
  deriving DecidableEq, Repr

namespace Action

/-- Reads an action; blanks alone ask for nothing. -/
def parse? (text : String) : Option Action :=
  let word := Text.trimmed text
  if word.isEmpty then none
  else if word = "lock" then some .lock
  else if word = "unlock" then some .unlock
  else some (.unknown word)

def render : Action → String
  | .lock => "lock"
  | .unlock => "unlock"
  | .unknown text => text

end Action

end DoorControl.Gateway
