/- What can be wrong with a card text, a state word, a reply or a configuration key. -/

namespace DoorControl

inductive ProtocolError
  | invalidCardFormat (message : String)
  | reservedCardId
  | invalidLockState (word : String)
  | malformedReply (command reply : String)
  | notCalibrated
  | unknownPattern (name : String)
  | config (message : String)
  | missingConfig (key : String)
  deriving DecidableEq, Repr

def ProtocolError.message : ProtocolError → String
  | .invalidCardFormat m => s!"Invalid card format: {m}"
  | .reservedCardId => "Card ID 0 is reserved"
  | .invalidLockState w => s!"Invalid lock state: {w}"
  | .malformedReply c r => s!"Malformed reply to '{c}': {r}"
  | .notCalibrated => "Lock is not calibrated"
  | .unknownPattern n => s!"Unknown pattern: {n}"
  | .config m => s!"Configuration error: {m}"
  | .missingConfig k => s!"Missing configuration key: {k}"

end DoorControl
