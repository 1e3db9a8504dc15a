/- What can be wrong with a configuration, or with the credentials that it names. -/

namespace DoorControl.Config

inductive ConfigError
  | notFound (path : String)
  /-- A value does not fit its place. The key is empty if the text is no mapping. -/
  | unreadable (key : String)
  | invalid (message : String)
  | missingCredential (name : String)
  | credentialFile (path reason : String)
  deriving DecidableEq, Repr

namespace ConfigError

def message : ConfigError → String
  | .notFound path => s!"configuration file not found: {path}"
  | .unreadable key => s!"configuration parsing failed: {key}"
  | .invalid m => s!"invalid configuration: {m}"
  | .missingCredential name => s!"missing credential: {name}"
  | .credentialFile path reason => s!"cannot read credential file {path}: {reason}"

/-- The message, followed by that of the cause if there is one. -/
def chain : ConfigError → List String
  | .credentialFile path reason => [message (.credentialFile path reason), reason]
  | e => [e.message]

end ConfigError

end DoorControl.Config
