/- The credentials themselves, after the files that hold some of them have been read. -/
import DoorControl.Config.Error
import DoorControl.Config.Sections
import DoorControl.Files.Basic
import DoorControl.Text.Blank
import DoorControl.Text.Quoted

namespace DoorControl.Config

/-- A text without the blanks around it, unless nothing is left. -/
def nonblank (s : String) : Option String :=
  let s := Text.trimmed s
  if s.isEmpty then none else some s

/-- A credential: the value itself, or the first line of the file. -/
def secret (files : Files) (value file : Option String) : Except ConfigError (Option String) :=
  match value.bind nonblank, file with
  | some s, _ => .ok (some s)
  | none, none => .ok none
  | none, some path => match files.text path with
      | .error reason => .error (.credentialFile path reason)
      | .ok text =>
          .ok ((Text.linesFrom [] text.toList).head?.bind (fun line => nonblank (String.ofList line)))

/-- A credential that a door does not work without. -/
def requiredSecret (files : Files) (name : String) (value file : Option String) :
    Except ConfigError String := do
  match ← secret files value file with
  | some s => return s
  | none => throw (.missingCredential name)

structure Secrets where
  apiToken : String
  gatewayToken : String
  chatToken : Option String := none
  membershipUser : Option String := none
  membershipPassword : Option String := none
  deriving DecidableEq, Repr

namespace Secrets

/-- A listing that betrays none of them but the user. -/
def render (s : Secrets) : String :=
  let flag := fun b : Bool => if b then "true" else "false"
  let user := match s.membershipUser with
    | some user => "Some(" ++ Text.Quoted.encode user ++ ")"
    | none => "None"
  "ResolvedCredentials \x7b chat_token: " ++ flag s.chatToken.isSome ++ ", membership_user: " ++ user ++
    ", membership_password: " ++ flag s.membershipPassword.isSome ++ ", .. \x7d"

end Secrets

/-- Reads all credentials; the first one that is missing or cannot be read is the error. -/
def Credentials.resolve (files : Files) (c : Credentials) : Except ConfigError Secrets := do
  let apiToken ← requiredSecret files "api_token" c.apiToken c.apiTokenFile
  let gatewayToken ← requiredSecret files "gateway_token" c.gatewayToken c.gatewayTokenFile
  let chatToken ← secret files c.chatToken c.chatTokenFile
  let membershipUser ← secret files c.membershipUser c.membershipUserFile
  let membershipPassword ← secret files c.membershipPassword c.membershipPasswordFile
  return { apiToken, gatewayToken, chatToken, membershipUser, membershipPassword }

end DoorControl.Config
