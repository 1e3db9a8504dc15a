/- What is demanded of a configuration, and how one comes from a file and the environment. -/
import DoorControl.Config.Environment
import DoorControl.Config.File
import DoorControl.Config.Schema
import DoorControl.Config.Services

namespace DoorControl.Config

namespace Configuration

/-- The settings that must not be zero, by their keys. -/
def positive (c : Configuration) : List (String × Nat) :=
  [("reader.poll_interval_ms", c.reader.pollInterval),
    ("lock.poll_interval_ms", c.lock.pollInterval),
    ("lock.status_timeout_ms", c.lock.statusTimeout),
    ("lock.command_timeout_ms", c.lock.commandTimeout),
    ("panel.poll_interval_ms", c.panel.pollInterval),
    ("panel.reply_timeout_ms", c.panel.replyTimeout),
    ("cache.staleness_secs", c.cache.staleness),
    ("cache.refresh_interval_secs", c.cache.refreshInterval),
    ("cache.request_timeout_secs", c.cache.requestTimeout),
    ("gateway.status_push_secs", c.gateway.statusPush),
    ("gateway.sync_interval_secs", c.gateway.syncInterval),
    ("controller.tick_ms", c.controller.tick),
    ("dispatch.log_capacity", c.dispatch.log),
    ("dispatch.chat_capacity", c.dispatch.chat),
    ("dispatch.membership_capacity", c.dispatch.membership),
    ("gateway.max_failures", c.gateway.maxFailures)]

/-- The settings that have to be addresses of web services, by their keys. -/
def addresses (c : Configuration) : List (String × String) :=
  [("cache.base_url", c.cache.baseUrl), ("gateway.url", c.gateway.url),
    ("chat.api_url", c.chat.apiUrl)]

/-- Whether a text begins like the address of a web service. -/
def isHttp (url : String) : Bool :=
  (Text.after? "http://".toList url.toList).isSome || (Text.after? "https://".toList url.toList).isSome

/-- What is wrong with a configuration first of all. -/
def fault? (c : Configuration) : Option String :=
  match c.positive.find? (fun (_, n) => n = 0) with
  | some (key, _) => some (key ++ " must be greater than zero")
  | none => match c.addresses.find? (fun (_, url) => !isHttp url) with
      | some (key, url) => some s!"{key} is not an HTTP URL: '{url}'"
      | none => match c.doorSettings.validate with
          | .error e => some e.message
          | .ok () => none

/-- The configuration that a tree lays over the defaults, if the door can work with it. -/
def accept (t : Tree) : Except ConfigError Configuration :=
  match ofTree t with
  | .error key => .error (.unreadable key)
  | .ok c => match c.fault? with
      | some m => .error (.invalid m)
      | none => .ok c

end Configuration

/-- Where a configuration comes from. -/
structure Origin where
  /-- The file that was asked for. -/
  path : Option String := none
  /-- The variables that are set, with their values. -/
  environment : List (String × String) := []
  deriving DecidableEq, Repr

/-- The file that is read, if it is there, when none was asked for. -/
def defaultPath : String := "config/doorkeeper.yaml"

/-- The tree in a file. A directory holds no settings. -/
def readTree (files : Files) (path : String) : Except ConfigError Tree :=
  if files path matches .ok .directory then .ok (.dict [])
  else match files.text path with
    | .error _ => .error (.unreadable "")
    | .ok text => match File.read? text with
        | some t => .ok t
        | none => .error (.unreadable "")

/-- Loads a configuration. A file that was asked for has to be there. -/
def Origin.load (files : Files) (o : Origin) : Except ConfigError Configuration := do
  let isThere := fun path => files path matches .ok _
  let tree ← match o.path with
    | some path => if isThere path then readTree files path else throw (.notFound path)
    | none => if isThere defaultPath then readTree files defaultPath else pure (.dict [])
  Configuration.accept (Environment.overlay o.environment tree)

end DoorControl.Config
