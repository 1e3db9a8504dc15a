/- The names of all settings, and how each is read from a tree and shown. -/
import DoorControl.Config.Sections
import DoorControl.Config.Tree
import DoorControl.Json.Value
import DoorControl.Text.Numeral
import DoorControl.Text.Quoted

namespace DoorControl.Config

open Text.Numeral (max64)

/-- A place in a configuration that holds one value. -/
inductive Slot
  | text (get : Configuration → String) (set : String → Configuration → Configuration)
  /-- A number with an upper bound. -/
  | number (limit : Nat) (get : Configuration → Nat) (set : Nat → Configuration → Configuration)
  | flag (get : Configuration → Bool) (set : Bool → Configuration → Configuration)
  | optional (get : Configuration → Option String)
      (set : Option String → Configuration → Configuration)

namespace Slot

/-- Puts a value into its place, if it is of the kind that belongs there. -/
def put? (slot : Slot) (t : Tree) (c : Configuration) : Option Configuration :=
  match slot, t with
  | .text _ set, .text s => some (set s c)
  | .number limit _ set, .int n => if 0 ≤ n ∧ n ≤ limit then some (set n.toNat c) else none
  | .flag _ set, .bool b => some (set b c)
  | .optional _ set, .text s => some (set (some s) c)
  | .optional _ set, .null => some (set none c)
  | _, _ => none

def toJson (slot : Slot) (c : Configuration) : Json :=
  match slot with
  | .text get _ => .text (get c)
  | .number _ get _ => .int (get c)
  | .flag get _ => .bool (get c)
  | .optional get _ => match get c with
      | some s => .text s
      | none => .null

/-- The value as a listing shows it. -/
def render (slot : Slot) (c : Configuration) : String :=
  match slot with
  | .text get _ => Text.Quoted.encode (get c)
  | .number _ get _ => toString (get c)
  | .flag get _ => if get c then "true" else "false"
  | .optional get _ => match get c with
      | some s => "Some(\n            " ++ Text.Quoted.encode s ++ ",\n        )"
      | none => "None"

end Slot

/-- The settings of one topic: their common key, the title shown above them, and the key of each. -/
structure Section where
  key : String
  title : String
  fields : List (String × Slot)

def limit32 : Nat := 4294967295

def readerFields : List (String × Slot) :=
  [("device", .text (·.reader.device) (fun v c => { c with reader.device := v })),
    ("baud_rate", .number limit32 (·.reader.baudRate) (fun v c => { c with reader.baudRate := v })),
    ("poll_interval_ms", .number max64 (·.reader.pollInterval)
      (fun v c => { c with reader.pollInterval := v })),
    ("liveness_every", .number max64 (·.reader.livenessEvery)
      (fun v c => { c with reader.livenessEvery := v }))]

def lockFields : List (String × Slot) :=
  [("device", .text (·.lock.device) (fun v c => { c with lock.device := v })),
    ("baud_rate", .number limit32 (·.lock.baudRate) (fun v c => { c with lock.baudRate := v })),
    ("poll_interval_ms", .number max64 (·.lock.pollInterval)
      (fun v c => { c with lock.pollInterval := v })),
    ("status_timeout_ms", .number max64 (·.lock.statusTimeout)
      (fun v c => { c with lock.statusTimeout := v })),
    ("command_timeout_ms", .number max64 (·.lock.commandTimeout)
      (fun v c => { c with lock.commandTimeout := v }))]

def panelFields : List (String × Slot) :=
  [("device", .text (·.panel.device) (fun v c => { c with panel.device := v })),
    ("baud_rate", .number limit32 (·.panel.baudRate) (fun v c => { c with panel.baudRate := v })),
    ("poll_interval_ms", .number max64 (·.panel.pollInterval)
      (fun v c => { c with panel.pollInterval := v })),
    ("reply_timeout_ms", .number max64 (·.panel.replyTimeout)
      (fun v c => { c with panel.replyTimeout := v }))]

def cacheFields : List (String × Slot) :=
  [("base_url", .text (·.cache.baseUrl) (fun v c => { c with cache.baseUrl := v })),
    ("staleness_secs", .number max64 (·.cache.staleness)
      (fun v c => { c with cache.staleness := v })),
    ("refresh_interval_secs", .number max64 (·.cache.refreshInterval)
      (fun v c => { c with cache.refreshInterval := v })),
    ("request_timeout_secs", .number max64 (·.cache.requestTimeout)
      (fun v c => { c with cache.requestTimeout := v }))]

def gatewayFields : List (String × Slot) :=
  [("url", .text (·.gateway.url) (fun v c => { c with gateway.url := v })),
    ("status_push_secs", .number max64 (·.gateway.statusPush)
      (fun v c => { c with gateway.statusPush := v })),
    ("sync_interval_secs", .number max64 (·.gateway.syncInterval)
      (fun v c => { c with gateway.syncInterval := v })),
    ("max_failures", .number limit32 (·.gateway.maxFailures)
      (fun v c => { c with gateway.maxFailures := v }))]

def chatFields : List (String × Slot) :=
  [("api_url", .text (·.chat.apiUrl) (fun v c => { c with chat.apiUrl := v })),
    ("monitoring_channel", .text (·.chat.monitoringChannel)
      (fun v c => { c with chat.monitoringChannel := v })),
    ("general_channel", .text (·.chat.generalChannel)
      (fun v c => { c with chat.generalChannel := v })),
    ("testing_channel", .text (·.chat.testingChannel)
      (fun v c => { c with chat.testingChannel := v })),
    ("test_mode", .flag (·.chat.testMode) (fun v c => { c with chat.testMode := v })),
    ("icon_emoji", .text (·.chat.iconEmoji) (fun v c => { c with chat.iconEmoji := v })),
    ("door_prefix", .flag (·.chat.doorPrefixed) (fun v c => { c with chat.doorPrefixed := v }))]

def membershipFields : List (String × Slot) :=
  [("base_url", .text (·.membership.baseUrl) (fun v c => { c with membership.baseUrl := v }))]

def dispatchFields : List (String × Slot) :=
  [("log_capacity", .number max64 (·.dispatch.log) (fun v c => { c with dispatch.log := v })),
    ("chat_capacity", .number max64 (·.dispatch.chat) (fun v c => { c with dispatch.chat := v })),
    ("membership_capacity", .number max64 (·.dispatch.membership)
      (fun v c => { c with dispatch.membership := v }))]

def controllerFields : List (String × Slot) :=
  [("door_name", .text (·.controller.doorName) (fun v c => { c with controller.doorName := v })),
    ("tick_ms", .number max64 (·.controller.tick) (fun v c => { c with controller.tick := v })),
    ("enter_secs", .number max64 (·.controller.enter)
      (fun v c => { c with controller.enter := v })),
    ("leave_secs", .number max64 (·.controller.leave)
      (fun v c => { c with controller.leave := v })),
    ("unlock_period_secs", .number max64 (·.controller.unlockPeriod)
      (fun v c => { c with controller.unlockPeriod := v })),
    ("unlock_warn_secs", .number max64 (·.controller.unlockWarn)
      (fun v c => { c with controller.unlockWarn := v })),
    ("remote_unlock_secs", .number max64 (·.controller.remoteUnlock)
      (fun v c => { c with controller.remoteUnlock := v }))]

def credentialsFields : List (String × Slot) :=
  [("api_token", .optional (·.credentials.apiToken)
      (fun v c => { c with credentials.apiToken := v })),
    ("api_token_file", .optional (·.credentials.apiTokenFile)
      (fun v c => { c with credentials.apiTokenFile := v })),
    ("gateway_token", .optional (·.credentials.gatewayToken)
      (fun v c => { c with credentials.gatewayToken := v })),
    ("gateway_token_file", .optional (·.credentials.gatewayTokenFile)
      (fun v c => { c with credentials.gatewayTokenFile := v })),
    ("chat_token", .optional (·.credentials.chatToken)
      (fun v c => { c with credentials.chatToken := v })),
    ("chat_token_file", .optional (·.credentials.chatTokenFile)
      (fun v c => { c with credentials.chatTokenFile := v })),
    ("membership_user", .optional (·.credentials.membershipUser)
      (fun v c => { c with credentials.membershipUser := v })),
    ("membership_user_file", .optional (·.credentials.membershipUserFile)
      (fun v c => { c with credentials.membershipUserFile := v })),
    ("membership_password", .optional (·.credentials.membershipPassword)
      (fun v c => { c with credentials.membershipPassword := v })),
    ("membership_password_file", .optional (·.credentials.membershipPasswordFile)
      (fun v c => { c with credentials.membershipPasswordFile := v }))]

/-- All settings in the order in which they are listed. -/
def sections : List Section :=
  [⟨"reader", "ReaderSection", readerFields⟩,
    ⟨"lock", "LockSection", lockFields⟩,
    ⟨"panel", "PanelSection", panelFields⟩,
    ⟨"cache", "CacheSection", cacheFields⟩,
    ⟨"gateway", "GatewaySection", gatewayFields⟩,
    ⟨"chat", "ChatSection", chatFields⟩,
    ⟨"membership", "MembershipSection", membershipFields⟩,
    ⟨"dispatch", "DispatchSection", dispatchFields⟩,
    ⟨"controller", "ControllerSection", controllerFields⟩,
    ⟨"credentials", "Credentials", credentialsFields⟩]

/-- The elements of a list in the order of their keys. -/
def byKey {α : Type} (key : α → String) (xs : List α) : List α :=
  xs.mergeSort (fun a b => !(key b < key a))

/-- Puts values into the places of a section; the error is the key of the first value that does not
fit. Values by name are looked at in the order of their names, unknown ones are skipped; a list holds
the values in the order of the listing. -/
def Section.put (s : Section) (t : Tree) (c : Configuration) : Except String Configuration :=
  match t with
  | .dict members =>
      (byKey Prod.fst s.fields).foldlM (fun c (name, slot) =>
        match Tree.member? name members with
        | none => .ok c
        | some t => match slot.put? t c with
            | some c => .ok c
            | none => .error (s.key ++ "." ++ name)) c
  | .list xs =>
      (s.fields.zip xs).zipIdx.foldlM (fun c (((_, slot), t), place) =>
        match slot.put? t c with
        | some c => .ok c
        | none => .error (s.key ++ "." ++ toString place)) c
  | _ => .error s.key

/-- The configuration that a tree lays over the defaults, or the key of the first value that does not
fit. -/
def Configuration.ofTree (t : Tree) : Except String Configuration :=
  match t with
  | .dict members =>
      (byKey Section.key sections).foldlM (fun c s =>
        match Tree.member? s.key members with
        | none => .ok c
        | some t => s.put t c) {}
  | _ => .error ""

def Configuration.toJson (c : Configuration) : Json :=
  .object (sections.map (fun s =>
    (s.key, .object (s.fields.map (fun (name, slot) => (name, slot.toJson c))))))

/-- The listing of a section. -/
def Section.render (s : Section) (c : Configuration) : String :=
  let lines := s.fields.map (fun (name, slot) => "        " ++ name ++ ": " ++ slot.render c ++ ",\n")
  "    " ++ s.key ++ ": " ++ s.title ++ " \x7b\n" ++ String.join lines ++ "    \x7d,\n"

/-- The listing of all settings. -/
def Configuration.render (c : Configuration) : String :=
  "DoorkeeperConfig \x7b\n" ++ String.join (sections.map (·.render c)) ++ "\x7d"

end DoorControl.Config
