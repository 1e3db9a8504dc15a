/- The configuration of a door and all services around it, with its defaults. -/

namespace DoorControl.Config

structure ReaderSection where
  device : String := "/dev/ttyUSB0"
  baudRate : Nat := 115200
  pollInterval : Nat := 100
  livenessEvery : Nat := 120
  deriving DecidableEq, Repr, Inhabited

structure LockSection where
  device : String := "/dev/ttyACM0"
  baudRate : Nat := 115200
  pollInterval : Nat := 100
  statusTimeout : Nat := 100
  commandTimeout : Nat := 10000
  deriving DecidableEq, Repr, Inhabited

structure PanelSection where
  device : String := "/dev/ttyUSB1"
  baudRate : Nat := 115200
  pollInterval : Nat := 50
  replyTimeout : Nat := 100
  deriving DecidableEq, Repr, Inhabited

/-- The permission service and the cache; times are in seconds. -/
structure CacheSection where
  baseUrl : String := "https://panopticon.hal9k.dk"
  staleness : Nat := 900
  refreshInterval : Nat := 300
  requestTimeout : Nat := 5
  deriving DecidableEq, Repr, Inhabited

/-- The gateway; times are in seconds. -/
structure GatewaySection where
  url : String := "https://acsgateway.hal9k.dk"
  statusPush : Nat := 15
  syncInterval : Nat := 10
  maxFailures : Nat := 10
  deriving DecidableEq, Repr, Inhabited

structure ChatSection where
  apiUrl : String := "https://slack.com/api/chat.postMessage"
  monitoringChannel : String := "private-monitoring"
  generalChannel : String := "general"
  testingChannel : String := "testing"
  testMode : Bool := false
  iconEmoji : String := ":panopticon:"
  /-- Whether messages begin with the door's name. -/
  doorPrefixed : Bool := false
  deriving DecidableEq, Repr, Inhabited

structure MembershipSection where
  baseUrl : String := "https://medlem.hal9k.dk"
  deriving DecidableEq, Repr, Inhabited

/-- The capacities of the queues. -/
structure DispatchSection where
  log : Nat := 25
  chat : Nat := 100
  membership : Nat := 25
  deriving DecidableEq, Repr, Inhabited

/-- The door; times are in seconds, but for the tick. -/
structure ControllerSection where
  doorName : String := "main"
  /-- In milliseconds. -/
  tick : Nat := 100
  enter : Nat := 30
  leave : Nat := 5
  unlockPeriod : Nat := 900
  unlockWarn : Nat := 300
  remoteUnlock : Nat := 30
  deriving DecidableEq, Repr, Inhabited

/-- Secrets, as they are or as names of files that hold them. -/
structure Credentials where
  apiToken : Option String := none
  apiTokenFile : Option String := none
  gatewayToken : Option String := none
  gatewayTokenFile : Option String := none
  chatToken : Option String := none
  chatTokenFile : Option String := none
  membershipUser : Option String := none
  membershipUserFile : Option String := none
  membershipPassword : Option String := none
  membershipPasswordFile : Option String := none
  deriving DecidableEq, Repr, Inhabited

structure Configuration where
  reader : ReaderSection := {}
  lock : LockSection := {}
  panel : PanelSection := {}
  cache : CacheSection := {}
  gateway : GatewaySection := {}
  chat : ChatSection := {}
  membership : MembershipSection := {}
  dispatch : DispatchSection := {}
  controller : ControllerSection := {}
  credentials : Credentials := {}
  deriving DecidableEq, Repr, Inhabited

end DoorControl.Config
