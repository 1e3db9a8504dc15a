/- The settings of the devices, the services and the door that a configuration describes. -/
import DoorControl.Access.Cache
import DoorControl.Access.Service
import DoorControl.Config.Secrets
import DoorControl.Door.Settings
import DoorControl.Lock.Session
import DoorControl.Outbox.Destination
import DoorControl.Outbox.Outbound
import DoorControl.Panel.Scanner
import DoorControl.Reader.Session

namespace DoorControl.Config.Configuration

def readerTiming (c : Configuration) : Reader.Timing :=
  Reader.Timing.withLiveness { pollInterval := c.reader.pollInterval } c.reader.livenessEvery

def lockTiming (c : Configuration) : Lock.Timing where
  pollInterval := c.lock.pollInterval
  statusTimeout := c.lock.statusTimeout
  commandTimeout := c.lock.commandTimeout

def panelTiming (c : Configuration) : Panel.Timing where
  pollInterval := c.panel.pollInterval
  replyTimeout := c.panel.replyTimeout

def cacheTiming (c : Configuration) : Access.CacheTiming where
  staleness := c.cache.staleness * 1000
  refreshInterval := c.cache.refreshInterval * 1000

/-- How long any request may take, in milliseconds. -/
def requestTimeout (c : Configuration) : Nat := c.cache.requestTimeout * 1000

def permissionService (c : Configuration) (s : Secrets) : Access.Service :=
  .new c.cache.baseUrl (some s.apiToken) c.requestTimeout

def gatewayClient (c : Configuration) (s : Secrets) : Gateway.Client :=
  .new c.gateway.url s.gatewayToken (c.gateway.syncInterval * 1000) c.gateway.maxFailures
    c.requestTimeout

def debugLog (c : Configuration) (s : Secrets) : Outbox.DebugLog where
  base := c.gateway.url
  token := some s.gatewayToken

def auditLog (c : Configuration) (s : Secrets) : Outbox.AuditLog where
  base := c.cache.baseUrl
  token := some s.apiToken

def chatService (c : Configuration) (s : Secrets) : Outbox.Chat where
  url := c.chat.apiUrl
  token := s.chatToken
  monitoring := c.chat.monitoringChannel
  general := c.chat.generalChannel
  testing := c.chat.testingChannel
  testMode := c.chat.testMode
  icon := c.chat.iconEmoji

def membershipService (c : Configuration) (s : Secrets) : Outbox.Membership where
  base := c.membership.baseUrl
  user := s.membershipUser
  password := s.membershipPassword

def doorSettings (c : Configuration) : Door.Settings where
  name := c.controller.doorName
  tick := c.controller.tick
  enter := c.controller.enter * 1000
  leave := c.controller.leave * 1000
  unlockPeriod := c.controller.unlockPeriod * 1000
  unlockWarn := c.controller.unlockWarn * 1000
  remoteUnlock := c.controller.remoteUnlock * 1000
  statusPush := c.gateway.statusPush * 1000

/-- The name that chat messages begin with. -/
def chatDoorName (c : Configuration) : Option String :=
  if c.chat.doorPrefixed then some c.controller.doorName else none

/-- The queues, with the capacities that are configured; none if one of these is out of range. -/
def queues? (c : Configuration) : Option Outbox.Outbound :=
  (Outbox.Outbound.create? c.dispatch.log c.dispatch.log c.dispatch.chat c.dispatch.membership).map
    (·.withDoorName c.chatDoorName)

end DoorControl.Config.Configuration
