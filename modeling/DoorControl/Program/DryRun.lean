/- A door with in-memory devices among the real services. It works until the gateway is lost or someone
interrupts it. -/
import DoorControl.Config.Services
import DoorControl.Door.Station
import DoorControl.Outbox.Delivery
import DoorControl.Program.Report

namespace DoorControl.Program

/-- The services around a door. -/
structure Services (W : Type) where
  source : Access.Source W
  debug : Outbox.Sink W
  audit : Outbox.Sink W
  chat : Outbox.Sink W
  membership : Outbox.Sink W
  gateway : Gateway.Client
  transport : Http.Transport W
  /-- Whether someone has interrupted the program. -/
  interrupted : W → Bool

namespace Services

variable {W : Type}

/-- The services that a configuration names. -/
def new (c : Config.Configuration) (s : Config.Secrets) (transport : Http.Transport W)
    (interrupted : W → Bool) : Services W where
  source := (c.permissionService s).source transport
  debug := (c.debugLog s).sink transport
  audit := (c.auditLog s).sink transport
  chat := (c.chatService s).sink transport
  membership := (c.membershipService s).sink transport
  gateway := c.gatewayClient s
  transport
  interrupted

/-- Delivers the items of a queue. -/
def deliver (sink : Outbox.Sink W) (policy : Outbox.RetryPolicy) (items : List Outbox.Item)
    (world : W) : W :=
  (Outbox.Course.run sink policy items { world }).world

/-- Delivers all that waits in the four queues. -/
def deliverAll (v : Services W) (s : Door.Station W) : Door.Station W :=
  let o := s.outbound
  let world := deliver v.debug .debugLog o.debug.items s.world
  let world := deliver v.audit .audit o.audit.items world
  let world := deliver v.chat .chat o.chat.items world
  let world := deliver v.membership .membership o.membership.items world
  { s with world, outbound := o.drain }

/-- Fetches the list of all cards. -/
def refresh (v : Services W) (s : Door.Station W) : Door.Station W :=
  let (_, cache, world) := s.cache.refresh v.source s.now s.world
  { s with cache, world }

/-- One exchange with the gateway. -/
def sync (v : Services W) (s : Door.Station W) :
    Except Gateway.GatewayError Unit × Door.Station W :=
  let (result, link, world) := v.gateway.sync v.transport s.link s.world
  (result, { s with link, world })

/-- How the work ends after an exchange with the gateway, if it does; `failed` exchanges in a row have
failed. -/
def ending? (v : Services W) (failed : Nat) (result : Except Gateway.GatewayError Unit) (world : W) :
    Option Ending :=
  if v.interrupted world then some .done
  else match result with
    | .ok () => none
    | .error e =>
        if v.gateway.maxFailures ≤ failed then
          some (.failed ["gateway link lost", (Gateway.GatewayError.tooManyFailures failed e.message).message])
        else none

/-- Exchanges with the gateway, between which the door works and its items are delivered; `failed` of
them in a row have failed so far, and the cards are fetched again at the time `due`. At most `limit`
exchanges take place. -/
def rounds (v : Services W) : (limit failed due : Nat) → Door.Station W → Ending × Door.Station W
  | 0, _, _, s => (.done, s)
  | limit + 1, failed, due, s =>
      let (due, s) :=
        if due ≤ s.now then (s.now + s.cache.timing.refreshInterval, v.refresh s) else (due, s)
      let (result, s) := v.sync s
      let failed := if result matches .ok () then 0 else failed + 1
      match v.ending? failed result s.world with
      | some ending => (ending, s)
      | none =>
          let s := s.run v.source v.gateway.interval
          if s.stopped then (.aborted, s) else rounds v limit failed due (v.deliverAll s)

end Services

/-- Runs a door without devices, for at most `limit` exchanges with the gateway. -/
def dryRun {W : Type} (limit : Nat) (c : Config.Configuration) (v : Services W)
    (outbound : Outbox.Outbound) (world : W) : Ending × W :=
  let door : Door.Station W := {
    settings := c.doorSettings
    outbound
    cache := { timing := c.cacheTiming }
    world }
  let door := v.deliverAll (door.tick v.source)
  let (ending, door) := v.rounds limit 0 0 door
  (ending, door.world)

end DoorControl.Program
