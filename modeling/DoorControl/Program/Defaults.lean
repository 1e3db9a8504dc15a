/- The numbers that the program works with where nothing else is configured, by name. -/
import DoorControl.Card.Frame
import DoorControl.Config.Sections
import DoorControl.Door.Settings
import DoorControl.Outbox.Item

namespace DoorControl.Program

/-- The form of card frames and card ids. -/
def frameNumbers : List (String × Nat) :=
  [("stx", Card.stx.toNat), ("etx", Card.etx.toNat), ("id_size", idSize),
    ("card_id_hex_digits", idDigits), ("max_card_id", maxCardId)]

/-- The times of a door. -/
def doorNumbers (c : Config.ControllerSection) (g : Config.GatewaySection) (s : Door.Settings) :
    List (String × Nat) :=
  [("tick_ms", c.tick), ("enter_secs", c.enter), ("leave_secs", c.leave),
    ("unlock_period_secs", c.unlockPeriod), ("unlock_warn_secs", c.unlockWarn),
    ("remote_unlock_secs", c.remoteUnlock), ("lock_retry_secs", s.lockRetry / 1000),
    ("status_push_secs", g.statusPush)]

/-- The times of the devices and the permission cache. -/
def deviceNumbers (c : Config.CacheSection) (r : Config.ReaderSection) (l : Config.LockSection) :
    List (String × Nat) :=
  [("cache_staleness_secs", c.staleness), ("cache_refresh_secs", c.refreshInterval),
    ("http_timeout_secs", c.requestTimeout), ("reader_poll_ms", r.pollInterval),
    ("lock_poll_ms", l.pollInterval), ("lock_status_timeout_ms", l.statusTimeout),
    ("lock_command_timeout_ms", l.commandTimeout), ("baud_rate", l.baudRate)]

/-- The sizes of items and queues. -/
def queueNumbers (d : Config.DispatchSection) : List (String × Nat) :=
  [("max_item_text", Outbox.maxItemText), ("log_capacity", d.log), ("chat_capacity", d.chat),
    ("membership_capacity", d.membership)]

/-- All of them. -/
def defaults : List (String × Nat) :=
  frameNumbers ++ doorNumbers {} {} {} ++ deviceNumbers {} {} {} ++ queueNumbers {}

end DoorControl.Program
