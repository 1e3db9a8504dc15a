/- Times in milliseconds, and how long one wait can last. -/

namespace DoorControl.Clock

/-- The longest wait, thirty years of 365 days; a longer one is cut to it. -/
def longestWait : Nat := 946080000000

/-- When a wait that begins now ends. -/
def after (now wait : Nat) : Nat := now + min wait longestWait

end DoorControl.Clock
