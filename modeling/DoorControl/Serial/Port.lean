/- Byte ports: what a session needs of the port it talks over. -/

namespace DoorControl.Serial

/-- The kinds of port failures. -/
inductive FaultKind
  | timedOut
  | wouldBlock
  | interrupted
  | brokenPipe
  | notConnected
  | other
  deriving DecidableEq, Repr, Inhabited

structure PortFault where
  kind : FaultKind
  message : String
  deriving DecidableEq, Repr, Inhabited

/-- Whether a failed read only says that nothing has arrived. -/
def PortFault.isIdle (f : PortFault) : Bool :=
  f.kind = .timedOut || f.kind = .wouldBlock || f.kind = .interrupted

/-- The most bytes that one read gives. -/
def readChunk : Nat := 64

/-- A byte port with its own clock. -/
class Port (P : Type) where
  /-- What one read gives, `readChunk` bytes at most; no bytes when the other side is silent. -/
  read : P → Except PortFault (List UInt8) × P
  /-- Writes all bytes, or fails after some of the first ones. -/
  write : List UInt8 → P → Except PortFault Unit × P
  /-- The time in milliseconds. -/
  now : P → Nat
  /-- How many reads end before the clock shows the given time. -/
  readsBefore : P → Nat → Nat
  /-- A bound on the full chunks that can be read in a row. -/
  burst : P → Nat

end DoorControl.Serial
