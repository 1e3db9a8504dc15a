/- A port whose input is laid down in advance. -/
import DoorControl.Serial.Port

namespace DoorControl.Serial

/-- What one read of a scripted port meets. -/
inductive Incoming
  | data (bytes : List UInt8)
  | fault (cause : PortFault)
  deriving DecidableEq, Repr

/-- Reads that an event is good for. -/
def Incoming.reads : Incoming → Nat
  | .data bytes => bytes.length / readChunk + 1
  | .fault _ => 1

/-- A port that plays its events in order and is silent afterwards. -/
structure ScriptedPort where
  incoming : List Incoming := []
  /-- How many bytes it still takes; without a number, any. -/
  budget : Option Nat := none
  /-- The bytes that it has taken. -/
  wire : List UInt8 := []
  deriving DecidableEq, Repr, Inhabited

namespace ScriptedPort

def silence : PortFault := ⟨.timedOut, "no data"⟩

def read (p : ScriptedPort) : Except PortFault (List UInt8) × ScriptedPort :=
  match p.incoming with
  | [] => (.error silence, p)
  | .fault f :: rest => (.error f, { p with incoming := rest })
  | .data bytes :: rest =>
      if bytes.length ≤ readChunk then (.ok bytes, { p with incoming := rest })
      else (.ok (bytes.take readChunk),
        { p with incoming := .data (bytes.drop readChunk) :: rest })

def writeFault : PortFault := ⟨.other, "scripted write failure"⟩

def write (bytes : List UInt8) (p : ScriptedPort) : Except PortFault Unit × ScriptedPort :=
  match p.budget with
  | none => (.ok (), { p with wire := p.wire ++ bytes })
  | some n =>
      let taken := { p with wire := p.wire ++ bytes.take n, budget := some (n - bytes.length) }
      if bytes.length ≤ n then (.ok (), taken) else (.error writeFault, taken)

/-- All reads up to the silence. -/
def readsLeft (p : ScriptedPort) : Nat := p.incoming.foldr (fun event n => event.reads + n) 0

/-- The script takes no time; only the silence after it does. -/
instance : Port ScriptedPort where
  read := read
  write := write
  now _ := 0
  readsBefore p deadline := if deadline = 0 then 0 else p.readsLeft
  burst := readsLeft

end ScriptedPort

end DoorControl.Serial
