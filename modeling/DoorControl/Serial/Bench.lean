/- A port with a simulated device behind it that answers every command line at once. -/
import DoorControl.Serial.Port
import DoorControl.Text.Blank
import DoorControl.Text.Utf8

namespace DoorControl.Serial

/-- What the device puts on the line: a byte, or a failure of the read that meets it. -/
abbrev Signal := Except PortFault UInt8

structure Bench where
  /-- Signals not yet read. -/
  incoming : List Signal := []
  /-- The bytes written so far. -/
  wire : List UInt8 := []
  /-- The line being written. -/
  line : List UInt8 := []
  /-- The command lines heard so far. -/
  heard : List String := []
  /-- The device: what it sends on a line, given the lines heard before. -/
  answer : List String → String → List Signal := fun _ _ => []
  connected : Bool := true
  /-- A failure that the next write meets. -/
  refusal : Option PortFault := none

namespace Bench

def unplugged : PortFault := ⟨.brokenPipe, "mock port closed"⟩

def silence : PortFault := ⟨.timedOut, "no data"⟩

/-- The bytes of a text, as signals. -/
def textSignals (s : String) : List Signal := (Text.Utf8.encode s).map .ok

/-- A reply line with its line end. -/
def replyLine (s : String) : List Signal := textSignals s ++ [.ok 13, .ok 10]

/-- At most `n` bytes, up to the first failure. -/
def takeBytes : Nat → List Signal → List UInt8 × List Signal
  | 0, rest => ([], rest)
  | _ + 1, [] => ([], [])
  | _ + 1, .error f :: rest => ([], .error f :: rest)
  | n + 1, .ok b :: rest =>
      let (bytes, rest) := takeBytes n rest
      (b :: bytes, rest)

/-- Reads at most `n` bytes. -/
def readUpTo (n : Nat) (p : Bench) : Except PortFault (List UInt8) × Bench :=
  if p.connected then
    match p.incoming with
    | [] => (.error silence, p)
    | .error f :: rest => (.error f, { p with incoming := rest })
    | .ok b :: rest =>
        let (bytes, rest) := takeBytes n (.ok b :: rest)
        (.ok bytes, { p with incoming := rest })
  else (.error unplugged, p)

/-- One byte reaches the device. -/
def hear (p : Bench) (b : UInt8) : Bench :=
  if b = 10 then
    let line := String.ofList (Text.dropBlanksRight (Text.Utf8.decode p.line))
    { p with
      line := []
      heard := p.heard ++ [line]
      incoming := p.incoming ++ p.answer p.heard line }
  else { p with line := p.line ++ [b] }

def write (bytes : List UInt8) (p : Bench) : Except PortFault Unit × Bench :=
  if p.connected then
    match p.refusal with
    | some f => (.error f, { p with refusal := none })
    | none => (.ok (), bytes.foldl hear { p with wire := p.wire ++ bytes })
  else (.error unplugged, p)

def push (signals : List Signal) (p : Bench) : Bench :=
  { p with incoming := p.incoming ++ signals }

/-- The complete and incomplete lines written so far, empty ones left out. -/
def writtenLines (p : Bench) : List String :=
  ((String.ofList (Text.Utf8.decode p.wire)).splitOn "\n").filter (fun l => !l.isEmpty)
    |>.map Text.trimmedRight

def clearWritten (p : Bench) : Bench := { p with wire := [] }

/-- A device that answers the next line with the given signals and is silent afterwards. -/
def answerOnce (signals : List Signal) (p : Bench) : Bench :=
  { p with heard := [], answer := fun heard _ => if heard.isEmpty then signals else [] }

/-- A device with a list of replies to each command: the n-th occurrence gets the n-th reply, and the
last one is repeated. -/
def answerFrom (replies : List (String × List (List String))) (p : Bench) : Bench :=
  { p with
    heard := []
    answer := fun heard line => match replies.lookup line with
      | none => []
      | some choices =>
          let nth := min (heard.count line) (choices.length - 1)
          (choices.getD nth []).flatMap replyLine }

instance : Port Bench where
  read := readUpTo readChunk
  write bytes p := if bytes.isEmpty then (.ok (), p) else write bytes p
  now _ := 0
  readsBefore p deadline := if deadline = 0 then 0 else p.incoming.length + 1
  burst p := p.incoming.length

end Bench

end DoorControl.Serial
