/- Commands and reply lines over a port. -/
import DoorControl.Device.Error
import DoorControl.Serial.LineBuffer

namespace DoorControl.Serial

/-- A port with the input read from it that is not yet taken as lines. -/
structure Link (P : Type) where
  port : P
  lines : LineBuffer := {}

namespace Link

variable {P : Type} [Port P]

/-- Writes a command line: the command, then the line end. -/
def send (command : String) (l : Link P) : Except PortFault Unit × Link P :=
  match Port.write (Text.Utf8.encode command) l.port with
  | (.error f, port) => (.error f, { l with port })
  | (.ok (), port) =>
      let (result, port) := Port.write [newline] port
      (result, { l with port })

/-- Reads until a chunk is not full, at most `n` chunks. -/
def readChunks : Nat → P → Except PortFault (List UInt8) × P
  | 0, p => (.ok [], p)
  | n + 1, p => match Port.read p with
      | (.error f, p) => if f.isIdle then (.ok [], p) else (.error f, p)
      | (.ok bytes, p) =>
          if bytes.length < readChunk then (.ok bytes, p)
          else match readChunks n p with
            | (.error f, p) => (.error f, p)
            | (.ok more, p) => (.ok (bytes ++ more), p)

/-- What the device has sent so far, without waiting for more. -/
def readAvailable (l : Link P) : Except PortFault (List UInt8) × Link P :=
  let (result, port) := readChunks (Port.burst l.port + 1) l.port
  (result, { l with port })

/-- Adds bytes to the pending input and takes the complete lines. -/
def collect (bytes : List UInt8) (l : Link P) : List String × Link P :=
  let (taken, lines) := (l.lines.feed bytes).drain
  (taken, { l with lines })

/-- Waits for the reply to `command` over at most `reads` reads. -/
def awaitReply (command : String) (timeout : Nat) (reads : Nat) (l : Link P) :
    Except DeviceError String × Link P :=
  match l.lines.takeReply command with
  | (some reply, lines) => (.ok reply, { l with lines })
  | (none, lines) => match reads with
      | 0 => (.error (.timeout command timeout), { l with lines })
      | reads + 1 => match Port.read l.port with
          | (.error f, port) =>
              if f.isIdle then awaitReply command timeout reads { port, lines }
              else (.error (.port f), { port, lines })
          | (.ok [], port) => awaitReply command timeout reads { port, lines }
          | (.ok (b :: bs), port) =>
              awaitReply command timeout reads { port, lines := lines.feed (b :: bs) }

/-- Sends a command and waits up to `timeout` milliseconds for its reply. What was pending before is
dropped. -/
def exchange (command : String) (timeout : Nat) (l : Link P) :
    Except DeviceError String × Link P :=
  match l.readAvailable with
  | (.error f, l) => (.error (.port f), l)
  | (.ok _, l) => match send command { l with lines := {} } with
      | (.error f, l) => (.error (.port f), l)
      | (.ok (), l) =>
          let deadline := Port.now l.port + timeout
          awaitReply command timeout (Port.readsBefore l.port deadline) l

end Link

end DoorControl.Serial
