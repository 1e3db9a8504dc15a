/- Why a device operation failed. -/
import DoorControl.Protocol.Error
import DoorControl.Serial.Port

namespace DoorControl

inductive DeviceError
  | disconnected (device : String)
  | timeout (command : String) (milliseconds : Nat)
  | protocol (cause : ProtocolError)
  | rejected (command reply : String)
  | initialization (message : String)
  | port (cause : Serial.PortFault)
  | other (message : String)
  deriving DecidableEq, Repr

namespace DeviceError

def message : DeviceError → String
  | .disconnected d => s!"Device disconnected: {d}"
  | .timeout c ms => s!"No reply to '{c}' after {ms}ms"
  | .protocol e => "Protocol error: " ++ e.message
  | .rejected c r => s!"Device rejected '{c}': {r}"
  | .initialization m => s!"Initialization failed: {m}"
  | .port f => "I/O error: " ++ f.message
  | .other m => m

/-- Whether the device only did not answer in time. -/
def isTimeout : DeviceError → Bool
  | .timeout _ _ => true
  | _ => false

end DeviceError

end DoorControl
