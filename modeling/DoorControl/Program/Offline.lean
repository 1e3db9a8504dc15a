/- A world without a network. -/
import DoorControl.Http.Sending

namespace DoorControl.Program

/-- No request is answered, and some cannot even be made. -/
def offline : Http.Transport Unit := fun request world =>
  match Http.Sending.ofRequest request with
  | .error fault => (.error fault, world)
  | .ok sending => (.error (.unanswered sending.url.render), world)

end DoorControl.Program
