/- The program on the command line. -/
import DoorControl.Program.Offline
import DoorControl.Program.Work

open DoorControl

/-- The names of the variables that are looked at: those of all settings, and that of the file. -/
def variableNames : List String :=
  "DOORKEEPER_CONFIG" :: Config.sections.flatMap (fun s => s.fields.map (fun (name, _) =>
    "DOORKEEPER_" ++ s.key.toUpper ++ "__" ++ name.toUpper))

/-- The variables that are set. -/
def readVariables : IO (List (String × String)) := do
  let found ← variableNames.mapM (fun name => do return (name, ← IO.getEnv name))
  return found.filterMap (fun (name, value) => value.map (name, ·))

/-- What a path leads to. -/
def readPath (path : String) : IO (Except Files.Fault Files.Entry) := do
  try
    return .ok (.file (← IO.FS.readBinFile path).toList)
  catch
    | .noFileOrDirectory .. => return .error .missing
    | .inappropriateType .. => return .ok .directory
    | e => return .error (.other (toString e))

/-- The files that the work may need: the one with the settings, and those that it names. -/
def readFiles (origin : Config.Origin) : IO Files := do
  let path := origin.path.getD Config.defaultPath
  let text ← readPath path
  let files : Files := fun p => if p = path then text else .error .missing
  let credentials := match origin.load files with
    | .ok c => c.credentials
    | .error _ => {}
  let named := [credentials.apiTokenFile, credentials.gatewayTokenFile, credentials.chatTokenFile,
    credentials.membershipUserFile, credentials.membershipPasswordFile].filterMap id
  let held ← named.mapM (fun p => do return (p, ← readPath p))
  return fun p => if p = path then text else (held.lookup p).getD (.error .missing)

def main (args : List String) : IO UInt32 := do
  let environment ← readVariables
  let asked := match Program.Invocation.parse (environment.lookup "DOORKEEPER_CONFIG") args with
    | .ok invocation => invocation.config
    | .error _ => none
  let files ← readFiles { path := asked, environment }
  let around : Program.Surroundings Unit := {
    files, environment, transport := Program.offline, interrupted := fun _ => false }
  let (report, ()) := Program.execute around args ()
  IO.print report.output
  IO.eprint report.errors
  return UInt32.ofNat report.code
