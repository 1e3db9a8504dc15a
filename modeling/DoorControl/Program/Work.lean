/- The work on the three jobs, and the program as a whole. -/
import DoorControl.Config.Validation
import DoorControl.Program.Arguments
import DoorControl.Program.DryRun

namespace DoorControl.Program

def version : String := "0.1.0"

/-- Everything around the program but the services' answers. -/
structure Surroundings (W : Type) where
  files : Files
  environment : List (String × String) := []
  transport : Http.Transport W
  interrupted : W → Bool
  /-- The most exchanges with the gateway that a dry run waits for. -/
  limit : Nat := 100000

/-- Why a path leads to no serial port. Files and directories are none. -/
def noPort (files : Files) (path : String) : String :=
  match files path with
  | .error .missing => "No such file or directory"
  | .error .noDirectory => "Not a directory"
  | .error .tooLong => "File name too long"
  | .error .endMark => "Invalid argument"
  | .error (.other reason) => reason
  | .ok .directory => "Is a directory"
  | .ok (.file _) => "Not a typewriter"

/-- Opens a serial port. There are none. -/
def openPort (files : Files) (path : String) : Except DeviceError Empty :=
  .error (.initialization s!"cannot open {path}: {noPort files path}")

/-- What a job ends with: how, what it has written, and the world after it. -/
structure Outcome (W : Type) where
  ending : Ending
  output : String := ""
  world : W

section

variable {W : Type}

/-- Asks the permission service about one card. -/
def lookup (around : Surroundings W) (c : Config.Configuration) (card : String) (world : W) :
    Outcome W :=
  match CardId.ofHex card with
  | .error e => { ending := .failed [s!"invalid card id '{card}'", e.message], world }
  | .ok id => match c.credentials.resolve around.files with
      | .error e => { ending := .failed e.chain, world }
      | .ok s =>
          let source := (c.permissionService s).source around.transport
          let (result, _, world) :=
            Access.Cache.decide source id 0 { timing := c.cacheTiming } world
          { ending := .done, output := id.toHex ++ ": " ++ result.render ++ "\n", world }

/-- Shows a configuration without its credentials. -/
def checkConfig (around : Surroundings W) (c : Config.Configuration) (world : W) : Outcome W :=
  match c.credentials.resolve around.files with
  | .error e => { ending := .failed e.chain, world }
  | .ok s =>
      let shown := { c with credentials := {} }
      { ending := .done
        output := shown.render ++ "\ncredentials: " ++ s.render ++ "\nconfiguration ok\n"
        world }

/-- Runs the door. The card reader is the first device that is opened. -/
def run (around : Surroundings W) (c : Config.Configuration) (dry : Bool) (world : W) : Outcome W :=
  match c.credentials.resolve around.files with
  | .error e => { ending := .failed e.chain, world }
  | .ok s => match c.queues? with
      | none => { ending := .aborted, world }
      | some outbound =>
          if dry then
            let services := Services.new c s around.transport around.interrupted
            let (ending, world) := dryRun around.limit c services outbound world
            { ending, world }
          else match openPort around.files c.reader.device with
            | .error e => {
                ending := .failed [s!"failed to open card reader on {c.reader.device}", e.message]
                world }

/-- Does a job. -/
def work (around : Surroundings W) (c : Config.Configuration) (job : Job) (world : W) : Outcome W :=
  match job with
  | .run dry => run around c dry world
  | .checkConfig => checkConfig around c world
  | .lookup card => lookup around c card world

end

def usage : String :=
  "RFID door controller\n\nUsage: doorkeeper [OPTIONS] [COMMAND]\n\nCommands:\n" ++
  "  run           Run the door controller (default)\n" ++
  "  check-config  Load and validate the configuration, then print it\n" ++
  "  lookup        Ask the permission service about one card\n" ++
  "  help          Print this message or the help of the given subcommand(s)\n\nOptions:\n" ++
  "  -c, --config <CONFIG>  Configuration file (defaults to " ++ Config.defaultPath ++
  " when present) [env: DOORKEEPER_CONFIG=]\n" ++
  "  -h, --help             Print help\n  -V, --version          Print version\n"

/-- The report on a command line that asks for no job. -/
def UsageError.report : UsageError → Report
  | .displayHelp => { output := usage }
  | .displayVersion => { output := "doorkeeper " ++ version ++ "\n" }
  | .invalidValue => refused "a value is required for '--config <CONFIG>' but none was supplied"
  | .argumentConflict => refused "an argument cannot be used multiple times"
  | .unknownArgument => refused "unexpected argument found"
  | .tooManyValues => refused "unexpected value for an argument found; no more were expected"
  | .invalidSubcommand => refused "unrecognized subcommand"
  | .missingRequiredArgument =>
      refused "the following required arguments were not provided:\n  <CARD>"
where
  refused (message : String) : Report :=
    { errors := "error: " ++ message ++ "\n\nUsage: doorkeeper [OPTIONS] [COMMAND]\n", code := 2 }

/-- The whole program. -/
def execute {W : Type} (around : Surroundings W) (args : List String) (world : W) : Report × W :=
  match Invocation.parse (around.environment.lookup "DOORKEEPER_CONFIG") args with
  | .error e => (e.report, world)
  | .ok invocation =>
      let origin := { path := invocation.config, environment := around.environment }
      match Config.Origin.load around.files origin with
      | .error e => (Ending.report "" (.failed ("failed to load configuration" :: e.chain)), world)
      | .ok c =>
          let outcome := work around c (invocation.job.getD (.run false)) world
          (outcome.ending.report outcome.output, outcome.world)

end DoorControl.Program
