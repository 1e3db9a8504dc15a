/- The command line: options, a job, and what belongs to the job. -/

namespace DoorControl.Program

/-- What the program is asked to do. -/
inductive Job
  /-- Runs the door, with in-memory devices on a dry run. -/
  | run (dry : Bool)
  | checkConfig
  | lookup (card : String)
  deriving DecidableEq, Repr

structure Invocation where
  /-- The configuration file that was asked for. -/
  config : Option String := none
  job : Option Job := none
  deriving DecidableEq, Repr

/-- Why a command line asks for nothing that can be done. -/
inductive UsageError
  | invalidValue
  | argumentConflict
  | unknownArgument
  | tooManyValues
  | invalidSubcommand
  | missingRequiredArgument
  | displayHelp
  | displayVersion
  deriving DecidableEq, Repr

inductive Flag
  | config
  | dryRun
  | help
  | version
  deriving DecidableEq, Repr

/-- The part of a command line that an argument belongs to: before the job, or after its name. -/
inductive Scope
  | root
  | run
  | checkConfig
  | lookup
  deriving DecidableEq, Repr

namespace Scope

/-- The names of the jobs. -/
def ofName? : String → Option Scope
  | "run" => some .run
  | "check-config" => some .checkConfig
  | "lookup" => some .lookup
  | _ => none

def short? (scope : Scope) : Char → Option Flag
  | 'c' => some .config
  | 'h' => some .help
  | 'V' => if scope = .root then some .version else none
  | _ => none

def long? (scope : Scope) : String → Option Flag
  | "config" => some .config
  | "help" => some .help
  | "version" => if scope = .root then some .version else none
  | "dry-run" => if scope = .run then some .dryRun else none
  | _ => none

end Scope

/-- A part of a command line as far as it has been read. -/
structure Level where
  scope : Scope
  /-- The file named by the last option, which has not been looked at yet; `some none` while the option
  waits for its value. -/
  pending : Option (Option String) := none
  config : Option String := none
  dryRun : Bool := false
  card : Option String := none
  /-- Whether options are over. -/
  verbatim : Bool := false
  deriving DecidableEq, Repr

namespace Level

/-- Takes over the value of an option that may be given once. -/
def take (value : String) (l : Level) : Except UsageError Level :=
  if l.config.isSome then .error .argumentConflict
  else if value.isEmpty then .error .invalidValue
  else .ok { l with config := some value }

/-- Looks at the pending value. -/
def settle (l : Level) : Except UsageError Level :=
  match l.pending with
  | none => .ok l
  | some none => .error .invalidValue
  | some (some value) => take value { l with pending := none }

/-- A flag without a value. -/
def raise (flag : Flag) (l : Level) : Except UsageError Level := do
  let l ← l.settle
  match flag with
  | .config => return { l with pending := some none }
  | .dryRun => if l.dryRun then throw .argumentConflict else return { l with dryRun := true }
  | .help => throw .displayHelp
  | .version => throw .displayVersion

/-- An option with its value attached. -/
def attach (value : String) (l : Level) : Except UsageError Level := do
  take value (← l.settle)

/-- Flags of one letter behind a single dash. -/
def shorts : List Char → Level → Except UsageError Level
  | [], l => .ok l
  | c :: rest, l => match l.scope.short? c with
      | none => .error .unknownArgument
      | some .config => match rest with
          | [] => l.raise .config
          | '=' :: value => l.attach (String.ofList value)
          | value => l.attach (String.ofList value)
      | some flag => do shorts rest (← l.raise flag)

/-- A flag behind two dashes. -/
def long (text : List Char) (l : Level) : Except UsageError Level :=
  let name := String.ofList (text.takeWhile (· ≠ '='))
  match l.scope.long? name, text.dropWhile (· ≠ '=') with
  | none, _ => .error .unknownArgument
  | some flag, [] => l.raise flag
  | some .config, _ :: value => l.attach (String.ofList value)
  | some _, _ :: _ => .error .tooManyValues

/-- An argument that is no option. -/
def plain (arg : String) (l : Level) : Except UsageError Level :=
  match l.scope, l.card with
  | .root, _ =>
      if l.verbatim && (arg = "help" || (Scope.ofName? arg).isSome) then .error .unknownArgument
      else .error .invalidSubcommand
  | .lookup, none => do return { ← l.settle with card := some arg }
  | _, _ => .error .unknownArgument

/-- Whether the next argument is the value of an option unless it looks like one. -/
def awaits (l : Level) : Bool := l.pending = some none && !l.verbatim

/-- One more argument. -/
def step (l : Level) (arg : String) : Except UsageError Level :=
  match l.verbatim, arg.toList with
  | false, ['-', '-'] => .ok { l with verbatim := true }
  | false, '-' :: '-' :: text => l.long text
  | false, '-' :: c :: rest => l.shorts (c :: rest)
  | _, _ => if l.awaits then .ok { l with pending := some (some arg) } else l.plain arg

/-- The end of the arguments. A file named by the environment counts where none was asked for. -/
def close (fallback : Option String) (l : Level) : Except UsageError Level := do
  let l ← l.settle
  if l.config.isNone && fallback = some "" then throw .invalidValue
  if l.scope = .lookup && l.card.isNone then throw .missingRequiredArgument
  return l

def job? (l : Level) : Option Job :=
  match l.scope, l.card with
  | .root, _ => none
  | .run, _ => some (.run l.dryRun)
  | .checkConfig, _ => some .checkConfig
  | .lookup, card => card.map .lookup

end Level

/-- What asking for help on a topic comes to. -/
def helpOn : List String → UsageError
  | [] => .displayHelp
  | [topic] =>
      if topic = "help" || (Scope.ofName? topic).isSome then .displayHelp else .invalidSubcommand
  | _ => .invalidSubcommand

/-- Reads arguments up to the name of the job, and with it the rest. The file that was asked for behind
the job comes first. -/
def parseFrom (fallback : Option String) (l : Level) : List String → Except UsageError Invocation
  | [] => do
      let l ← l.close fallback
      return { config := l.config.or fallback }
  | arg :: rest => do
      let named := !l.verbatim && !l.awaits
      if named && arg = "help" then throw (helpOn rest)
      match if named then Scope.ofName? arg else none with
      | some scope =>
          let inner ← rest.foldlM Level.step { scope }
          let inner ← inner.close fallback
          let outer ← l.close fallback
          return { config := (inner.config.or outer.config).or fallback, job := inner.job? }
      | none => parseFrom fallback (← l.step arg) rest

/-- Reads a command line; `fallback` is the configuration file named by the environment. -/
def Invocation.parse (fallback : Option String) (args : List String) : Except UsageError Invocation :=
  parseFrom fallback { scope := .root } args

end DoorControl.Program
