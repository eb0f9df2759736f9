import ScriptScheduler.CommandLine.Arguments
import ScriptScheduler.Config.Sources
import ScriptScheduler.Json.Printer
import ScriptScheduler.Server

/-!
# What the commands do

`config` prints the configuration as TOML. `run` runs program files and prints one line of JSON
per exit record. A command that fails prints nothing; its exit code says what kind of failure it
was.
-/

namespace ScriptScheduler

namespace CommandLine

/-- Why a command fails. -/
inductive Failure where
  | usage (cause : UsageError)
  | config (cause : ConfigError)
  /-- The configuration has no TOML text. -/
  | noToml
  | launch (cause : LaunchError)

/-- The exit code of a failure. Asking for help is not a failure of the program. -/
def Failure.exitCode : Failure → Nat
  | .usage .displayHelp => 0
  | .usage _ => 2
  | .config _ | .noToml | .launch _ => 1

/-- The text about a configuration that cannot be written as TOML. -/
def noTomlMessage : String := "Failed to serialize configuration"

/-- The text about a launch that failed, with the refusal behind it. -/
def launchMessage (cause : LaunchError) : String :=
  match cause.cause? with
  | some refusal => cause.message ++ ": " ++ refusal.message
  | none => cause.message

/-- The text about a failure. -/
def Failure.message : Failure → String
  | .usage .displayHelp => "Usage: shardscript [OPTIONS] <COMMAND>"
  | .usage _ => "invalid arguments"
  | .config cause => "Failed to load configuration: " ++ cause.message
  | .noToml => noTomlMessage
  | .launch cause => launchMessage cause

/-- What `config` prints. -/
def configText (config : Config) : Except Failure String :=
  match config.toToml? with
  | some text => .ok text
  | none => .error .noToml

/-- What `run` prints: one line per exit record. -/
def exitLines (exits : List ScriptExit) : String :=
  String.join (exits.map fun exit => exit.toJson.print ++ "\n")

/-- The arguments and the configuration they ask for. -/
def setup (files : Files) (env : Environment) (arguments : List String) :
    Except Failure (Arguments × Config) :=
  match parse arguments with
  | .error cause => .error (.usage cause)
  | .ok arguments =>
    match Config.load files env arguments.config with
    | .error cause => .error (.config cause)
    | .ok config => .ok (arguments, config)

/-- Program files with their texts. -/
def programTexts (files : Files) (names : List String) : List (String × Option String) :=
  names.map fun name => (name, files.read? name)

/-- Runs program files. -/
def runPrograms (config : Config) (files : Files) (names : List String)
    (maxTicks : Option Nat) (patience : Nat) : Option (Logged (Except Failure String)) :=
  (runFiles config (programTexts files names) maxTicks patience).map fun ran =>
    match ran.value with
    | .ok report => ⟨.ok (exitLines report.exits), ran.entries⟩
    | .error cause => ⟨.error (.launch cause), ran.entries⟩

/-- What the program prints, given the files it can see, its environment and its arguments.
Without a result it has not come to an end within the patience. -/
def execute (files : Files) (env : Environment) (patience : Nat)
    (arguments : List String) : Option (Logged (Except Failure String)) :=
  match setup files env arguments with
  | .error failure => some (pure (.error failure))
  | .ok (arguments, config) =>
    match arguments.command with
    | .config => some (pure (configText config))
    | .run names maxTicks => runPrograms config files names maxTicks patience

end CommandLine

end ScriptScheduler
