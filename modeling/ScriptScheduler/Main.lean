import ScriptScheduler.CommandLine.Log
import ScriptScheduler.CommandLine.Run

/-!
# The program

Reads the environment and the files that the arguments ask for, prints what the command prints,
and idles between the ticks of the server loop.
-/

namespace ScriptScheduler

namespace CommandLine

/-! ### Input -/

/-- The variables that can hold a setting. -/
def settingVariables : List String :=
  let names (group : String) (keys : List String) : List String :=
    keys.map fun key => ("shardscript__" ++ group ++ "__" ++ key).toUpper
  names "scheduler" SchedulerConfig.names ++ names "logging" LoggingConfig.names ++
    names "server" ServerConfig.names

/-- The variables in a listing of the environment. -/
def variablesOf (listing : String) : Environment :=
  (listing.splitOn "\x00").filterMap fun entry =>
    match entry.splitOn "=" with
    | name :: first :: rest => some (name, "=".intercalate (first :: rest))
    | _ => none

/-- The variables with given names. -/
def variablesNamed (names : List String) : IO Environment := do
  let mut env : Environment := []
  for name in names do
    match ← IO.getEnv name with
    | some value => env := env ++ [(name, value)]
    | none => pure ()
  return env

/-- The variables of the environment: all of them where the system lists them, otherwise those that
can hold a setting. -/
def readEnvironment : IO Environment := do
  try
    let listing ← IO.FS.readFile "/proc/self/environ"
    return variablesOf listing
  catch _ => variablesNamed (Config.pathVariable :: settingVariables)

/-- The files among some paths that can be read. A directory is shown by an entry in it. -/
def readFiles (paths : List String) : IO Files := do
  let mut files : Files := []
  for path in paths do
    try
      let content ← IO.FS.readFile path
      files := files ++ [(path, content)]
    catch _ =>
      try
        let _ ← IO.FS.realPath path
        files := files ++ [(path ++ "/entry", "")]
      catch _ => pure ()
  return files

/-- The files that a configuration may come from. -/
def configFiles (env : Environment) (path : Option String) : IO Files := do
  let definitions ← readFiles [Config.definitionsFile]
  let named := path.or ((Config.fullEnvironment definitions env).get? Config.pathVariable)
  let source := named.getD Config.defaultFile
  let sources ← readFiles (source :: (Files.withEnding? Config.ending source).toList)
  return definitions ++ sources

/-! ### Output -/

/-- How many instructions a script that keeps running is waited for in one turn. -/
def patience : Nat := 1000000000000000

/-- Shows the notices among some effects. -/
def showLog (filter : String) (effects : List Effect) : IO Unit := do
  for line in logLines filter effects do
    IO.println line

/-- Runs turns until the server stops. -/
partial def drive (config : Config) (filter : String) (maxTicks : Option Nat) (server : Server) :
    IO Server := do
  match server.turn config.server maxTicks patience with
  | none => drive config filter maxTicks server
  | some ran =>
    showLog filter ran.effects
    match ran.value with
    | (.stop, server) => return server
    | (.idle ms, server) =>
      IO.sleep (min ms (UInt32.size - 1)).toUInt32
      drive config filter maxTicks (server.advance ms)

/-- Runs program files to the end and prints the exit records. -/
def runCommand (config : Config) (filter : String) (names : List String)
    (maxTicks : Option Nat) : IO (Except Failure String) := do
  let files ← readFiles names
  let launched := Scheduler.launchFiles (programTexts files names) (.empty config.scheduler none)
  showLog filter launched.effects
  match launched.value with
  | .error cause => return .error (.launch cause)
  | .ok scheduler =>
    let server ← drive config filter maxTicks { scheduler := scheduler }
    let ended := server.finish
    showLog filter ended.effects
    return .ok (exitLines ended.value)

/-- What a command prints. -/
def perform (arguments : List String) : IO (Except Failure String) := do
  let env ← readEnvironment
  let path := (parse arguments).toOption.bind Arguments.config
  match setup (← configFiles env path) env arguments with
  | .error failure => return .error failure
  | .ok (arguments, config) =>
    match arguments.command with
    | .config => return configText config
    | .run names maxTicks =>
      runCommand config (arguments.log.getD config.logging.filter) names maxTicks

end CommandLine

end ScriptScheduler

/-- Runs the program. -/
def main (arguments : List String) : IO UInt32 := do
  match ← ScriptScheduler.CommandLine.perform arguments with
  | .ok text =>
    IO.print text
    return 0
  | .error failure =>
    if failure.exitCode = 0 then IO.println failure.message
    else IO.eprintln ("Error: " ++ failure.message)
    return failure.exitCode.toUInt32
