import ScriptScheduler.Config.Definitions
import ScriptScheduler.Config.Toml.Parser
import ScriptScheduler.Config.Toml.Printer
import ScriptScheduler.Files

/-!
# Loading a configuration

The settings of a TOML file are laid over the built-in defaults, and those of the environment over
both. The file is the one asked for, else the one that the environment names, else the default file
if it exists. A configuration with a setting that must not be zero is refused.
-/

namespace ScriptScheduler

/-- Why there is no configuration. -/
inductive ConfigError where
  | notFound (path : String)
  | unreadable
  | malformed
  | zero (setting : Config.ZeroSetting)
  deriving DecidableEq

/-- The text about a missing configuration. -/
def ConfigError.message : ConfigError → String
  | .notFound path => "Config file not found: " ++ path
  | .unreadable => "Failed to read configuration"
  | .malformed => "Invalid configuration"
  | .zero setting => setting.message

namespace Config

/-- The variable that names the configuration file. -/
def pathVariable : String := "SHARDSCRIPT_CONFIG_PATH"

/-- The configuration file that is read if it exists. -/
def defaultFile : String := "shardscript.toml"

/-- The file of variable definitions that is read if it exists. -/
def definitionsFile : String := ".env"

/-- What is put behind a path at which there is no file. -/
def ending : String := ".toml"

/-- The text of a configuration file: of the file at the path, else of the file at the path with
the ending. -/
def read? (files : Files) (path : String) : Option String :=
  (files.read? path).or ((Files.withEnding? ending path).bind files.read?)

/-- The settings in the text of a configuration file. -/
def settingsOf (text : String) : Except ConfigError Setting :=
  match Toml.parse? (String.ofList (dropMark text.toList)) with
  | some settings => .ok settings
  | none => .error .unreadable

/-- The settings of the file at a path, which must lead somewhere. -/
def namedSettings (files : Files) (path : String) : Except ConfigError Setting :=
  match files.place path, read? files path with
  | .nothing, _ => .error (.notFound path)
  | _, some text => settingsOf text
  | _, none => .error .unreadable

/-- The settings of the file that is asked for, or of the default file. -/
def sourceSettings (files : Files) (path : Option String) : Except ConfigError Setting :=
  match path with
  | some path => namedSettings files path
  | none =>
    match read? files defaultFile with
    | some text => settingsOf text
    | none => .ok (.table [])

/-- The configuration in a tree of settings. -/
def ofSettings (settings : Setting) : Except ConfigError Config :=
  match Config.ofSetting? settings with
  | none => .error .malformed
  | some config =>
    match config.invalid? with
    | some setting => .error (.zero setting)
    | none => .ok config

/-- The environment with the definitions of the file that may be there. -/
def fullEnvironment (files : Files) (env : Environment) : Environment :=
  match files.read? definitionsFile with
  | some text => Environment.extend env text
  | none => env

/-- Loads a configuration from files and the environment. -/
def load (files : Files) (env : Environment) (path : Option String) :
    Except ConfigError Config := do
  let env := fullEnvironment files env
  let settings ← sourceSettings files (path.or (env.get? pathVariable))
  ofSettings (.merge [settings, env.settings])

/-- Loads a configuration from files alone. -/
def loadFiles (files : Files) (path : Option String) : Except ConfigError Config := do
  let settings ← sourceSettings files path
  ofSettings (.merge [settings])

end Config

end ScriptScheduler
