import ScriptScheduler.Effect

/-!
# The log

Notices are shown one per line, if they are grave enough for the filter. A filter names the least
grave level that is shown; it may stand behind the name of a component and an equals sign.
-/

namespace ScriptScheduler

namespace Level

/-- The name of a level. -/
def name : Level → String
  | .info => "INFO"
  | .warning => "WARN"
  | .error => "ERROR"

/-- How grave a level is. -/
def gravity : Level → Nat
  | .info => 1
  | .warning => 2
  | .error => 3

end Level

namespace CommandLine

/-- The gravity from which on a filter shows notices. A filter that names no level shows
errors. -/
def leastGravity (filter : String) : Nat :=
  let word := ((filter.splitOn "=").getLast?.getD "").toLower
  if word = "off" then 4
  else if word = "warn" then Level.warning.gravity
  else if ["info", "debug", "trace"].contains word then Level.info.gravity
  else Level.error.gravity

/-- Whether a filter shows a level. -/
def shows (filter : String) (level : Level) : Bool := leastGravity filter ≤ level.gravity

/-- A notice as a line. -/
def noticeLine (notice : Notice) : String :=
  let details := notice.details.map fun (key, value) => key ++ "=" ++ value
  " ".intercalate (notice.level.name :: notice.message :: details)

/-- The lines of the log that a filter shows. -/
def logLines (filter : String) (effects : List Effect) : List String :=
  effects.filterMap fun
    | .notice notice => if shows filter notice.level then some (noticeLine notice) else none
    | _ => none

end CommandLine

end ScriptScheduler
