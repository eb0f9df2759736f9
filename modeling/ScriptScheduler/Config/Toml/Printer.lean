import ScriptScheduler.Config.Basic

/-!
# Writing a configuration as TOML

One table per group of settings. A setting without a value is left out. TOML has no whole numbers
of 64 bits without a sign, so a configuration with a larger number has no TOML text.
-/

namespace ScriptScheduler

namespace Toml

/-! ### Strings -/

/-- Control characters that only an escape can write. -/
def needsEscape (c : Char) : Bool :=
  (c.toNat < 32 && c ≠ '\t' && c ≠ '\n') || c.toNat = 127

/-- The length of the longest run of a character in a text. -/
def longestRun (c : Char) (text : List Char) : Nat :=
  (text.foldl (fun (best, run) d => if d = c then (max best (run + 1), run + 1) else (best, 0))
    (0, 0)).1

/-- A character other than the quote inside a string with escapes. -/
def escaped (multiline : Bool) (c : Char) : String :=
  if c = '\x08' then "\\b"
  else if c = '\t' then "\\t"
  else if c = '\n' then (if multiline then "\n" else "\\n")
  else if c = '\x0c' then "\\f"
  else if c = '\r' then "\\r"
  else if c = '\\' then "\\\\"
  else if needsEscape c then
    let digits := (Nat.toDigits 16 c.toNat).map Char.toUpper
    "\\u" ++ String.ofList (List.replicate (4 - digits.length) '0' ++ digits)
  else c.toString

/-- The characters of a string with escapes. In a string over several lines a quote is escaped
only if it would be the third in a row; `run` of them stand right before the text. -/
def escapedChars (multiline : Bool) : Nat → List Char → List String
  | _, [] => []
  | run, c :: rest =>
    if c ≠ '"' then escaped multiline c :: escapedChars multiline 0 rest
    else if multiline && run < 2 then "\"" :: escapedChars multiline (run + 1) rest
    else "\\\"" :: escapedChars multiline 0 rest

/-- A text in double quotes. -/
def inDoubleQuotes (text : List Char) : String :=
  "\"" ++ String.join (escapedChars false 0 text) ++ "\""

/-- What separates three opening quotes from the text: a line end, if the text has lines. -/
def openingBreak (text : List Char) : String := if text.contains '\n' then "\n" else ""

/-- A text in three double quotes. -/
def inTripleDoubleQuotes (text : List Char) : String :=
  "\"\"\"" ++ openingBreak text ++ String.join (escapedChars true 0 text) ++ "\"\"\""

/-- A text in single quotes, without escapes. -/
def inSingleQuotes (text : List Char) : String := "'" ++ String.ofList text ++ "'"

/-- A text in three single quotes, without escapes. -/
def inTripleSingleQuotes (text : List Char) : String :=
  "'''" ++ openingBreak text ++ String.ofList text ++ "'''"

/-- The text of a string, with as few escapes as its characters allow. -/
def quoted (s : String) : String :=
  let text := s.toList
  let plain := !text.any needsEscape
  let unescaped := plain && !text.contains '\\'
  let lines := text.contains '\n'
  let doubles := longestRun '"' text
  let singles := longestRun '\'' text
  if unescaped && doubles = 0 && !lines then inDoubleQuotes text
  else if plain && singles = 0 && !lines then inSingleQuotes text
  else if unescaped && doubles ≤ 2 then inTripleDoubleQuotes text
  else if plain && singles ≤ 2 then inTripleSingleQuotes text
  else if lines then inTripleDoubleQuotes text
  else inDoubleQuotes text

/-! ### Tables -/

/-- A line with a natural number, if it is not too large. -/
def natLine? (key : String) (n : Nat) : Option String :=
  if (signedWord? n).isSome then some (key ++ " = " ++ toString n ++ "\n") else none

/-- A line with a truth value. -/
def boolLine (key : String) (b : Bool) : String :=
  key ++ " = " ++ (if b then "true" else "false") ++ "\n"

/-- The settings of the scheduler. -/
def schedulerTable? (config : SchedulerConfig) : Option String := do
  let queueSize ← natLine? "default_event_queue_size" config.defaultEventQueueSize
  let priority ← natLine? "default_priority" config.defaultPriority
  let divide ← natLine? "priority_divide" config.priorityDivide
  let threshold ← natLine? "runaway_script_threshold" config.runawayScriptThreshold
  let maxCycles ← match config.maxRunawayCycles with
    | none => some ""
    | some n => natLine? "max_runaway_cycles" n
  let profile := boolLine "profile_scripts" config.profileScripts
  let minCycles ← natLine? "profile_min_cycles" config.profileMinCycles
  some ("[scheduler]\n" ++ queueSize ++ priority ++ divide ++ threshold ++ maxCycles ++
    profile ++ minCycles)

/-- The settings of the log. -/
def loggingTable (config : LoggingConfig) : String :=
  "[logging]\nfilter = " ++ quoted config.filter ++ "\n"

/-- The settings of the server loop. -/
def serverTable? (config : ServerConfig) : Option String := do
  let tick ← natLine? "tick_ms" config.tickMs
  let idle ← natLine? "idle_clocks" config.idleClocks
  some ("[server]\n" ++ tick ++ idle)

end Toml

/-- The TOML text of a configuration. -/
def Config.toToml? (config : Config) : Option String := do
  let scheduler ← Toml.schedulerTable? config.scheduler
  let server ← Toml.serverTable? config.server
  some (scheduler ++ "\n" ++ Toml.loggingTable config.logging ++ "\n" ++ server)

end ScriptScheduler
