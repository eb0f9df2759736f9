import ScriptScheduler.Thread

/-!
# Settings

The settings of the scheduler, of the log and of the server loop, with their defaults, and the
check that a configuration passes before it is used.
-/

namespace ScriptScheduler

/-- The settings of the scheduler. -/
structure SchedulerConfig where
  /-- The bound of the event queue of a new bytecode script. -/
  defaultEventQueueSize : Nat := Thread.defaultCapacity
  defaultPriority : Nat := Thread.defaultPriority
  /-- A slice is `priority / priorityDivide` instructions long, but at least one. -/
  priorityDivide : Nat := 1
  /-- How many cycles a script runs without blocking before a warning. -/
  runawayScriptThreshold : Nat := 5000
  /-- The runaway cycles after which a script that is not critical is terminated. -/
  maxRunawayCycles : Option Nat := none
  /-- Whether exits are noted with their cycles. -/
  profileScripts : Bool := false
  /-- The least number of cycles that is worth a note. -/
  profileMinCycles : Nat := 500
  deriving DecidableEq

/-- The names of the settings, in their order. -/
def SchedulerConfig.names : List String :=
  ["default_event_queue_size", "default_priority", "priority_divide", "runaway_script_threshold",
    "max_runaway_cycles", "profile_scripts", "profile_min_cycles"]

/-- The length of a slice at a given priority. -/
def SchedulerConfig.sliceFor (config : SchedulerConfig) (priority : Nat) : Nat :=
  max 1 (priority / max 1 config.priorityDivide)

/-- The settings of the log. -/
structure LoggingConfig where
  /-- Which notices are shown. -/
  filter : String := "info"
  deriving DecidableEq

/-- The names of the settings, in their order. -/
def LoggingConfig.names : List String := ["filter"]

/-- The settings of the server loop. -/
structure ServerConfig where
  /-- How far the clock moves at a tick. -/
  tickMs : Nat := 10
  /-- The longest single idle wait. -/
  idleClocks : Nat := 1000
  deriving DecidableEq

/-- The names of the settings, in their order. -/
def ServerConfig.names : List String := ["tick_ms", "idle_clocks"]

/-- A configuration. -/
structure Config where
  scheduler : SchedulerConfig := {}
  logging : LoggingConfig := {}
  server : ServerConfig := {}
  deriving DecidableEq

namespace Config

/-- The names of the groups of settings, in their order. -/
def names : List String := ["scheduler", "logging", "server"]

/-- A setting that must not be zero. -/
inductive ZeroSetting where
  | eventQueueSize
  | runawayThreshold
  | priorityDivide
  | tick
  deriving DecidableEq

/-- The text about a setting that must not be zero. -/
def ZeroSetting.message : ZeroSetting → String
  | .eventQueueSize => "scheduler.default_event_queue_size must be at least 1"
  | .runawayThreshold => "scheduler.runaway_script_threshold must be at least 1"
  | .priorityDivide => "scheduler.priority_divide must be at least 1"
  | .tick => "server.tick_ms must be at least 1"

/-- The first setting of the configuration that is zero and must not be. -/
def invalid? (config : Config) : Option ZeroSetting :=
  if config.scheduler.defaultEventQueueSize = 0 then some .eventQueueSize
  else if config.scheduler.runawayScriptThreshold = 0 then some .runawayThreshold
  else if config.scheduler.priorityDivide = 0 then some .priorityDivide
  else if config.server.tickMs = 0 then some .tick
  else none

end Config

end ScriptScheduler
