import ScriptScheduler.Config.Basic

/-!
# Settings as JSON

A group of settings is a record. Settings that are left out keep their defaults, also at the end
of an array.
-/

namespace ScriptScheduler

namespace SchedulerConfig

/-- The settings as JSON. -/
def toJson (config : SchedulerConfig) : Json :=
  .obj (names.zip
    [.int config.defaultEventQueueSize, .int config.defaultPriority, .int config.priorityDivide,
      .int config.runawayScriptThreshold,
      .ofOption (fun (n : Nat) => .int n) config.maxRunawayCycles,
      .bool config.profileScripts, .int config.profileMinCycles])

/-- The settings that a tree stands for. -/
def ofJson? (json : Json) : Option SchedulerConfig := do
  let [queueSize, priority, divide, threshold, maxCycles, profile, minCycles] ← json.fields? names
    | none
  let base : SchedulerConfig := {}
  some {
    defaultEventQueueSize :=
      ← Json.fieldOr base.defaultEventQueueSize (Json.toNat? UInt64.size) queueSize
    defaultPriority := ← Json.fieldOr base.defaultPriority (Json.toNat? UInt8.size) priority
    priorityDivide := ← Json.fieldOr base.priorityDivide (Json.toNat? UInt32.size) divide
    runawayScriptThreshold :=
      ← Json.fieldOr base.runawayScriptThreshold (Json.toNat? UInt64.size) threshold
    maxRunawayCycles :=
      ← Json.fieldOr base.maxRunawayCycles (Json.toOption? (Json.toNat? UInt64.size)) maxCycles
    profileScripts := ← Json.fieldOr base.profileScripts Json.toBool? profile
    profileMinCycles := ← Json.fieldOr base.profileMinCycles (Json.toNat? UInt64.size) minCycles
  }

end SchedulerConfig

namespace LoggingConfig

/-- The settings as JSON. -/
def toJson (config : LoggingConfig) : Json := .obj (names.zip [.str config.filter])

/-- The settings that a tree stands for. -/
def ofJson? (json : Json) : Option LoggingConfig := do
  let [filter] ← json.fields? names | none
  some ⟨← Json.fieldOr ({} : LoggingConfig).filter Json.toStr? filter⟩

end LoggingConfig

namespace ServerConfig

/-- The settings as JSON. -/
def toJson (config : ServerConfig) : Json :=
  .obj (names.zip [.int config.tickMs, .int config.idleClocks])

/-- The settings that a tree stands for. -/
def ofJson? (json : Json) : Option ServerConfig := do
  let [tick, idle] ← json.fields? names | none
  let base : ServerConfig := {}
  some ⟨← Json.fieldOr base.tickMs (Json.toNat? UInt64.size) tick,
    ← Json.fieldOr base.idleClocks (Json.toNat? UInt64.size) idle⟩

end ServerConfig

namespace Config

/-- A configuration as JSON. -/
def toJson (config : Config) : Json :=
  .obj (names.zip [config.scheduler.toJson, config.logging.toJson, config.server.toJson])

/-- The configuration that a tree stands for. -/
def ofJson? (json : Json) : Option Config := do
  let [scheduler, logging, server] ← json.fields? names | none
  some ⟨← Json.fieldOr {} SchedulerConfig.ofJson? scheduler,
    ← Json.fieldOr {} LoggingConfig.ofJson? logging,
    ← Json.fieldOr {} ServerConfig.ofJson? server⟩

end Config

end ScriptScheduler
