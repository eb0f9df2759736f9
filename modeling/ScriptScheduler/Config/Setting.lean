import ScriptScheduler.Config.Basic
import ScriptScheduler.Decimal.Literal
import ScriptScheduler.Decimal.Notation

/-!
# Settings

Settings come in trees. The configuration is read from a tree leniently: a number may be given as
a text or a truth value, and so on. A number must fit the width of the setting that it is for.
-/

namespace ScriptScheduler

/-- A tree of settings. -/
inductive Setting where
  | bool (b : Bool)
  | int (n : Int)
  | float (x : Double)
  | text (s : String)
  | list (items : List Setting)
  | table (members : List (String × Setting))
  /-- A place in a list to which nothing has been assigned. -/
  | missing

namespace Setting

/-! ### Reading leaves -/

/-- The words that stand for a truth value. -/
def truth? (s : String) : Option Bool :=
  let word := s.toLower
  if word = "true" || word = "on" || word = "yes" then some true
  else if word = "false" || word = "off" || word = "no" then some false
  else none

/-- The whole number nearest to a double, a half going away from zero, kept within 64 bits. -/
def natOfDouble (x : Double) : Nat :=
  if x.isNaN then 0
  else if x.isNegative then 0
  else if !x.isFinite then UInt64.size - 1
  else
    let (num, den) := x.ratio
    min ((2 * num + den) / (2 * den)) (UInt64.size - 1)

/-- The natural number that a setting stands for. -/
def toNat? : Setting → Option Nat
  | .bool b => some b.toNat
  | .int n => if 0 ≤ n then some n.toNat else none
  | .float x => some (natOfDouble x)
  | .text s => ((truth? s).map Bool.toNat).or (natOfText? s)
  | .list _ => none
  | .table _ => none
  | .missing => none

/-- The truth value that a setting stands for. -/
def toBool? : Setting → Option Bool
  | .bool b => some b
  | .int n => some (n ≠ 0)
  | .float x => some (!x.isZero)
  | .text s =>
    if s = "1" then some true else if s = "0" then some false else truth? s
  | .list _ => none
  | .table _ => none
  | .missing => none

/-- The text that a setting stands for. -/
def toText? : Setting → Option String
  | .bool b => some (if b then "true" else "false")
  | .int n => some (toString n)
  | .float x => some (x.text .display)
  | .text s => some s
  | .list _ => none
  | .table _ => none
  | .missing => none

/-- The natural number below `bound` that a setting stands for. -/
def toNatBelow? (bound : Nat) (setting : Setting) : Option Nat :=
  setting.toNat?.filter fun n => n < bound

/-- What `read` makes of a setting, or nothing if the setting is missing. -/
def toOption? {α : Type} (read : Setting → Option α) : Setting → Option (Option α)
  | .missing => some none
  | setting => (read setting).map some

/-! ### Reading a configuration -/

/-- The settings found for the fields of a record: by name in a table, by position in a list. -/
def fields? (names : List String) : Setting → Option (List (Option Setting))
  | .table members => some (names.map fun name => lookupMember? name members)
  | .list items =>
    some ((items.map some ++ List.replicate names.length none).take names.length)
  | _ => none

/-- The value of a field that may be left out. -/
def fieldOr {α : Type} (fallback : α) (read : Setting → Option α) : Option Setting → Option α
  | none => some fallback
  | some setting => read setting

end Setting

/-- The settings of the scheduler in a tree. -/
def SchedulerConfig.ofSetting? (setting : Setting) : Option SchedulerConfig := do
  let [queueSize, priority, divide, threshold, maxCycles, profile, minCycles] ←
    setting.fields? names | none
  let base : SchedulerConfig := {}
  some {
    defaultEventQueueSize :=
      ← Setting.fieldOr base.defaultEventQueueSize (Setting.toNatBelow? UInt64.size) queueSize
    defaultPriority :=
      ← Setting.fieldOr base.defaultPriority (Setting.toNatBelow? UInt8.size) priority
    priorityDivide :=
      ← Setting.fieldOr base.priorityDivide (Setting.toNatBelow? UInt32.size) divide
    runawayScriptThreshold :=
      ← Setting.fieldOr base.runawayScriptThreshold (Setting.toNatBelow? UInt64.size) threshold
    maxRunawayCycles :=
      ← Setting.fieldOr base.maxRunawayCycles
        (Setting.toOption? (Setting.toNatBelow? UInt64.size)) maxCycles
    profileScripts := ← Setting.fieldOr base.profileScripts Setting.toBool? profile
    profileMinCycles :=
      ← Setting.fieldOr base.profileMinCycles (Setting.toNatBelow? UInt64.size) minCycles
  }

/-- The settings of the log in a tree. -/
def LoggingConfig.ofSetting? (setting : Setting) : Option LoggingConfig := do
  let [filter] ← setting.fields? names | none
  some ⟨← Setting.fieldOr ({} : LoggingConfig).filter Setting.toText? filter⟩

/-- The settings of the server loop in a tree. -/
def ServerConfig.ofSetting? (setting : Setting) : Option ServerConfig := do
  let [tick, idle] ← setting.fields? names | none
  let base : ServerConfig := {}
  some ⟨← Setting.fieldOr base.tickMs (Setting.toNatBelow? UInt64.size) tick,
    ← Setting.fieldOr base.idleClocks (Setting.toNatBelow? UInt64.size) idle⟩

/-- The configuration in a tree. -/
def Config.ofSetting? (setting : Setting) : Option Config := do
  let [scheduler, logging, server] ← setting.fields? names | none
  some ⟨← Setting.fieldOr {} SchedulerConfig.ofSetting? scheduler,
    ← Setting.fieldOr {} LoggingConfig.ofSetting? logging,
    ← Setting.fieldOr {} ServerConfig.ofSetting? server⟩

end ScriptScheduler
