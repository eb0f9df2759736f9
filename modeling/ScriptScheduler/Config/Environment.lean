import ScriptScheduler.Config.Layers

/-!
# Settings in the environment

A variable whose name starts with `SHARDSCRIPT__` is a setting; double underscores separate the
names on its path. Its value is taken for a truth value or a number if it looks like one.
-/

namespace ScriptScheduler

/-- Variables and their values. -/
abbrev Environment := List (String × String)

namespace Environment

/-! ### Values -/

/-- The decimal integer of 64 bits that a text writes. -/
def intOfText? (s : String) : Option Int :=
  let (negative, digits) := match s.toList with
    | '-' :: rest => (true, rest)
    | '+' :: rest => (false, rest)
    | all => (false, all)
  if digits.isEmpty || !digits.all Char.isDigit then none
  else
    let n : Int := natOfDigits digits
    let n := if negative then -n else n
    if (signedWord? n).isSome then some n else none

/-- A value as the truth value or number that it looks like, else as a text. -/
def toSetting (value : String) : Setting :=
  let word := value.toLower
  if word = "true" then .bool true
  else if word = "false" then .bool false
  else
    match intOfText? value, Double.ofText? value with
    | some n, _ => .int n
    | none, some x => .float x
    | none, none => .text value

/-! ### Names -/

/-- The value of a variable. -/
def get? (env : Environment) (name : String) : Option String := lookupMember? name env

/-- What the names of settings start with, in lower case. -/
def settingMark : String := "shardscript__"

/-- The key of the setting that a variable names. -/
def settingKey? (name : String) : Option String :=
  let name := lowerCaseName name
  if name.startsWith settingMark then
    some (".".intercalate (((name.drop settingMark.length).toString).splitOn "__"))
  else none

/-- The settings in the environment. -/
def settings (env : Environment) : Setting :=
  .table (env.filterMap fun (name, value) =>
    (settingKey? name).map fun key => (key, toSetting value))

end Environment

end ScriptScheduler
