import ScriptScheduler.Decimal.Notation
import ScriptScheduler.Text.Unprintable
import ScriptScheduler.Value.Basic

/-!
# Two texts of a value

The display text is what a script prints. The inspection text shows how a value is built, with a
word for each kind of value and strings in quotes; messages about a wrong operand use it.
-/

namespace ScriptScheduler

/-- Joins texts with a comma and a blank. -/
def commaSeparated (texts : List String) : String := ", ".intercalate texts

/-! ### Strings in quotes -/

/-- A character as it stands inside an inspected string. -/
def inspectedChar (c : Char) : String :=
  if c = '"' then "\\\""
  else if c = '\\' then "\\\\"
  else if c = '\n' then "\\n"
  else if c = '\r' then "\\r"
  else if c = '\t' then "\\t"
  else if c.toNat = 0 then "\\0"
  else if isUnprintable c then "\\u\x7b" ++ hexDigits c.toNat ++ "\x7d"
  else c.toString

/-- The inspection text of a string. -/
def inspectedString (s : String) : String :=
  "\"" ++ String.join (s.toList.map inspectedChar) ++ "\""

namespace Val

mutual

/-- The display text of a value. -/
def display : Val → String
  | .uninit => "<uninitialized object>"
  | .long n => toString n.toInt
  | .double x => x.text .display
  | .bool b => if b then "true" else "false"
  | .str s => s
  | .array items => "\x7b " ++ commaSeparated (displayItems items) ++ " \x7d"
  | .struct members => "struct\x7b " ++ commaSeparated (displayMembers members) ++ " \x7d"
  | .entity id => "<entity " ++ id.text ++ ">"
  | .error info => "error\x7b " ++ info.code ++ ": " ++ info.message ++ " \x7d"

/-- The display texts of items. -/
def displayItems : List Val → List String
  | [] => []
  | item :: rest => item.display :: displayItems rest

/-- The display texts of members. -/
def displayMembers : List (String × Val) → List String
  | [] => []
  | (key, value) :: rest => (key ++ " = " ++ value.display) :: displayMembers rest

end

mutual

/-- The inspection text of a value. -/
def inspect : Val → String
  | .uninit => "Uninit"
  | .long n => "Long(" ++ toString n.toInt ++ ")"
  | .double x => "Double(" ++ x.text .inspect ++ ")"
  | .bool b => "Bool(" ++ (if b then "true" else "false") ++ ")"
  | .str s => "Str(" ++ inspectedString s ++ ")"
  | .array items => "Array([" ++ commaSeparated (inspectItems items) ++ "])"
  | .struct members => "Struct(\x7b" ++ commaSeparated (inspectMembers members) ++ "\x7d)"
  | .entity id => "Entity(EntityId(" ++ toString id.number.toNat ++ "))"
  | .error info =>
    "Error(ErrorInfo \x7b code: " ++ inspectedString info.code ++ ", message: " ++
      inspectedString info.message ++ " \x7d)"

/-- The inspection texts of items. -/
def inspectItems : List Val → List String
  | [] => []
  | item :: rest => item.inspect :: inspectItems rest

/-- The inspection texts of members. -/
def inspectMembers : List (String × Val) → List String
  | [] => []
  | (key, value) :: rest => (inspectedString key ++ ": " ++ value.inspect) :: inspectMembers rest

end

/-- The inspection text of a value that may be missing. -/
def inspectOption : Option Val → String
  | none => "None"
  | some value => "Some(" ++ value.inspect ++ ")"

end Val

end ScriptScheduler
