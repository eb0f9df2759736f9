import ScriptScheduler.Decimal.Notation
import ScriptScheduler.Json.Basic

/-!
# Writing JSON text

The text is compact: no blanks, members in the order of the tree. In strings only the quote, the
backslash and control characters are escaped.
-/

namespace ScriptScheduler

namespace Json

/-- A control character as an escape: a letter where there is one, else four hexadecimal
digits. -/
def controlEscape (c : Char) : String :=
  if c = '\x08' then "\\b"
  else if c = '\x0c' then "\\f"
  else if c = '\n' then "\\n"
  else if c = '\r' then "\\r"
  else if c = '\t' then "\\t"
  else
    let digits := Nat.toDigits 16 c.toNat
    "\\u" ++ String.ofList (List.replicate (4 - digits.length) '0' ++ digits)

/-- A character as it stands inside a string. -/
def escaped (c : Char) : String :=
  if c = '"' then "\\\""
  else if c = '\\' then "\\\\"
  else if c.toNat < 32 then controlEscape c
  else c.toString

/-- The text of a string. -/
def quoted (s : String) : String :=
  "\"" ++ String.join (s.toList.map escaped) ++ "\""

mutual

/-- The pieces of the compact text of a tree. -/
def pieces : Json → List String
  | .null => ["null"]
  | .bool b => [if b then "true" else "false"]
  | .int n => [toString n]
  | .double x => [if x.isFinite then x.text .json else "null"]
  | .str s => [quoted s]
  | .arr items => "[" :: itemPieces items
  | .obj members => "\x7b" :: memberPieces members

/-- The items of an array and its closing bracket. -/
def itemPieces : List Json → List String
  | [] => ["]"]
  | item :: rest =>
    item.pieces ++ (if rest.isEmpty then [] else [","]) ++ itemPieces rest

/-- The members of an object and its closing bracket. -/
def memberPieces : List (String × Json) → List String
  | [] => ["\x7d"]
  | (key, value) :: rest =>
    quoted key :: ":" :: value.pieces ++ (if rest.isEmpty then [] else [","]) ++ memberPieces rest

end

/-- The compact text of a tree. -/
def print (json : Json) : String := String.join json.pieces

end Json

end ScriptScheduler
