import ScriptScheduler.Decimal.Literal

/-!
# The small parts of a TOML text

Blanks and comments, strings in their four forms, and keys. A string without escapes stands in
single quotes, one with escapes in double quotes; three quotes let it run over several lines.
-/

namespace ScriptScheduler

namespace Toml

/-! ### Blanks, comments and line ends -/

/-- A blank inside a line. -/
def isBlank (c : Char) : Bool := c = ' ' || c = '\t'

/-- Drops blanks. -/
def skipBlanks (text : List Char) : List Char := text.dropWhile isBlank

/-- A character that may stand in a comment or a literal string. -/
def isVisible (c : Char) : Bool := c = '\t' || (32 ≤ c.toNat && c.toNat ≠ 127)

/-- Drops a comment. -/
def skipComment : List Char → List Char
  | '#' :: rest => rest.dropWhile isVisible
  | text => text

/-- The text after a line end. -/
def dropLineEnd? : List Char → Option (List Char)
  | '\n' :: rest => some rest
  | '\x0d' :: '\n' :: rest => some rest
  | _ => none

/-- The text after blanks, a comment and the end of the line or of the text. -/
def finishLine? (text : List Char) : Option (List Char) :=
  match skipComment (skipBlanks text) with
  | [] => some []
  | rest => dropLineEnd? rest

/-- Drops blanks, comments and line ends. -/
def skipLines : Nat → List Char → List Char
  | 0, text => text
  | fuel + 1, text =>
    let rest := skipComment (skipBlanks text)
    match dropLineEnd? rest with
    | some rest => skipLines fuel rest
    | none => rest

/-! ### Strings -/

/-- The value of a hexadecimal digit. -/
def hexValue? (c : Char) : Option Nat :=
  if c.isDigit then some (decimalDigit c)
  else if 'a' ≤ c && c ≤ 'f' then some (c.toNat - 'a'.toNat + 10)
  else if 'A' ≤ c && c ≤ 'F' then some (c.toNat - 'A'.toNat + 10)
  else none

/-- The character with the code point that the first `count` hexadecimal digits write. -/
def parseCodePoint? (count : Nat) (text : List Char) : Option (Char × List Char) := do
  let digits ← (text.take count).mapM hexValue?
  if digits.length < count then none
  else
    let n := digits.foldl (fun n d => 16 * n + d) 0
    if n.isValidChar then some (Char.ofNat n, text.drop count) else none

/-- The character of an escape after its backslash. -/
def parseEscape? : List Char → Option (Char × List Char)
  | 'b' :: rest => some ('\x08', rest)
  | 't' :: rest => some ('\t', rest)
  | 'n' :: rest => some ('\n', rest)
  | 'f' :: rest => some ('\x0c', rest)
  | 'r' :: rest => some ('\x0d', rest)
  | '"' :: rest => some ('"', rest)
  | '\\' :: rest => some ('\\', rest)
  | 'u' :: rest => parseCodePoint? 4 rest
  | 'U' :: rest => parseCodePoint? 8 rest
  | _ => none

/-- Reads a string with escapes after its opening quote. -/
def parseBasic : Nat → List Char → List Char → Option (String × List Char)
  | 0, _, _ => none
  | fuel + 1, read, text =>
    match text with
    | '"' :: rest => some (String.ofList read.reverse, rest)
    | '\\' :: rest => do
      let (c, rest) ← parseEscape? rest
      parseBasic fuel (c :: read) rest
    | c :: rest => if isVisible c then parseBasic fuel (c :: read) rest else none
    | [] => none

/-- Reads a string without escapes after its opening quote. -/
def parseLiteral (text : List Char) : Option (String × List Char) :=
  let body := text.takeWhile fun c => isVisible c && c ≠ '\''
  match text.drop body.length with
  | '\'' :: rest => some (String.ofList body, rest)
  | _ => none

/-- Drops the line end directly after three opening quotes. -/
def skipFirstLineEnd (text : List Char) : List Char := (dropLineEnd? text).getD text

/-- Up to two quotes that belong to a string that ends with three more. -/
def closingQuotes (quote : Char) (text : List Char) : Option (List Char × List Char) :=
  let run := text.takeWhile (· = quote)
  if run.length < 3 then none
  else
    let inside := min 2 (run.length - 3)
    some (List.replicate inside quote, text.drop (inside + 3))

/-- Drops blanks and line ends after a backslash at the end of a line. -/
def skipFolded : Nat → List Char → List Char
  | 0, text => text
  | fuel + 1, text =>
    match dropLineEnd? (skipBlanks text) with
    | some rest => skipFolded fuel rest
    | none => skipBlanks text

/-- Reads a string over several lines after its three opening quotes. -/
def parseMultiline (quote : Char) : Nat → List Char → List Char → Option (String × List Char)
  | 0, _, _ => none
  | fuel + 1, read, text =>
    match closingQuotes quote text with
    | some (inside, rest) => some (String.ofList (read.reverse ++ inside), rest)
    | none =>
      match text with
      | [] => none
      | '\\' :: rest =>
        if quote = '\'' then parseMultiline quote fuel ('\\' :: read) rest
        else if (dropLineEnd? (skipBlanks rest)).isSome then
          parseMultiline quote fuel read (skipFolded (rest.length + 1) rest)
        else do
          let (c, rest) ← parseEscape? rest
          parseMultiline quote fuel (c :: read) rest
      | c :: rest =>
        match dropLineEnd? (c :: rest) with
        | some rest => parseMultiline quote fuel ('\n' :: read) rest
        | none => if isVisible c then parseMultiline quote fuel (c :: read) rest else none

/-- Reads a string. -/
def parseString (text : List Char) : Option (String × List Char) :=
  match text with
  | '"' :: '"' :: '"' :: rest =>
    parseMultiline '"' (rest.length + 1) [] (skipFirstLineEnd rest)
  | '\'' :: '\'' :: '\'' :: rest =>
    parseMultiline '\'' (rest.length + 1) [] (skipFirstLineEnd rest)
  | '"' :: rest => parseBasic (rest.length + 1) [] rest
  | '\'' :: rest => parseLiteral rest
  | _ => none

/-! ### Keys -/

/-- A character of a key without quotes. -/
def isKeyChar (c : Char) : Bool := c.isAlphanum || c = '_' || c = '-'

/-- Reads a single key. -/
def parseSimpleKey (text : List Char) : Option (String × List Char) :=
  match text with
  | '"' :: rest => parseBasic (rest.length + 1) [] rest
  | '\'' :: rest => parseLiteral rest
  | _ =>
    let key := text.takeWhile isKeyChar
    if key.isEmpty then none else some (String.ofList key, text.drop key.length)

/-- How deep tables and arrays may lie inside one another. -/
def maxDepth : Nat := 79

/-- Reads keys with dots between them, and the blanks after them. -/
def parseKeys : Nat → List Char → Option (List String × List Char)
  | 0, _ => none
  | fuel + 1, text => do
    let (key, rest) ← parseSimpleKey (skipBlanks text)
    match skipBlanks rest with
    | '.' :: rest => do
      let (keys, rest) ← parseKeys fuel rest
      some (key :: keys, rest)
    | rest => some ([key], rest)

/-- Reads a path of keys, and the blanks after it. -/
def parsePath (text : List Char) : Option (List String × List Char) :=
  (parseKeys (text.length + 1) text).filter fun read => read.1.length ≤ maxDepth

end Toml

end ScriptScheduler
