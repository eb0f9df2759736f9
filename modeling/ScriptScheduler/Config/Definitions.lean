import ScriptScheduler.Config.Environment
import ScriptScheduler.Text.Alphanumeric
import ScriptScheduler.Text.Blank

/-!
# Files of variable definitions

A definition is a name, an equals sign and a value, perhaps with the word `export` in front. It
ends with its line, but quotes may hold line ends. Definitions add to the environment what is not
there yet. A value may refer to a variable as `$name`, with letters and numbers for a name, or as
`${name}` with anything for a name; it then stands for the value that the variable has by now.
-/

namespace ScriptScheduler

namespace Environment

/-! ### Lines -/

/-- Where the search for the end of a line stands. -/
inductive LineState where
  | plain
  | afterBlank
  | escape
  | singleQuotes
  | escapeInSingleQuotes
  | doubleQuotes
  | escapeInDoubleQuotes
  deriving DecidableEq

namespace LineState

/-- Outside of quotes, behind a character that is not blank. -/
def outside (c : Char) : LineState :=
  if c = '\\' then .escape
  else if c = '"' then .doubleQuotes
  else if c = '\'' then .singleQuotes
  else .plain

/-- Behind one more character. Of several blanks in a row only every other one counts. -/
def next (c : Char) : LineState → LineState
  | .plain => if isBlank c && c ≠ '\n' && c ≠ '\r' then .afterBlank else outside c
  | .afterBlank => outside c
  | .escape => .plain
  | .singleQuotes =>
    if c = '\\' then .escapeInSingleQuotes else if c = '\'' then .plain else .singleQuotes
  | .escapeInSingleQuotes => .singleQuotes
  | .doubleQuotes =>
    if c = '\\' then .escapeInDoubleQuotes else if c = '"' then .plain else .doubleQuotes
  | .escapeInDoubleQuotes => .doubleQuotes

end LineState

/-- What the search through a piece of a line finds. -/
inductive Found where
  /-- The end of the piece. -/
  | pieceEnd (state : LineState)
  /-- A comment behind a blank, and the characters before it. -/
  | comment (before : List Char)

/-- Searches a piece of a line. `read` holds the characters read so far, the last one first. -/
def search (state : LineState) (read : List Char) : List Char → Found
  | [] => .pieceEnd state
  | c :: rest =>
    if state = .afterBlank && c = '#' then .comment read.reverse
    else search (state.next c) (c :: read) rest

/-- The pieces of a text, each with the line end that it stops at. -/
def withLineEnds : List String → List (List Char)
  | [] => []
  | [last] => if last.isEmpty then [] else [last.toList]
  | piece :: rest => (piece.toList ++ ['\n']) :: withLineEnds rest

/-- A line without the line end that it stops at. -/
def withoutLineEnd (line : List Char) : List Char :=
  match line.reverse with
  | '\n' :: '\x0d' :: rest => rest.reverse
  | '\n' :: rest => rest.reverse
  | _ => line

/-- The lines that pieces make. `begun` is a line that has not ended. A line that never ends is
missing. -/
def joinPieces (begun : List Char) (state : LineState) :
    List (List Char) → List (Option (List Char))
  | [] => if state = .plain then [] else [none]
  | piece :: rest =>
    let line := begun ++ piece
    if (dropBlanks line).head? = some '#' then some [] :: joinPieces [] .plain rest
    else
      match search state [] piece with
      | .comment before => some (begun ++ before) :: joinPieces [] .plain rest
      | .pieceEnd .plain => some (withoutLineEnd line) :: joinPieces [] .plain rest
      | .pieceEnd state => joinPieces line state rest

/-- The lines of a text. -/
def linesOf (text : String) : List (Option (List Char)) :=
  let text := String.ofList (dropMark text.toList)
  joinPieces [] .plain (withLineEnds (text.splitOn "\n"))

/-! ### Values -/

/-- How the next character of a value is read. -/
inductive ValueMode where
  | plain
  | singleQuotes
  | doubleQuotes
  | escape (inQuotes : Bool)
  /-- In a reference; its name so far has the last character first. -/
  | reference (inQuotes : Bool) (name : List Char)
  /-- In a reference with braces. -/
  | bracedReference (inQuotes : Bool) (name : List Char)
  /-- Behind the value; only a comment may follow. -/
  | after

/-- Outside of references, inside or outside of double quotes. -/
def ValueMode.base (inQuotes : Bool) : ValueMode := if inQuotes then .doubleQuotes else .plain

/-- The character that an escape stands for. -/
def escapedChar? (c : Char) : Option Char :=
  if c = 'n' then some '\n'
  else if ['\\', '\'', '"', '$', ' '].contains c then some c
  else none

/-- Puts the value of the variable with a given name behind what has been read. Both texts have
the last character first. A variable that is not there has the empty value. -/
def substitute (env : Environment) (name read : List Char) : List Char :=
  ((env.get? (String.ofList name.reverse)).getD "").toList.reverse ++ read

/-- Reads a value. `read` holds the characters read so far, the last one first. -/
def parseValue (env : Environment) : ValueMode → List Char → List Char → Option (List Char)
  | .plain, read, [] => some read
  | .after, read, [] => some read
  | .escape inQuotes, read, [] => if inQuotes then none else some read
  | .reference inQuotes name, read, [] =>
    if inQuotes then none else some (substitute env name read)
  | .bracedReference _ _, _, [] => none
  | .singleQuotes, _, [] => none
  | .doubleQuotes, _, [] => none
  | .after, read, c :: rest =>
    if c = ' ' || c = '\t' then parseValue env .after read rest
    else if c = '#' then some read
    else none
  | .escape inQuotes, read, c :: rest => do
    let c ← escapedChar? c
    parseValue env (.base inQuotes) (c :: read) rest
  | .singleQuotes, read, c :: rest =>
    if c = '\'' then parseValue env .plain read rest
    else parseValue env .singleQuotes (c :: read) rest
  | .reference inQuotes name, read, c :: rest =>
    if isAlphanumeric c then parseValue env (.reference inQuotes (c :: name)) read rest
    else if c = '\x7b' && name.isEmpty then
      parseValue env (.bracedReference inQuotes []) read rest
    else if c = '$' then
      parseValue env (.reference inQuotes []) (substitute env name read) rest
    else parseValue env (.base inQuotes) (c :: substitute env name read) rest
  | .bracedReference inQuotes name, read, c :: rest =>
    if c = '\x7d' then parseValue env (.base inQuotes) (substitute env name read) rest
    else parseValue env (.bracedReference inQuotes (c :: name)) read rest
  | .doubleQuotes, read, c :: rest =>
    if c = '$' then parseValue env (.reference true []) read rest
    else if c = '"' then parseValue env .plain read rest
    else if c = '\\' then parseValue env (.escape true) read rest
    else parseValue env .doubleQuotes (c :: read) rest
  | .plain, read, c :: rest =>
    if c = '$' then parseValue env (.reference false []) read rest
    else if c = '\'' then parseValue env .singleQuotes read rest
    else if c = '"' then parseValue env .doubleQuotes read rest
    else if c = '\\' then parseValue env (.escape false) read rest
    else if c = ' ' || c = '\t' then parseValue env .after read rest
    else parseValue env .plain (c :: read) rest

/-! ### Definitions -/

/-- A line of a file of definitions. -/
inductive Line where
  | blank
  | definition (name value : String)
  | malformed

/-- Reads a name. -/
def parseName? (text : List Char) : Option (String × List Char) :=
  let name := text.takeWhile fun c => c.isAlphanum || c = '_' || c = '.'
  if name.head?.any fun c => c.isAlpha || c = '_' then
    some (String.ofList name, text.drop name.length)
  else none

/-- Reads what follows the name in a definition. -/
def parseDefinition (env : Environment) (name : String) (text : List Char) : Line :=
  match dropBlanks text with
  | '=' :: rest =>
    match dropBlanks rest with
    | [] => .definition name ""
    | '#' :: _ => .definition name ""
    | rest =>
      match parseValue env .plain [] rest with
      | some value => .definition name (String.ofList value.reverse)
      | none => .malformed
  | _ => .malformed

/-- The word that may stand in front of a definition. It may also be a name itself. -/
def exportWord : String := "export"

/-- Reads a line. -/
def parseLine (env : Environment) (line : List Char) : Line :=
  let text := dropBlanks (dropEndBlanks line)
  match text with
  | [] => .blank
  | '#' :: _ => .blank
  | _ =>
    match parseName? text with
    | none => .malformed
    | some (name, rest) =>
      if name = exportWord && (dropBlanks rest).head? ≠ some '=' then
        match parseName? (dropBlanks rest) with
        | none => .malformed
        | some (name, rest) => parseDefinition env name rest
      else parseDefinition env name rest

/-- Adds definitions to an environment, up to the first malformed line. Variables that are already
there keep their values. -/
def define : List (Option (List Char)) → Environment → Environment
  | [], env => env
  | none :: _, env => env
  | some line :: rest, env =>
    match parseLine env line with
    | .blank => define rest env
    | .malformed => env
    | .definition name value =>
      if (env.get? name).isSome then define rest env else define rest (env ++ [(name, value)])

/-- Adds the definitions in the text of a file to an environment. -/
def extend (env : Environment) (text : String) : Environment := define (linesOf text) env

end Environment

end ScriptScheduler
