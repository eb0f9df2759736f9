import ScriptScheduler.Config.Toml.Moment
import ScriptScheduler.Config.Toml.Table
import ScriptScheduler.Config.Toml.Text
import ScriptScheduler.Text.Blank

/-!
# Reading TOML

A TOML text is a list of lines: a header opens a table, a key with a value adds to the open table.
Arrays, tables in braces and paths of keys may be at most `Toml.maxDepth` deep.
-/

namespace ScriptScheduler

namespace Toml

/-! ### Numbers -/

/-- Whether single underscores stand only between digits of a text. -/
def wellSpaced (isDigit : Char → Bool) : List Char → Bool
  | [] => false
  | [c] => isDigit c
  | c :: '_' :: rest => isDigit c && wellSpaced isDigit rest
  | c :: rest => isDigit c && wellSpaced isDigit rest

/-- A text without its underscores. -/
def withoutSpacing (text : List Char) : List Char := text.filter (· ≠ '_')

/-- The number that digits of a base write, with underscores between them. -/
def natInBase? (base : Nat) (text : List Char) : Option Nat := do
  let isDigit (c : Char) : Bool := (hexValue? c).any fun d => d < base
  if wellSpaced isDigit text then
    let digits ← (withoutSpacing text).mapM hexValue?
    some (digits.foldl (fun n d => base * n + d) 0)
  else none

/-- A setting for a number that has to fit in 64 bits with a sign. -/
def intSetting? (n : Int) : Option Setting :=
  if (signedWord? n).isSome then some (.int n) else none

/-- Whether decimal digits have no needless zero in front. -/
def noLeadingZero (text : List Char) : Bool :=
  match text with
  | '0' :: _ :: _ => false
  | _ => true

/-- A text without its sign, and whether the sign is a minus. -/
def splitSign : List Char → Bool × List Char
  | '-' :: rest => (true, rest)
  | '+' :: rest => (false, rest)
  | text => (false, text)

/-- A whole number. -/
def parseInt? (text : List Char) : Option Setting :=
  match text with
  | '0' :: 'x' :: rest => (natInBase? 16 rest).bind fun n => intSetting? n
  | '0' :: 'o' :: rest => (natInBase? 8 rest).bind fun n => intSetting? n
  | '0' :: 'b' :: rest => (natInBase? 2 rest).bind fun n => intSetting? n
  | _ =>
    let (negative, digits) := splitSign text
    if noLeadingZero digits then
      (natInBase? 10 digits).bind fun n => intSetting? (if negative then -n else n)
    else none

/-- A number with a point, an exponent or a name. A positive number may not be too large for a
double; a negative one becomes infinite. -/
def parseFloat? (text : List Char) : Option Setting :=
  let (_, rest) := splitSign text
  let word := String.ofList rest
  let isSpaced (c : Char) : Bool := c.isDigit || c = '_'
  let whole := rest.takeWhile isSpaced
  let (places, exponent) := match rest.drop whole.length with
    | '.' :: after =>
      (some (after.takeWhile isSpaced), after.dropWhile isSpaced)
    | after => (none, after)
  let exponentGood := match exponent with
    | [] => places.isSome
    | (c : Char) :: rest => (c = 'e' || c = 'E') && wellSpaced Char.isDigit (splitSign rest).2
  let good := wellSpaced Char.isDigit whole && noLeadingZero whole &&
    (places.map (wellSpaced Char.isDigit)).getD true && exponentGood
  if word = "inf" || word = "nan" then (Double.ofText? (String.ofList text)).map .float
  else if good then
    let fits (x : Double) : Bool := x.isFinite || x.isNegative
    ((Double.ofText? (String.ofList (withoutSpacing text))).filter fits).map .float
  else none

/-! ### Words -/

/-- A character of a number or of a truth value. -/
def isWordChar (c : Char) : Bool :=
  c.isAlphanum || c = '_' || c = '-' || c = '+' || c = '.' || c = ':'

/-- The value that a word stands for. -/
def wordValue? (word : List Char) : Option Setting :=
  if word = "true".toList then some (.bool true)
  else if word = "false".toList then some (.bool false)
  else (parseInt? word).or (parseFloat? word)

/-- Reads a moment, a number or a truth value. -/
def parseWord (text : List Char) : Option (Setting × List Char) :=
  match parseMoment? text with
  | some (moment, rest) => some (.text moment.text, rest)
  | none =>
    let word := text.takeWhile isWordChar
    (wordValue? word).map fun value => (value, text.drop word.length)

/-! ### Values -/

mutual

/-- Reads a value. Each step uses up one unit of `fuel`; `depth` brackets may still be opened. -/
def parseValue : Nat → Nat → List Char → Option (Setting × List Char)
  | 0, _, _ => none
  | fuel + 1, depth, text =>
    match text with
    | '"' :: _ => (parseString text).map fun (s, rest) => (.text s, rest)
    | '\'' :: _ => (parseString text).map fun (s, rest) => (.text s, rest)
    | '[' :: rest =>
      if depth = 0 then none
      else (parseItems fuel (depth - 1) [] rest).map fun (items, rest) => (.list items, rest)
    | '\x7b' :: rest =>
      if depth = 0 then none
      else match skipBlanks rest with
        | '\x7d' :: rest => some (.table [], rest)
        | rest =>
          (parseInline fuel (depth - 1) [] rest).map fun (members, rest) => (tableOf members, rest)
    | _ => parseWord text

/-- Reads the items of an array up to its closing bracket. -/
def parseItems : Nat → Nat → List Setting → List Char → Option (List Setting × List Char)
  | 0, _, _, _ => none
  | fuel + 1, depth, read, text =>
    match skipLines text.length text with
    | ']' :: rest => some (read.reverse, rest)
    | text => do
      let (item, rest) ← parseValue fuel depth text
      match skipLines rest.length rest with
      | ',' :: rest => parseItems fuel depth (item :: read) rest
      | ']' :: rest => some ((item :: read).reverse, rest)
      | _ => none

/-- Reads the members of a table in braces up to the closing brace. -/
def parseInline : Nat → Nat → Members → List Char → Option (Members × List Char)
  | 0, _, _, _ => none
  | fuel + 1, depth, read, text => do
    let (keys, rest) ← parsePath text
    match rest with
    | '=' :: rest => do
      let (value, rest) ← parseValue fuel depth (skipBlanks rest)
      let read ← insertValue? keys value read
      match skipBlanks rest with
      | ',' :: rest => parseInline fuel depth read rest
      | '\x7d' :: rest => some (read, rest)
      | _ => none
    | _ => none

end

/-! ### Documents -/

/-- Reads a header after its first bracket: the path, whether it stands for a list of tables, and
the text after the line. -/
def parseHeader (text : List Char) : Option (List String × Bool × List Char) := do
  let (listed, text) := match text with
    | '[' :: rest => (true, rest)
    | _ => (false, text)
  let (path, rest) ← parsePath text
  match listed, rest with
  | true, ']' :: ']' :: rest => (finishLine? rest).map fun rest => (path, true, rest)
  | false, ']' :: rest => (finishLine? rest).map fun rest => (path, false, rest)
  | _, _ => none

/-- Opens the table that a header names. -/
def openHeader? (path : List String) (listed : Bool) (members : Members) : Option Members := do
  let key ← path.getLast?
  withTable? (if listed then openListed? key else openTable? key) path.dropLast members

/-- Reads lines. `current` is the path of the open table. -/
def parseLines : Nat → List String → Members → List Char → Option Members
  | 0, _, _, _ => none
  | fuel + 1, current, members, text =>
    match skipLines text.length text with
    | [] => some members
    | '[' :: rest => do
      let (path, listed, rest) ← parseHeader rest
      let members ← openHeader? path listed members
      parseLines fuel path members rest
    | text => do
      let (keys, rest) ← parsePath text
      match rest with
      | '=' :: rest => do
        let rest := skipBlanks rest
        let (value, rest) ← parseValue (2 * rest.length + 2) maxDepth rest
        let rest ← finishLine? rest
        let members ← withTable? (insertValue? keys value) current members
        parseLines fuel current members rest
      | _ => none

/-- The settings in a TOML text. -/
def parse? (text : String) : Option Setting := do
  let chars := dropMark text.toList
  let members ← parseLines (chars.length + 1) [] [] chars
  some (tableOf members)

end Toml

end ScriptScheduler
