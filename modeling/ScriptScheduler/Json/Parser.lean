import ScriptScheduler.Decimal.Literal
import ScriptScheduler.Json.Basic

/-!
# Reading JSON text

Blanks around tokens are allowed, nothing may follow the value, and strings hold no raw control
characters. Three kinds of parts are well formed but unreadable: a number that is too large for a
double, a string with half of a surrogate pair, and a part inside more than 127 open brackets. An
object with an unreadable key is unreadable as a whole. `Json.scan?` leaves such parts in the tree,
`Json.parse?` refuses the text.

A number without a fraction or an exponent is a whole number if it fits in 64 bits; `-0` and
all others are doubles. A double is read in two steps. Its leading digits are taken as a whole
number as long as that number fits in 64 bits; the digits after them only move the point. The
whole number is then scaled by a power of ten with one rounding.
-/

namespace ScriptScheduler

namespace Json

/-! ### Blanks and digits -/

/-- The four characters that may stand between tokens. -/
def isBlank (c : Char) : Bool := c = ' ' || c = '\n' || c = '\t' || c = '\r'

/-- Drops blanks. -/
def skipBlanks (text : List Char) : List Char := text.dropWhile isBlank

/-- The value of a hexadecimal digit. -/
def hexValue? (c : Char) : Option Nat :=
  if c.isDigit then some (decimalDigit c)
  else if 'a' ≤ c && c ≤ 'f' then some (c.toNat - 'a'.toNat + 10)
  else if 'A' ≤ c && c ≤ 'F' then some (c.toNat - 'A'.toNat + 10)
  else none

/-- The digits at the front of a text, as values, and the text after them. -/
def takeDigits (text : List Char) : List Nat × List Char :=
  ((text.takeWhile Char.isDigit).map decimalDigit, text.dropWhile Char.isDigit)

/-! ### Numbers -/

/-- Appends digits to a whole number as long as it fits in 64 bits. The second part counts the
digits that are left. -/
def absorb (significand : Nat) : List Nat → Nat × Nat
  | [] => (significand, 0)
  | d :: rest =>
    if 10 * significand + d < UInt64.size then absorb (10 * significand + d) rest
    else (significand, rest.length + 1)

/-- `significand * 10 ^ exponent` as a double: the significand is rounded, then multiplied or
divided by a power of ten and rounded again. Powers of ten above `10 ^ 308` are no doubles; below
`10 ^ -308` the division is done in two steps. There is none if the result is infinite. -/
def scaled? (significand : Nat) (exponent : Int) : Option Double :=
  let x := Double.ofNat significand
  let power (k : Nat) := Double.ofNat (tenTo k)
  if significand = 0 then some x
  else if 0 ≤ exponent then
    if exponent ≤ 308 then
      let y := x.mul (power exponent.toNat)
      if y.isFinite then some y else none
    else none
  else
    let down := (-exponent).toNat
    if down ≤ 308 then some (x.div (power down))
    else if down ≤ 616 then some ((x.div (power 308)).div (power (down - 308)))
    else some (Double.ofNat 0)

/-- The number with the given sign and digits. `fraction` and `exponent` are there only if they
are written. A number that is too large for a double is unreadable. -/
def number (negative : Bool) (whole : List Nat) (fraction : Option (List Nat))
    (exponent : Option Int) : Json :=
  let (n, excess) := absorb 0 whole
  if fraction.isNone && exponent.isNone && excess = 0 && (!negative || (0 < n && n ≤ twoTo 63)) then
    .int (if negative then -(n : Int) else n)
  else
    let places := fraction.getD []
    let (significand, unused) := absorb n places
    let point : Int := (excess : Int) - (places.length - unused : Nat)
    match scaled? significand (point + exponent.getD 0) with
    | some x => .double (if negative then x.neg else x)
    | none => unreadable

/-- The number that a list of digits writes. -/
def ofDigits (digits : List Nat) : Nat := digits.foldl (fun n d => 10 * n + d) 0

/-- Reads an exponent after its letter. -/
def parseExponent (text : List Char) : Option (Int × List Char) :=
  let (negative, text) := match text with
    | '+' :: rest => (false, rest)
    | '-' :: rest => (true, rest)
    | _ => (false, text)
  let (digits, rest) := takeDigits text
  if digits.isEmpty then none
  else some (if negative then -(ofDigits digits : Int) else ofDigits digits, rest)

/-- Reads a number after its sign. -/
def parseNumber (negative : Bool) (text : List Char) : Option (Json × List Char) := do
  let (whole, rest) := takeDigits text
  if whole.isEmpty || (whole.head? = some 0 && 1 < whole.length) then none
  else
    let (fraction, rest) ← match rest with
      | '.' :: rest =>
        let (places, rest) := takeDigits rest
        if places.isEmpty then none else some (some places, rest)
      | _ => some (none, rest)
    let (exponent, rest) ← match rest with
      | 'e' :: rest => (parseExponent rest).map fun (e, rest) => (some e, rest)
      | 'E' :: rest => (parseExponent rest).map fun (e, rest) => (some e, rest)
      | _ => some (none, rest)
    some (number negative whole fraction exponent, rest)

/-! ### Strings -/

/-- The number that four hexadecimal digits write. -/
def parseUnit : List Char → Option (Nat × List Char)
  | a :: b :: c :: d :: rest => do
    let a ← hexValue? a
    let b ← hexValue? b
    let c ← hexValue? c
    let d ← hexValue? d
    some (((a * 16 + b) * 16 + c) * 16 + d, rest)
  | _ => none

/-- The character that an escape with a letter stands for. -/
def letterEscape? (c : Char) : Option Char :=
  match c with
  | '"' => some '"'
  | '\\' => some '\\'
  | '/' => some '/'
  | 'b' => some '\x08'
  | 'f' => some '\x0c'
  | 'n' => some '\n'
  | 'r' => some '\r'
  | 't' => some '\t'
  | _ => none

/-- The character that two code units of a surrogate pair stand for. -/
def pairedChar (high low : Nat) : Char :=
  Char.ofNat (0x10000 + (high - 0xD800) * 0x400 + (low - 0xDC00))

/-- Reads the character of an escape whose digits follow: one code unit, or a pair of surrogates.
Half of a pair is no character. -/
def parseCodePoint (text : List Char) : Option (Option Char × List Char) := do
  let (unit, rest) ← parseUnit text
  if 0xDC00 ≤ unit && unit ≤ 0xDFFF then some (none, rest)
  else if 0xD800 ≤ unit && unit ≤ 0xDBFF then
    match rest with
    | '\\' :: 'u' :: after =>
      let (low, after) ← parseUnit after
      if 0xDC00 ≤ low && low ≤ 0xDFFF then some (some (pairedChar unit low), after)
      else some (none, rest)
    | _ => some (none, rest)
  else some (some (Char.ofNat unit), rest)

/-- Reads the rest of a string after its opening quote. `read` holds the characters read so far,
the last one first; it is missing once the string is unreadable. -/
def parseString : Nat → Option (List Char) → List Char → Option (Option String × List Char)
  | 0, _, _ => none
  | fuel + 1, read, text =>
    match text with
    | [] => none
    | '"' :: rest => some (read.map fun read => String.ofList read.reverse, rest)
    | '\\' :: 'u' :: rest => do
      let (c, rest) ← parseCodePoint rest
      parseString fuel (read.bind fun read => c.map fun c => c :: read) rest
    | '\\' :: c :: rest => do
      let c ← letterEscape? c
      parseString fuel (read.map fun read => c :: read) rest
    | c :: rest =>
      if c.toNat < 32 || c = '\\' then none
      else parseString fuel (read.map fun read => c :: read) rest

/-- Reads the key of a member and the colon after it. -/
def parseKey (text : List Char) : Option (Option String × List Char) :=
  match skipBlanks text with
  | '"' :: rest => do
    let (key, rest) ← parseString (rest.length + 1) (some []) rest
    match skipBlanks rest with
    | ':' :: rest => some (key, rest)
    | _ => none
  | _ => none

/-! ### Values -/

/-- The text after a given word at its front. -/
def dropWord? (word text : List Char) : Option (List Char) :=
  if word.isPrefixOf text then some (text.drop word.length) else none

/-- What stands inside brackets, if `depth` of them could still be opened. -/
def bracketed (depth : Nat) (inside : Json) : Json := if depth = 0 then unreadable else inside

/-- An object, if its keys are readable. -/
def ofReadMembers (members : Option (List (String × Json))) : Json :=
  (members.map Json.obj).getD unreadable

mutual

/-- Reads a value. Each step uses up one unit of `fuel`; `depth` brackets may still be opened. -/
def parseValue : Nat → Nat → List Char → Option (Json × List Char)
  | 0, _, _ => none
  | fuel + 1, depth, text =>
    match skipBlanks text with
    | 'n' :: rest => (dropWord? "ull".toList rest).map fun rest => (.null, rest)
    | 't' :: rest => (dropWord? "rue".toList rest).map fun rest => (.bool true, rest)
    | 'f' :: rest => (dropWord? "alse".toList rest).map fun rest => (.bool false, rest)
    | '"' :: rest =>
      (parseString (rest.length + 1) (some []) rest).map fun (s, rest) =>
        ((s.map Json.str).getD unreadable, rest)
    | '-' :: rest => parseNumber true rest
    | '[' :: rest =>
      match skipBlanks rest with
      | ']' :: rest => some (bracketed depth (.arr []), rest)
      | rest =>
        (parseItems fuel (depth - 1) [] rest).map fun (items, rest) =>
          (bracketed depth (.arr items), rest)
    | '\x7b' :: rest =>
      match skipBlanks rest with
      | '\x7d' :: rest => some (bracketed depth (.obj []), rest)
      | rest =>
        (parseMembers fuel (depth - 1) (some []) rest).map fun (members, rest) =>
          (bracketed depth (ofReadMembers members), rest)
    | rest => parseNumber false rest

/-- Reads the items of an array up to its closing bracket. -/
def parseItems : Nat → Nat → List Json → List Char → Option (List Json × List Char)
  | 0, _, _, _ => none
  | fuel + 1, depth, read, text => do
    let (item, rest) ← parseValue fuel depth text
    match skipBlanks rest with
    | ',' :: rest => parseItems fuel depth (item :: read) rest
    | ']' :: rest => some ((item :: read).reverse, rest)
    | _ => none

/-- Reads the members of an object up to its closing bracket. The members are missing once a key
is unreadable. -/
def parseMembers : Nat → Nat → Option (List (String × Json)) → List Char →
    Option (Option (List (String × Json)) × List Char)
  | 0, _, _, _ => none
  | fuel + 1, depth, read, text => do
    let (key, rest) ← parseKey text
    let (value, rest) ← parseValue fuel depth rest
    let read := read.bind fun read => key.map fun key => (key, value) :: read
    match skipBlanks rest with
    | ',' :: rest => parseMembers fuel depth read rest
    | '\x7d' :: rest => some (read.map List.reverse, rest)
    | _ => none

end

/-- How many brackets may be open at once. -/
def maxDepth : Nat := 127

/-- The tree of a JSON text, which may have unreadable parts. -/
def scan? (text : String) : Option Json :=
  let chars := text.toList
  match parseValue (2 * chars.length + 2) maxDepth chars with
  | some (json, rest) => if (skipBlanks rest).isEmpty then some json else none
  | none => none

/-- The tree of a JSON text all of which is readable. -/
def parse? (text : String) : Option Json := (scan? text).filter isReadable

end Json

end ScriptScheduler
