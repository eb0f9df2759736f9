import ScriptScheduler.Config.Setting

/-!
# Layers of settings

Settings come from several sources: a file and the environment. A source gives a table, whose
keys are paths: names with dots between them, and positions in brackets for the items of lists.
`Setting.merge` assigns the settings of each source in turn. A table that is assigned is merged
key by key with what is already there; everything else replaces it. Names are compared without
regard to case.
-/

namespace ScriptScheduler

/-! ### Names -/

/-- A letter without its case. The Kelvin sign is the one letter outside of ASCII whose small form
can stand in the name of a setting. -/
def lowerCaseLetter (c : Char) : Char := if c = '\u212A' then 'k' else c.toLower

/-- A name without its case, as far as the names of settings can tell. -/
def lowerCaseName (name : String) : String := String.ofList (name.toList.map lowerCaseLetter)

namespace Setting

/-! ### Paths -/

/-- A step on a path. -/
inductive Step where
  /-- To the member of a table. -/
  | member (name : String)
  /-- To the item of a list. A negative position counts from the end. -/
  | item (position : Int)

/-- A character of a name in a path. -/
def isNameChar (c : Char) : Bool := c.isAlphanum || c = ' ' || c = '_' || c = '-'

/-- Reads a name. -/
def parseName? (chars : List Char) : Option (String × List Char) :=
  let name := chars.takeWhile isNameChar
  if name.isEmpty then none else some (String.ofList name, chars.drop name.length)

/-- Drops blanks. -/
def skipBlanks (chars : List Char) : List Char := chars.dropWhile fun c => c = ' ' || c = '\t'

/-- Reads a position and the closing bracket after it. -/
def parsePosition? (chars : List Char) : Option (Int × List Char) :=
  let (negative, unsigned) := match skipBlanks chars with
    | '-' :: rest => (true, rest)
    | rest => (false, rest)
  let digits := unsigned.takeWhile Char.isDigit
  let n : Int := natOfDigits digits
  let position := if negative then -n else n
  match skipBlanks (unsigned.drop digits.length) with
  | ']' :: rest =>
    if digits.isEmpty || (signedWord? position).isNone then none else some (position, rest)
  | _ => none

/-- Reads the steps after the first name, up to the end of the text. -/
def parseSteps? : Nat → List Char → Option (List Step)
  | 0, _ => none
  | fuel + 1, chars =>
    match chars with
    | [] => some []
    | '.' :: rest => do
      let (name, rest) ← parseName? rest
      let steps ← parseSteps? fuel rest
      some (.member name :: steps)
    | '[' :: rest => do
      let (position, rest) ← parsePosition? rest
      let steps ← parseSteps? fuel rest
      some (.item position :: steps)
    | _ => none

/-- The path that a key writes, if it writes one. -/
def parsePath? (key : String) : Option (List Step) := do
  let (name, rest) ← parseName? key.toList
  let steps ← parseSteps? (rest.length + 1) rest
  some (.member name :: steps)

/-- The path of a key. A key that writes no path is a single name. -/
def pathOf (key : String) : List Step := (parsePath? key).getD [.member key]

/-! ### Assigning -/

/-- The members of a table; other settings have none. -/
def members : Setting → List (String × Setting)
  | .table members => members
  | _ => []

/-- The items of a list; other settings have none. -/
def items : Setting → List Setting
  | .list items => items
  | _ => []

mutual

/-- What is at a place once a setting is assigned to it, given what was there. -/
def laidOver (below : Option Setting) : Setting → Setting
  | .table upper => layMembers (below.getD (.table [])) upper
  | other => other

/-- Lays members over a setting, which becomes a table if there are any. -/
def layMembers (below : Setting) : List (String × Setting) → Setting
  | [] => below
  | (key, value) :: rest =>
    let name := lowerCaseName key
    let value := value.laidOver (lookupMember? name below.members)
    layMembers (.table (insertMember name value below.members)) rest

end

/-- The items, with the places that a position needs, and the index of the position. Places are made
behind the items, or in front of them for a position that counts from the end. -/
def reach (position : Int) (items : List Setting) : List Setting × Nat :=
  if 0 ≤ position then
    let index := position.toNat
    (items ++ List.replicate (index + 1 - items.length) Setting.missing, index)
  else
    let back := position.natAbs
    (List.replicate (back - items.length) Setting.missing ++ items, items.length - back)

/-- What is at a place once a setting is assigned at the end of a path from there, given what was
there. A step to a member makes the place a table, a step to an item makes it a list. -/
def assigned (value : Setting) : List Step → Option Setting → Setting
  | [], below => value.laidOver below
  | .member name :: steps, below =>
    let inside := (below.map members).getD []
    let name := lowerCaseName name
    .table (insertMember name (assigned value steps (lookupMember? name inside)) inside)
  | .item position :: steps, below =>
    let (inside, index) := reach position ((below.map items).getD [])
    -- An item is replaced as a whole if the path ends there.
    let old := if steps.isEmpty then none else inside[index]?
    .list (inside.set index (assigned value steps old))

/-- A table with the members of a source assigned to it. -/
def assignAll (settings source : Setting) : Setting :=
  source.members.foldl (fun settings (key, value) =>
    assigned value (pathOf key) (some settings)) settings

/-- The settings of several sources, later ones laid over earlier ones. The result is once more
taken for a source, because the small form of a key may write a path where the key does not. -/
def merge (sources : List Setting) : Setting :=
  (Setting.table []).assignAll (sources.foldl assignAll (.table []))

end Setting

end ScriptScheduler
