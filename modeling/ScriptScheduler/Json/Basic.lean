import ScriptScheduler.Decimal.Binary

/-!
# JSON values

`Json` is the tree of a JSON text. An object keeps its members in the order of the text, also
members with the same key, because some readers refuse a repeated key. The plain form of a tree
has each key once, with its last value, and sorts the keys by code point.

A text may hold parts that are well formed but stand for nothing: a number beyond the doubles, a
string with half of a surrogate pair, a part too deep inside brackets. In a tree such a part is
`Json.unreadable`. No reader takes it, but a reader that passes over the part does not mind.
-/

namespace ScriptScheduler

/-- A JSON value. Whole numbers within 64 bits are `int`, all other numbers are doubles. -/
inductive Json where
  | null
  | bool (b : Bool)
  | int (n : Int)
  | double (x : Double)
  | str (s : String)
  | arr (items : List Json)
  | obj (members : List (String × Json))

/-! ### Lists of members sorted by key -/

/-- Members with their keys in increasing order, each key once. -/
def SortedByKey {α : Type} (members : List (String × α)) : Prop :=
  (members.map Prod.fst).Pairwise (· < ·)

/-- Puts a member at its place in a list sorted by key. A member with the same key is replaced. -/
def insertMember {α : Type} (key : String) (value : α) :
    List (String × α) → List (String × α)
  | [] => [(key, value)]
  | (k, v) :: rest =>
    if key < k then (key, value) :: (k, v) :: rest
    else if key = k then (key, value) :: rest
    else (k, v) :: insertMember key value rest

/-- Sorts members by key; of members with the same key the last one stays. -/
def sortMembers {α : Type} (members : List (String × α)) : List (String × α) :=
  members.foldl (fun sorted member => insertMember member.1 member.2 sorted) []

/-- The value at a key in a list of members. -/
def lookupMember? {α : Type} (key : String) (members : List (String × α)) : Option α :=
  (members.find? fun member => member.1 = key).map Prod.snd

namespace Json

/-! ### The plain form -/

mutual

/-- Sorts the members of every object and keeps the last of those with the same key. -/
def plain : Json → Json
  | .arr items => .arr (plainItems items)
  | .obj members => .obj (sortMembers (plainMembers members))
  | other => other

/-- The plain form of each item. -/
def plainItems : List Json → List Json
  | [] => []
  | item :: rest => item.plain :: plainItems rest

/-- The plain form of each member's value. -/
def plainMembers : List (String × Json) → List (String × Json)
  | [] => []
  | (key, value) :: rest => (key, value.plain) :: plainMembers rest

end

/-! ### Unreadable parts -/

/-- What stands in a tree for a part of the text that has no value. It is an infinite number, which
no text can write. -/
def unreadable : Json := .double (.ofMagnitude false Double.infinite)

mutual

/-- Whether no part of the tree is unreadable. -/
def isReadable : Json → Bool
  | .double x => x.isFinite
  | .arr items => areReadable items
  | .obj members => membersReadable members
  | .null => true
  | .bool _ => true
  | .int _ => true
  | .str _ => true

/-- Whether no part of the items is unreadable. -/
def areReadable : List Json → Bool
  | [] => true
  | item :: rest => item.isReadable && areReadable rest

/-- Whether no part of the members' values is unreadable. -/
def membersReadable : List (String × Json) → Bool
  | [] => true
  | (_, value) :: rest => value.isReadable && membersReadable rest

end

/-- The value at a key of an object. -/
def get? (key : String) : Json → Option Json
  | .obj members => lookupMember? key members
  | _ => none

/-! ### Reading leaves -/

/-- The boolean that a tree is. -/
def toBool? : Json → Option Bool
  | .bool b => some b
  | _ => none

/-- The text that a tree is. -/
def toStr? : Json → Option String
  | .str s => some s
  | _ => none

/-- The natural number below `bound` that a tree is. -/
def toNat? (bound : Nat) : Json → Option Nat
  | .int n => if 0 ≤ n ∧ n < bound then some n.toNat else none
  | _ => none

/-- The 64-bit natural number that a tree is. -/
def toUInt64? (json : Json) : Option UInt64 := (json.toNat? UInt64.size).map UInt64.ofNat

/-- The signed 64-bit integer that a tree is. -/
def toInt64? : Json → Option Int64
  | .int n => signedWord? n
  | _ => none

/-- The double that a tree is; whole numbers are converted. -/
def toDouble? : Json → Option Double
  | .int n => some (Double.ofInt n)
  | .double x => if x.isFinite then some x else none
  | _ => none

/-- An absent value for `null`, otherwise what `read` makes of the tree. -/
def toOption? {α : Type} (read : Json → Option α) : Json → Option (Option α)
  | .null => some none
  | json => (read json).map some

/-- A list, each item read by `read`. -/
def toList? {α : Type} (read : Json → Option α) : Json → Option (List α)
  | .arr items => items.mapM read
  | _ => none

/-- What an optional value is written as. -/
def ofOption {α : Type} (write : α → Json) : Option α → Json
  | none => .null
  | some a => write a

/-! ### Reading records -/

/-- The values found for `names` among the members of an object, in the order of `names`. Other
members do not matter; a name found twice is refused. -/
def namedFields? (names : List String) (members : List (String × Json)) :
    Option (List (Option Json)) :=
  names.mapM fun name =>
    match members.filter fun member => member.1 = name with
    | [] => some none
    | [member] => some (some member.2)
    | _ => none

/-- The values found for `count` fields given by position. Values at the end may be missing. -/
def orderedFields? (count : Nat) (items : List Json) : Option (List (Option Json)) :=
  if count < items.length then none
  else some (items.map some ++ List.replicate (count - items.length) none)

/-- The values found for the fields of a record, which is written as an object or as the array of
its field values. -/
def fields? (names : List String) : Json → Option (List (Option Json))
  | .obj members => namedFields? names members
  | .arr items => orderedFields? names.length items
  | _ => none

/-- The value of a field that may be left out. -/
def fieldOr {α : Type} (fallback : α) (read : Json → Option α) : Option Json → Option α
  | none => some fallback
  | some json => read json

/-- The value of a field that must be there. -/
def field? {α : Type} (read : Json → Option α) (found : Option Json) : Option α :=
  found.bind read

end Json

end ScriptScheduler
