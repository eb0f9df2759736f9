import ScriptScheduler.Json.Basic

/-!
# Tagged JSON

A value of one of several kinds is written with the name of its kind, its tag. What the rest of it
means is known only once the tag is. A part that is met before that is set aside, which means that
it is read completely into a tree, and is looked at later. So the reading of a part has one of two
modes, and they differ in what they take:

* A part that was set aside must be readable throughout, also where it does not matter.
* Where a tag is the first item of an array, or a member of a tagged record, a part that was set
  aside may give it by the position of the kind among all kinds.
* A constant may be written as an object with its name as the only key. The value at the key is
  `null`, in a part that was set aside also an empty object.
-/

namespace ScriptScheduler

namespace Json

/-- How a part of a tree is read. -/
inductive Reading where
  /-- In place, in the order of the text. -/
  | inPlace
  /-- After it was set aside. -/
  | setAside
  deriving DecidableEq

namespace Reading

/-- A part that is set aside now, in a reading that has not done so before. -/
def keep? (reading : Reading) (part : Json) : Option Json :=
  match reading with
  | .inPlace => if part.isReadable then some part else none
  | .setAside => some part

/-- The name of a constant. -/
def constant? (reading : Reading) : Json → Option String
  | .str name => some name
  | .obj [(name, .null)] => some name
  | .obj [(name, .obj [])] => if reading = .setAside then some name else none
  | _ => none

/-- The tag of a value that has one of the given kinds. -/
def kind? (reading : Reading) (kinds : List String) : Json → Option String
  | .str name => some name
  | .int n => if reading = .setAside ∧ 0 ≤ n then kinds[n.toNat]? else none
  | _ => none

end Reading

/-- The key of a tag. -/
def tagKey : String := "t"

/-- A tagged record. -/
def tag (kind : String) (members : List (String × Json)) : Json :=
  .obj ((tagKey, .str kind) :: members)

/-- The tag of a tagged record and the record without it, which is set aside. In an array the tag
comes first. -/
def untag? (reading : Reading) (kinds : List String) : Json → Option (String × Json)
  | .obj members =>
    match members.filter fun member => member.1 = tagKey with
    | [(_, found)] => do
      let kind ← reading.kind? kinds found
      let record ← reading.keep? (.obj (members.filter fun member => member.1 ≠ tagKey))
      some (kind, record)
    | _ => none
  | .arr (found :: items) => do
    let kind ← reading.kind? kinds found
    let record ← reading.keep? (.arr items)
    some (kind, record)
  | _ => none

/-- The name of a constant that is read in place. -/
def toName? (json : Json) : Option String := Reading.constant? .inPlace json

end Json

end ScriptScheduler
