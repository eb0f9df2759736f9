import ScriptScheduler.Json.Tagged
import ScriptScheduler.Value.Basic

/-!
# Values as tagged JSON

A stored value is an object with its kind under `t` and its content under `v`. Reading also takes
the pair of kind and content as an array. A content that stands before its kind is set aside.
-/

namespace ScriptScheduler

namespace ErrorInfo

/-- An error payload as JSON. -/
def toJson (info : ErrorInfo) : Json :=
  .obj [("code", .str info.code), ("message", .str info.message)]

/-- The error payload that a tree stands for. -/
def ofJson? (json : Json) : Option ErrorInfo := do
  let [code, message] ← json.fields? ["code", "message"] | none
  some ⟨← Json.field? Json.toStr? code, ← Json.field? Json.toStr? message⟩

end ErrorInfo

namespace EntityId

/-- An entity's serial as JSON. -/
def toJson (entity : EntityId) : Json := .int entity.number.toNat

/-- The serial that a tree stands for. -/
def ofJson? (json : Json) : Option EntityId :=
  (json.toNat? UInt32.size).map fun n => ⟨UInt32.ofNat n⟩

end EntityId

namespace Val

/-- The key of a content. -/
def contentKey : String := "v"

/-- An object with a kind and a content. -/
def tagged (kind : String) (content : Json) : Json := .tag kind [(contentKey, content)]

mutual

/-- A value as tagged JSON. -/
def toJson : Val → Json
  | .uninit => .tag "Uninit" []
  | .long n => tagged "Long" (.int n.toInt)
  | .double x => tagged "Double" (.double x)
  | .bool b => tagged "Bool" (.bool b)
  | .str s => tagged "Str" (.str s)
  | .array items => tagged "Array" (.arr (itemsToJson items))
  | .struct members => tagged "Struct" (.obj (membersToJson members))
  | .entity id => tagged "Entity" id.toJson
  | .error info => tagged "Error" info.toJson

/-- Each item as tagged JSON. -/
def itemsToJson : List Val → List Json
  | [] => []
  | item :: rest => item.toJson :: itemsToJson rest

/-- Each member's value as tagged JSON. -/
def membersToJson : List (String × Val) → List (String × Json)
  | [] => []
  | (key, value) :: rest => (key, value.toJson) :: membersToJson rest

end

/-! ### Reading -/

/-- The kinds of values, in their order. -/
def kinds : List String :=
  ["Uninit", "Long", "Double", "Bool", "Str", "Array", "Struct", "Entity", "Error"]

/-- The value that a kind without parts makes of its content. `none` stands for a missing
content. -/
def leafOfJson? (kind : String) (content : Option Json) : Option Val :=
  match kind, content with
  | "Uninit", none => some .uninit
  | "Uninit", some .null => some .uninit
  | "Long", some json => json.toInt64?.map .long
  | "Double", some json => json.toDouble?.map .double
  | "Bool", some json => json.toBool?.map .bool
  | "Str", some json => json.toStr?.map .str
  | "Entity", some json => (EntityId.ofJson? json).map .entity
  | "Error", some json => (ErrorInfo.ofJson? json).map .error
  | _, _ => none

/-- The tag of an object and the reading of its content. There may be no second tag and no second
content; a content in front of the tag is set aside. -/
def tagOfMembers? (reading : Json.Reading) (members : List (String × Json)) :
    Option (String × Json.Reading) :=
  match members.filter fun member => member.1 = Json.tagKey || member.1 = contentKey with
  | [(key, found)] =>
    if key = Json.tagKey then (reading.constant? found).map fun kind => (kind, reading) else none
  | [(first, json), (second, found)] =>
    if first = second then none
    else if first = Json.tagKey then (reading.constant? json).map fun kind => (kind, reading)
    else do
      let kind ← reading.constant? found
      let _ ← reading.keep? json
      some (kind, .setAside)
  | _ => none

mutual

/-- The value that a tree stands for, in a given reading. -/
def read? (reading : Json.Reading) : Json → Option Val
  | .obj members =>
    match tagOfMembers? reading members with
    | some (kind, reading) => readMember? reading kind members
    | none => none
  | .arr [found, content] =>
    match reading.kind? kinds found with
    | some kind => readContent? reading kind content
    | none => none
  | _ => none

/-- Reads the content among the members of an object, if there is one. -/
def readMember? (reading : Json.Reading) (kind : String) : List (String × Json) → Option Val
  | [] => leafOfJson? kind none
  | (key, json) :: rest =>
    if key = contentKey then readContent? reading kind json else readMember? reading kind rest

/-- Reads a content. -/
def readContent? (reading : Json.Reading) (kind : String) : Json → Option Val
  | .arr items =>
    if kind = "Array" then (readItems? reading items).map .array
    else leafOfJson? kind (some (.arr items))
  | .obj members =>
    if kind = "Struct" then (readMembers? reading members).map fun read => .struct (sortMembers read)
    else leafOfJson? kind (some (.obj members))
  | json => leafOfJson? kind (some json)

/-- Reads each item. -/
def readItems? (reading : Json.Reading) : List Json → Option (List Val)
  | [] => some []
  | item :: rest => do
    let item ← read? reading item
    let rest ← readItems? reading rest
    some (item :: rest)

/-- Reads each member's value. -/
def readMembers? (reading : Json.Reading) :
    List (String × Json) → Option (List (String × Val))
  | [] => some []
  | (key, value) :: rest => do
    let value ← read? reading value
    let rest ← readMembers? reading rest
    some ((key, value) :: rest)

end

/-- The value that a tree stands for. -/
def ofJson? (json : Json) : Option Val := read? .inPlace json

end Val

end ScriptScheduler
