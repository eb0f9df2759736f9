import ScriptScheduler.Value.Basic

/-!
# Values on their way to the engine and back

The engine sees plain JSON. Entities and errors, which JSON does not have, become objects with
reserved keys; an entity also names the call that it went out with, so that the engine can send
what it makes of it back to that call.
-/

namespace ScriptScheduler

namespace Val

/-- The key of an entity's serial. -/
def entityKey : String := "$entity"

/-- The key of the call that an entity went out with. -/
def requestKey : String := "$request"

/-- The key of an error's payload. -/
def errorKey : String := "$error"

mutual

/-- What the engine sees of a value in the call `id`. -/
def toEngine (id : RequestId) : Val → Json
  | .uninit => .null
  | .long n => .int n.toInt
  | .double x => if x.isFinite then .double x else .null
  | .bool b => .bool b
  | .str s => .str s
  | .array items => .arr (itemsToEngine id items)
  | .struct members => .obj (membersToEngine id members)
  | .entity who =>
    .obj [(entityKey, .int who.number.toNat), (requestKey, .int id.number)]
  | .error info =>
    .obj [(errorKey, .obj [("code", .str info.code), ("message", .str info.message)])]

/-- What the engine sees of each item. -/
def itemsToEngine (id : RequestId) : List Val → List Json
  | [] => []
  | item :: rest => item.toEngine id :: itemsToEngine id rest

/-- What the engine sees of each member. -/
def membersToEngine (id : RequestId) : List (String × Val) → List (String × Json)
  | [] => []
  | (key, value) :: rest => (key, value.toEngine id) :: membersToEngine id rest

end

/-- The number that a script sees: a 64-bit integer if it is one, else a double. -/
def ofNumber (n : Int) : Val :=
  match signedWord? n with
  | some word => .long word
  | none => .double (Double.ofInt n)

/-- The entity that an object stands for. -/
def entityOfMembers? (members : List (String × Json)) : Option EntityId :=
  (lookupMember? entityKey members).bind fun json =>
    (json.toNat? UInt32.size).map fun n => ⟨UInt32.ofNat n⟩

/-- A text of an error's payload, empty if it is missing. -/
def errorText (name : String) (payload : Json) : String :=
  ((payload.get? name).bind Json.toStr?).getD ""

/-- The error that an object stands for. -/
def errorOfMembers? (members : List (String × Json)) : Option ErrorInfo :=
  (lookupMember? errorKey members).map fun payload =>
    ⟨errorText "code" payload, errorText "message" payload⟩

mutual

/-- What a script sees of an engine's value in plain form. -/
def ofEngine : Json → Val
  | .null => .uninit
  | .bool b => .bool b
  | .int n => ofNumber n
  | .double x => .double x
  | .str s => .str s
  | .arr items => .array (itemsOfEngine items)
  | .obj members =>
    match entityOfMembers? members, errorOfMembers? members with
    | some who, _ => .entity who
    | none, some info => .error info
    | none, none => .struct (membersOfEngine members)

/-- What a script sees of each item. -/
def itemsOfEngine : List Json → List Val
  | [] => []
  | item :: rest => ofEngine item :: itemsOfEngine rest

/-- What a script sees of each member. -/
def membersOfEngine : List (String × Json) → List (String × Val)
  | [] => []
  | (key, value) :: rest => (key, ofEngine value) :: membersOfEngine rest

end

end Val

end ScriptScheduler
