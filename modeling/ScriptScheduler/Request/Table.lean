import ScriptScheduler.Request.Holder
import ScriptScheduler.Value.Basic

/-!
# Pending requests

The table keeps every pending request and, for each entity with pending requests, the holder of
their numbers. An entity without pending requests has no holder.
-/

namespace ScriptScheduler

/-- What a script sees of an answer, given the entity that answers. Without a value the script
sees that the request was aborted. -/
abbrev Callback := EntityId → Val → Option Val

/-- A pending request of a script to an entity. -/
structure Request where
  id : RequestId
  pid : Pid
  entity : EntityId
  kind : RequestKind
  callback : Callback
  /-- Whether the request has been answered or aborted. -/
  handled : Bool := false

/-- The inspection text of a pending request. -/
def Request.inspect (request : Request) : String :=
  "AsyncRequest \x7b id: RequestId(" ++ toString request.id.number ++ "), pid: Pid(" ++
    toString request.pid.number ++ "), entity: EntityId(" ++
    toString request.entity.number.toNat ++ "), kind: " ++ request.kind.label ++
    ", handled: " ++ toString request.handled ++ " \x7d"

/-- The pending requests, in order of creation, and the holders of the entities. -/
structure RequestTable where
  pending : List Request := []
  entities : List (EntityId × Holder) := []

namespace RequestTable

/-- The pending request with a given number. -/
def get? (table : RequestTable) (id : RequestId) : Option Request :=
  table.pending.find? fun request => request.id = id

/-- The request with a given number, if it has not been handled. -/
def unhandled? (table : RequestTable) (id : RequestId) : Option Request :=
  (table.get? id).filter fun request => !request.handled

/-- The holder of an entity. -/
def holder? (table : RequestTable) (entity : EntityId) : Option Holder :=
  (table.entities.find? fun entry => entry.1 = entity).map Prod.snd

/-- How many requests are pending. -/
def size (table : RequestTable) : Nat := table.pending.length

/-- Whether a script has pending requests. -/
def references (table : RequestTable) (pid : Pid) : Bool :=
  table.pending.any fun request => request.pid = pid

/-- Gives an entity another holder; an empty one is not kept. -/
def setHolder (table : RequestTable) (entity : EntityId) (holder : Holder) : RequestTable :=
  let others := table.entities.filter fun entry => entry.1 ≠ entity
  { table with entities := if holder.isEmpty then others else others ++ [(entity, holder)] }

/-- Registers a request, unless its number is already pending. -/
def insert? (table : RequestTable) (request : Request) : Option RequestTable :=
  if (table.get? request.id).isSome then none
  else do
    let holder ← ((table.holder? request.entity).getD .empty).add? request.kind request.id
    let table := table.setHolder request.entity holder
    some { table with pending := table.pending ++ [request] }

/-- Takes a request out of the table and out of its entity's holder. -/
def take (table : RequestTable) (request : Request) : RequestTable :=
  let holder := (table.holder? request.entity).getD .empty
  let table := table.setHolder request.entity (holder.remove request.kind request.id)
  { table with pending := table.pending.filter fun other => other.id ≠ request.id }

end RequestTable

end ScriptScheduler
