import ScriptScheduler.Scheduler.Placement

/-!
# Requests

A script asks an entity and sleeps until the entity answers. A request is pending in three places:
in the table, with its entity's holder and with its script's holder. It is answered or aborted at
most once; both take it out of all three places before the script sees the value.
-/

namespace ScriptScheduler

namespace Scheduler

/-! ### Making requests -/

/-- Makes a request and lets the script sleep until `wake`. A script that runs to completion makes
no requests, and a blocked bytecode script has no second slot for an answer. A request whose number
is still in use is taken back. -/
def register (s : Scheduler) (pid : Pid) (entity : EntityId) (kind : RequestKind) (wake : Nat)
    (callback : Callback) : Logged (Option RequestId × Scheduler) :=
  match s.get? pid with
  | none => do
    Logged.tell (.requestForUnknown pid)
    pure (none, s)
  | some ex =>
    if ex.options.runToCompletion then pure (none, s)
    else if !ex.isEngine && ex.isBlocked then do
      Logged.tell (.requestWhileBlocked pid kind)
      pure (none, s)
    else do
      let id := s.nextRequestId
      Logged.ask pid id
      let s := { s with issued := s.issued + 1 }
      let ex := (ex.suspend wake).openResultSlot
      match ex.requests.add? kind id with
      | none => pure (none, s.store ex.closeResultSlot.revive)
      | some holder =>
        match s.requests.insert? { id, pid, entity, kind, callback } with
        | none =>
          let ex := { ex with requests := holder.remove kind id }
          pure (none, s.store ex.closeResultSlot.revive)
        | some table =>
          let s := { s with requests := table }
          pure (some id, (s.store { ex with requests := holder }).hold pid)

/-- Makes a request that waits for an answer without a limit. -/
def makeRequest (s : Scheduler) (pid : Pid) (entity : EntityId) (kind : RequestKind)
    (callback : Callback) : Logged (Option RequestId × Scheduler) :=
  s.register pid entity kind Clock.never callback

/-- Makes a request that is aborted if there is no answer after `timeout` milliseconds. -/
def makeRequestWithTimeout (s : Scheduler) (now : Nat) (pid : Pid) (entity : EntityId)
    (kind : RequestKind) (timeout : Nat) (callback : Callback) :
    Logged (Option RequestId × Scheduler) :=
  s.register pid entity kind (Clock.wakeAfter now timeout) callback

/-! ### Answers and aborts -/

/-- Gives a script the answer to a request that has left the table. -/
def deliver (s : Scheduler) (request : Request) (value : Option Val) : Logged Scheduler :=
  match s.get? request.pid with
  | none => pure s
  | some ex => do
    let ex := { ex with requests := ex.requests.remove request.kind request.id }
    let ex ← ex.handleRequest request.id value s.engine
    pure ((s.store ex).schedule request.pid)

/-- Ends a pending request with a value for its script, or without one. -/
def resolve (s : Scheduler) (request : Request) (value : Option Val) : Logged Scheduler :=
  { s with requests := s.requests.take request }.deliver { request with handled := true } value

/-- Answers a request. Its callback decides what the script sees. -/
def respond (s : Scheduler) (id : RequestId) (response : Val) : Logged (Bool × Scheduler) :=
  match s.requests.unhandled? id with
  | none => pure (false, s)
  | some request => do
    let s ← s.resolve request (request.callback request.entity response)
    pure (true, s)

/-- Ends a request without an answer. -/
def abortRequest (s : Scheduler) (id : RequestId) : Logged (Bool × Scheduler) :=
  match s.requests.unhandled? id with
  | none => pure (false, s)
  | some request => do
    let s ← s.resolve request none
    pure (true, s)

/-- Aborts requests one after the other and counts those that were pending. -/
def abortEach : List RequestId → Scheduler → Logged (Nat × Scheduler)
  | [], s => pure (0, s)
  | id :: rest, s => do
    let (aborted, s) ← s.abortRequest id
    let (count, s) ← abortEach rest s
    pure (count + (if aborted then 1 else 0), s)

/-- Aborts all requests of a script. -/
def abortAll (s : Scheduler) (pid : Pid) : Logged (Nat × Scheduler) :=
  match s.get? pid with
  | none => pure (0, s)
  | some ex => abortEach ex.requests.ids s

/-- Aborts all requests to an entity. -/
def entityDisconnected (s : Scheduler) (entity : EntityId) : Logged (Nat × Scheduler) :=
  match s.requests.holder? entity with
  | none => pure (0, s)
  | some holder => abortEach holder.ids s

/-! ### Finding requests -/

/-- The pending request to an entity that was made first among those of a kind, or the one asked
for if it is among them. -/
def findRequest? (s : Scheduler) (entity : EntityId) (kind : RequestKind)
    (hint : Option RequestId) : Option RequestId :=
  (s.requests.holder? entity).bind fun holder => holder.find? kind hint

/-- Answers the request to an entity that `findRequest?` finds. -/
def respondToEntity (s : Scheduler) (entity : EntityId) (kind : RequestKind)
    (hint : Option RequestId) (response : Val) : Logged (Option RequestId × Scheduler) :=
  match s.findRequest? entity kind hint with
  | none => pure (none, s)
  | some id => do
    let (answered, s) ← s.respond id response
    pure (if answered then some id else none, s)

end Scheduler

end ScriptScheduler
