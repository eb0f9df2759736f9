import ScriptScheduler.Scheduler.Removal

/-!
# Engine programs

The first time an engine script is run it goes to the engine: its stack becomes the arguments of a
call. If the call returns a value or fails, the script is retired at once. If it is deferred, the
script stays with the engine until the call has been settled and the scheduler looks for settled
calls.
-/

namespace ScriptScheduler

/-- Inserts a pending call into a list ordered by request number. -/
def insertCall (call : PendingCall) : List PendingCall → List PendingCall
  | [] => [call]
  | other :: rest =>
    if call.id.number < other.id.number then call :: other :: rest
    else if call.id = other.id then call :: rest
    else other :: insertCall call rest

/-- A settled call: its script and the script's result. -/
structure Completion where
  pid : Pid
  value : Val

/-- What a script returns when its call has been settled. -/
def Settlement.toVal : Settlement → Val
  | .resolved json => Val.ofEngine json
  | .rejected message => Val.fail ErrorCode.engine message
  | .dropped => Val.fail ErrorCode.engine "deferred dropped without settling"

/-- What the log is told about a settled call. -/
def PendingCall.notice? (call : PendingCall) : Option Notice :=
  match call.settlement with
  | some (.rejected message) =>
    some (.engineCallErrored call.id call.pid call.scriptname message)
  | some .dropped =>
    some (.engineCallErrored call.id call.pid call.scriptname "deferred dropped without settling")
  | _ => none

/-- The completion of a call, if it has been settled. -/
def PendingCall.completion? (call : PendingCall) : Option Completion :=
  call.settlement.map fun settlement => ⟨call.pid, settlement.toVal⟩

namespace Scheduler

/-! ### Completing a call -/

/-- Retires an engine script with the result of its call. -/
def completeExternal (s : Scheduler) (pid : Pid) (value : Val) :
    Logged (Option ScriptExit × Scheduler) :=
  match s.get? pid with
  | none => pure (none, s)
  | some ex => do
    let ex := ex.finishEngine value
    let s := { s.store ex with external := s.external.erase pid }
    let (exit, s) ← s.retire ex (if value.isError then .faulted else .finished)
    pure (some exit, s)

/-- Retires the scripts of settled calls one after the other. -/
def completeEach : List Completion → Scheduler → Logged Scheduler
  | [], s => pure s
  | completion :: rest, s => do
    let (_, s) ← s.completeExternal completion.pid completion.value
    completeEach rest s

/-- Retires the scripts of all calls that have been settled, and counts the calls. -/
def pumpExternal (s : Scheduler) : Logged (Nat × Scheduler) := do
  let settled := s.calls.filterMap PendingCall.completion?
  Logged.tellAll (s.calls.filterMap PendingCall.notice?)
  let s ← completeEach settled { s with calls := s.calls.filter fun c => c.settlement.isNone }
  pure (settled.length, s)

/-! ### Calling the engine -/

/-- The call that an engine script makes: its stack, from the bottom, becomes the arguments. -/
def callOf (ex : Executor) (function : FunctionRef) (id : RequestId) : EngineCall where
  id := id
  pid := ex.pid
  scriptname := ex.scriptname
  function := function
  args := ex.stack.reverse.map fun value => value.toEngine id

/-- Keeps a deferred call until it is settled. -/
def defer (s : Scheduler) (ex : Executor) (id : RequestId) (settlement : Option Settlement) :
    Scheduler :=
  let ex := ex.mapThread fun t => t.setOutstanding (some id)
  { s.store ex with calls := insertCall ⟨id, ex.pid, ex.scriptname, settlement⟩ s.calls }

/-- Calls the engine function of a script. -/
def invoke (s : Scheduler) (ex : Executor) (function : FunctionRef) (id : RequestId) :
    Logged (Option ScriptExit × Scheduler) :=
  match s.engine with
  | none => do
    Logged.tell (.noEngine ex.pid ex.scriptname)
    s.completeExternal ex.pid (.fail ErrorCode.engine "no engine registered")
  | some engine => do
    let call := callOf ex function id
    let ex := { ex with stack := [] }
    let s := s.store ex
    Logged.perform (.called call)
    match engine.call call with
    | .value json => s.completeExternal ex.pid (Val.ofEngine json)
    | .failure message => do
      Logged.tell (.engineCallFailed id ex.pid ex.scriptname message)
      s.completeExternal ex.pid (.fail ErrorCode.engine message)
    | .deferred settlement => pure (none, s.defer ex id settlement)

/-- Hands a script to the engine and makes its call. -/
def runExternal (s : Scheduler) (pid : Pid) : Logged (Option ScriptExit × Scheduler) :=
  let s := s.parkExternal pid
  let id := s.nextRequestId
  let s := { s with issued := s.issued + 1 }
  match s.get? pid with
  | none => pure (none, s)
  | some ex =>
    match ex.function? with
    | none => pure (none, s)
    | some function => s.invoke ex function id

/-! ### Settling a call -/

/-- Notes the settlement of a deferred call. A call that has been forgotten or settled is left
alone. -/
def settleCall (s : Scheduler) (id : RequestId) (settlement : Settlement) : Scheduler :=
  { s with
    calls := s.calls.map fun call =>
      if call.id = id && call.settlement.isNone then { call with settlement := some settlement }
      else call }

end Scheduler

end ScriptScheduler
