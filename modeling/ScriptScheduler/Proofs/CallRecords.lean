import ScriptScheduler.Proofs.Answers
import ScriptScheduler.Proofs.EngineCalls

/-!
# Engine calls in the record

The record of an operation says how the engine was called. Only a script that goes to the engine in
its turn calls it, so only a pass and a program that is run to its end make calls
(`uncalling_perform`), and a turn makes at most one (`Move.calls`): the arguments are the stack of
the script from the bottom, and the reply decides whether the script is retired at once or its call
is kept (`Heeds`).
-/

namespace ScriptScheduler

open Scheduler

/-! ### The calls in a record -/

/-- The engine call that an entry records. -/
def Entry.call? : Entry → Option EngineCall
  | .effect (.called call) => some call
  | _ => none

/-- The engine calls in a record. -/
def callsIn (entries : List Entry) : List EngineCall := entries.filterMap Entry.call?

/-- Nothing in a record is an engine call. -/
def Uncalling (entries : List Entry) : Prop := ∀ entry ∈ entries, entry.call? = none

section Records

variable {entries more : List Entry}

@[simp] theorem callsIn_nil : callsIn [] = [] := rfl

@[simp] theorem callsIn_append : callsIn (entries ++ more) = callsIn entries ++ callsIn more :=
  List.filterMap_append

namespace Uncalling

/-- A record without calls. -/
theorem callsIn (h : Uncalling entries) : callsIn entries = [] :=
  List.filterMap_eq_nil_iff.mpr h

/-- An empty record has no calls. -/
theorem nil : Uncalling [] := List.forall_mem_nil _

/-- Records without calls one after the other. -/
theorem append (h₁ : Uncalling entries) (h₂ : Uncalling more) : Uncalling (entries ++ more) :=
  List.forall_mem_append.mpr ⟨h₁, h₂⟩

/-- A single entry that is not a call. -/
theorem singleton {entry : Entry} (none : entry.call? = none) : Uncalling [entry] :=
  List.forall_mem_singleton.mpr none

end Uncalling

/-- What the log is told is not a call. -/
theorem Told.uncalling (h : Told entries) : Uncalling entries := by
  intro entry mem
  obtain ⟨notice, rfl⟩ := h entry mem
  rfl

namespace Uncalling

/-- Notices are not calls. -/
theorem tellAll (notices : List Notice) : Uncalling (Logged.tellAll notices).entries :=
  (Told.tellAll notices).uncalling

/-- A notice is not a call. -/
theorem tell (notice : Notice) : Uncalling (Logged.tell notice).entries := .singleton rfl

end Uncalling

end Records

/-! ### Functions that make no calls -/

namespace Executor

/-- A script that runs makes no engine call. -/
theorem Runs.uncalling {limit : Option Nat} {entries : List Entry} {ex ran : Executor}
    {outcome : SliceOutcome} (runs : ex.Runs limit entries ran outcome) : Uncalling entries :=
  runs.told.uncalling

/-- An answer to a script is not an engine call. -/
theorem uncalling_handleRequest (ex : Executor) (id : RequestId) (response : Option Val)
    (engine : Option Engine) : Uncalling (ex.handleRequest id response engine).entries := by
  unfold handleRequest
  split
  · refine Uncalling.append (.singleton rfl) ?_
    dsimp only
    split
    · exact .nil
    · exact Uncalling.append (.tell _) .nil
  · exact Uncalling.append (.tell _) .nil
  · exact Uncalling.append (.singleton rfl) .nil

end Executor

namespace Scheduler

variable {s : Scheduler} {pid : Pid}

/-- The requests of a removed script are answered without a call. -/
theorem uncalling_dropRequests (engine : Option Engine) (ids : List RequestId) :
    ∀ (ex : Executor) (table : RequestTable),
      Uncalling (dropRequests engine ids ex table).entries := by
  induction ids with
  | nil => exact fun _ _ => .nil
  | cons id rest ih =>
    intro ex table
    unfold dropRequests
    split
    · exact ih ex table
    · exact (ex.uncalling_handleRequest id none engine).append (ih _ _)

/-- The removal of a script makes no call. -/
theorem uncalling_remove (s : Scheduler) (ex : Executor) : Uncalling (s.remove ex).entries := by
  rw [remove_entries]
  exact uncalling_dropRequests _ _ _ _

/-- A script is handed back without a call. -/
theorem uncalling_deschedule (s : Scheduler) (pid : Pid) :
    Uncalling (s.deschedule pid).entries := by
  unfold deschedule
  split
  · exact .nil
  · exact (uncalling_remove s _).append .nil

/-- The retirement of a script makes no call. -/
theorem uncalling_retire (s : Scheduler) (ex : Executor) (reason : ExitReason) :
    Uncalling (s.retire ex reason).entries := by
  unfold retire
  refine (uncalling_remove s ex).append ?_
  dsimp only
  split
  · exact Uncalling.append (.tell _) .nil
  · exact .nil

/-- An engine script whose call is done is retired without another call. -/
theorem uncalling_completeExternal (s : Scheduler) (pid : Pid) (value : Val) :
    Uncalling (s.completeExternal pid value).entries := by
  unfold completeExternal
  split
  · exact .nil
  · exact Uncalling.append (uncalling_retire _ _ _) .nil

/-- The scripts of settled calls are retired without other calls. -/
theorem uncalling_completeEach (settled : List Completion) :
    ∀ s : Scheduler, Uncalling (completeEach settled s).entries := by
  induction settled with
  | nil => exact fun _ => .nil
  | cons done rest ih => exact fun s => (uncalling_completeExternal s _ _).append (ih _)

/-- The look for settled calls makes no call. -/
theorem uncalling_pumpExternal (s : Scheduler) : Uncalling s.pumpExternal.entries := by
  unfold pumpExternal
  simp only [Logged.bind_entries]
  exact (Uncalling.tellAll _).append ((uncalling_completeEach _ _).append .nil)

/-- A request that is resolved makes no call. -/
theorem uncalling_resolve (s : Scheduler) (request : Request) (value : Option Val) :
    Uncalling (s.resolve request value).entries := by
  unfold resolve deliver
  split
  · exact .nil
  · exact (Executor.uncalling_handleRequest _ _ _ _).append .nil

/-- An answer makes no call. -/
theorem uncalling_respond (s : Scheduler) (id : RequestId) (response : Val) :
    Uncalling (s.respond id response).entries := by
  unfold respond
  split
  · exact .nil
  · exact (uncalling_resolve s _ _).append .nil

/-- An abort makes no call. -/
theorem uncalling_abortRequest (s : Scheduler) (id : RequestId) :
    Uncalling (s.abortRequest id).entries := by
  unfold abortRequest
  split
  · exact .nil
  · exact (uncalling_resolve s _ _).append .nil

/-- Aborts make no calls. -/
theorem uncalling_abortEach (ids : List RequestId) :
    ∀ s : Scheduler, Uncalling (abortEach ids s).entries := by
  induction ids with
  | nil => exact fun _ => .nil
  | cons id rest ih =>
    intro s
    exact (uncalling_abortRequest s id).append ((ih _).append .nil)

/-- A request that is made is not a call. -/
theorem uncalling_register (s : Scheduler) (pid : Pid) (entity : EntityId) (kind : RequestKind)
    (wake : Nat) (callback : Callback) :
    Uncalling (s.register pid entity kind wake callback).entries := by
  unfold register
  split
  · exact .tell _
  · split
    · exact .nil
    · split
      · exact .tell _
      · dsimp only [Logged.bind_entries]
        refine Uncalling.append (.singleton rfl) ?_
        split
        · exact .nil
        · split
          · exact .nil
          · exact .nil

/-- A sleeper is woken without a call. -/
theorem uncalling_wake (s : Scheduler) (pid : Pid) : Uncalling (s.wake pid).entries := by
  unfold wake
  split
  · exact .nil
  · dsimp only
    split
    · exact .nil
    · exact (uncalling_abortEach _ _).append .nil

/-- Sleepers are woken without calls. -/
theorem uncalling_wakeDue (now count : Nat) :
    ∀ s : Scheduler, Uncalling (wakeDue now count s).entries := by
  induction count with
  | zero => exact fun _ => .nil
  | succ count ih =>
    intro s
    unfold wakeDue
    split
    · exact .nil
    · split
      · exact .nil
      · exact (uncalling_wake _ _).append (ih _)

/-- An event makes no call. -/
theorem uncalling_signalEvent (s : Scheduler) (pid : Pid) (event : Val) :
    Uncalling (s.signalEvent pid event).entries := by
  unfold signalEvent
  split
  · exact .nil
  · split
    · exact .nil
    · exact .nil
    · exact Uncalling.append (.tell _) .nil

/-- What the engine is told at a shutdown is not a call. -/
theorem uncalling_tellEngine (s : Scheduler) : Uncalling s.tellEngine.entries := by
  unfold tellEngine
  split
  · exact .nil
  · intro entry mem
    obtain ⟨pid, -, eq⟩ := List.mem_filterMap.mp mem
    obtain ⟨ex, -, rfl⟩ := Option.map_eq_some_iff.mp eq
    rfl

/-- Scripts are shut down without calls. -/
theorem uncalling_shutdownEach (pids : List Pid) :
    ∀ s : Scheduler, Uncalling (shutdownEach pids s).entries := by
  induction pids with
  | nil => exact fun _ => .nil
  | cons pid rest ih =>
    intro s
    unfold shutdownEach
    split
    · exact ih s
    · exact (uncalling_retire _ _ _).append (ih _)

/-- A script is launched without a call. -/
theorem uncalling_startScriptWith {program : Program} {options : Options}
    {ran : Logged (Pid × Scheduler)} (started : s.startScriptWith program options = .ok ran) :
    Uncalling ran.entries := by
  obtain ⟨ex, -, rfl⟩ := startScriptWith_launched started
  exact .tell _

/-- A child is launched without a call. -/
theorem uncalling_runScript {parent : Pid} {program : Program} {ran : Logged (Pid × Scheduler)}
    (launched : s.runScript parent program = .ok ran) : Uncalling ran.entries := by
  obtain ⟨waiting, child, -, -, -, rfl⟩ := runScript_launched launched
  exact Uncalling.append (.tell _) (.tell _)

end Scheduler

/-! ### Operations that make no calls -/

/-- The operations in which scripts have their turns. -/
inductive Operation.TakesTurns : Operation → Prop
  | pass (now : Nat) : TakesTurns (.runReady now)
  | completion (now : Nat) (program : Program) : TakesTurns (.runToCompletion now program)

namespace Scheduler

variable {s : Scheduler}

/-- An operation that may be refused makes no more calls than what it attempts. -/
theorem uncalling_attempt {α : Type} {answer : α → Answer}
    {tried : Except (Refusal Scheduler) (Logged (α × Scheduler))}
    (quiet : ∀ ran, tried = .ok ran → Uncalling ran.entries) :
    Uncalling (attempt answer tried).entries := by
  cases tried with
  | error refusal => exact .nil
  | ok ran => exact (quiet ran rfl).append .nil

/-- An operation that may be refused and answers nothing makes no calls. -/
theorem uncalling_attemptQuietly {tried : Except (Refusal Scheduler) Scheduler} :
    Uncalling (attemptQuietly tried).entries := by
  cases tried <;> exact .nil

/-- Waking the sleepers makes no calls. -/
theorem uncalling_checkBlocked (s : Scheduler) (now left : Nat) :
    Uncalling (s.checkBlocked now left).entries := by
  unfold checkBlocked
  refine (uncalling_wakeDue _ _ _).append ?_
  dsimp only
  split <;> exact .nil

/-- Killing a script makes no calls. -/
theorem uncalling_kill {pid : Pid} {ran : Logged (ScriptExit × Scheduler)}
    (killed : s.kill pid = .ok ran) : Uncalling ran.entries := by
  obtain ⟨ex, -, rfl⟩ := kill_ok killed
  exact uncalling_retire _ _ _

/-- The engine is told about a shutdown, but not called. -/
theorem uncalling_shutdown (s : Scheduler) : Uncalling s.shutdown.entries := by
  unfold shutdown
  split
  · exact .nil
  · exact (uncalling_tellEngine s).append
      (Uncalling.append (.tell _) (uncalling_shutdownEach _ _))

/-- The answer of an entity makes no calls. -/
theorem uncalling_respondToEntity (s : Scheduler) (entity : EntityId) (kind : RequestKind)
    (hint : Option RequestId) (response : Val) :
    Uncalling (s.respondToEntity entity kind hint response).entries := by
  unfold respondToEntity
  split
  · exact .nil
  · exact (uncalling_respond s _ response).append .nil

/-- Aborting the requests of a script makes no calls. -/
theorem uncalling_abortAll (s : Scheduler) (pid : Pid) : Uncalling (s.abortAll pid).entries := by
  unfold abortAll
  split
  · exact .nil
  · exact uncalling_abortEach _ s

/-- Aborting the requests to an entity makes no calls. -/
theorem uncalling_entityDisconnected (s : Scheduler) (entity : EntityId) :
    Uncalling (s.entityDisconnected entity).entries := by
  unfold entityDisconnected
  split
  · exact .nil
  · exact uncalling_abortEach _ s

/-- Operations in which no script has a turn make no calls. -/
theorem uncalling_perform {patience : Nat} {op : Operation} {ran : Logged (Answer × Scheduler)}
    (performed : s.perform patience op = some ran) (turnless : ¬ op.TakesTurns) :
    Uncalling ran.entries := by
  cases op with
  | runToCompletion now program => exact absurd (.completion now program) turnless
  | runReady now => exact absurd (.pass now) turnless
  | start | startWith =>
    obtain rfl := Option.some.inj performed
    exact uncalling_attempt fun _ => uncalling_startScriptWith
  | runScript =>
    obtain rfl := Option.some.inj performed
    exact uncalling_attempt fun _ => uncalling_runScript
  | kill =>
    obtain rfl := Option.some.inj performed
    exact uncalling_attempt fun _ => uncalling_kill
  | halt | release | edit =>
    obtain rfl := Option.some.inj performed
    exact uncalling_attemptQuietly
  | settleCall | takeExits =>
    obtain rfl := Option.some.inj performed
    exact .nil
  | checkBlocked =>
    obtain rfl := Option.some.inj performed
    exact (uncalling_checkBlocked s _ _).append .nil
  | pumpExternal =>
    obtain rfl := Option.some.inj performed
    exact (uncalling_pumpExternal s).append .nil
  | signal =>
    obtain rfl := Option.some.inj performed
    exact (uncalling_signalEvent s _ _).append .nil
  | shutdown =>
    obtain rfl := Option.some.inj performed
    exact (uncalling_shutdown s).append .nil
  | deschedule =>
    obtain rfl := Option.some.inj performed
    exact (uncalling_deschedule s _).append .nil
  | request | requestWithTimeout =>
    obtain rfl := Option.some.inj performed
    exact (uncalling_register s _ _ _ _ _).append .nil
  | respond =>
    obtain rfl := Option.some.inj performed
    exact (uncalling_respond s _ _).append .nil
  | respondToEntity =>
    obtain rfl := Option.some.inj performed
    exact (uncalling_respondToEntity s _ _ _ _).append .nil
  | abort =>
    obtain rfl := Option.some.inj performed
    exact (uncalling_abortRequest s _).append .nil
  | abortAll =>
    obtain rfl := Option.some.inj performed
    exact (uncalling_abortAll s _).append .nil
  | entityDisconnected =>
    obtain rfl := Option.some.inj performed
    exact (uncalling_entityDisconnected s _).append .nil

end Scheduler

/-! ### The call of a turn -/

namespace Scheduler

variable {s s₁ s₂ : Scheduler} {pid : Pid} {ex : Executor}

/-- The exit record of an engine script whose call is done with a value. -/
structure Completes (exit : ScriptExit) (pid : Pid) (value : Val) : Prop where
  pid : exit.pid = pid
  result : exit.result = value
  faulted : exit.reason = .faulted ↔ ∃ info, value = .error info
  finished : exit.reason = .finished ↔ ∀ info, value ≠ .error info

/-- Between the states `s` and `s'` the script `pid` is retired, because its call is done with the
value `value`. -/
structure Retires (pid : Pid) (value : Val) (s s' : Scheduler) : Prop where
  dead : s'.get? pid = none
  exits : ∃ exit, Completes exit pid value ∧ s'.exits = s.exits ++ [exit]

/-- The record of a script with a result tells a fault if the result is an error, and otherwise
that the script has finished. -/
theorem completes_exitOf {value : Val} (result : ex.result = some value) :
    Completes (exitOf ex (if value.isError then .faulted else .finished)) ex.pid value where
  pid := rfl
  result := by
    unfold exitOf
    rw [result]
    rfl
  faulted := by cases value <;> simp [exitOf, Val.isError]
  finished := by cases value <;> simp [exitOf, Val.isError]

/-- An engine script whose call is done is retired. -/
theorem Retires.completeExternal {value : Val} (found : s₁.get? pid = some ex)
    (exits : s₁.exits = s.exits) : Retires pid value s (s₁.completeExternal pid value).value.2 := by
  obtain rfl : ex.pid = pid := pid_of_get? found
  let done : Executor := ex.finishEngine value
  let reason : ExitReason := if value.isError then .faulted else .finished
  have gone := (Forgets.completeExternal found value).dead
  refine ⟨gone, exitOf done reason, completes_exitOf rfl, ?_⟩
  unfold Scheduler.completeExternal
  rw [found]
  change ({ s₁.store done with external := s₁.external.erase ex.pid }.retire done
    reason).value.2.exits = _
  rw [exits_retire, ← exits]
  rfl

/-- What follows between the states `s` and `s'` from the reply to a call: if it has returned a
value or failed, its script is retired with that, and if it is deferred it is kept. -/
def Heeds (call : EngineCall) (s s' : Scheduler) : EngineReply → Prop
  | .value json => Retires call.pid (.ofEngine json) s s'
  | .failure message => Retires call.pid (.error ⟨ErrorCode.engine, message⟩) s s'
  | .deferred settlement => Defers ⟨call.id, call.pid, call.scriptname, settlement⟩ s s'

/-- Between the states `s` and `s'` a script that has not been called before calls the engine, and
the reply is heeded. -/
structure Invokes (call : EngineCall) (s s' : Scheduler) : Prop where
  caller : ∃ ex function, s.get? call.pid = some ex ∧ ex.isEngine = true ∧
    ex.thread.outstanding = none ∧ call = callOf ex function s.nextRequestId
  heeded : ∃ engine, s.engine = some engine ∧ Heeds call s s' (engine.call call)

/-- A script that goes to the engine calls it once. -/
theorem Invokes.runExternal {engine : Engine} (found : s.get? pid = some ex)
    (isEngine : ex.isEngine = true) (coherent : ex.Coherent) (free : ex.thread.holdList = .none)
    (present : s.engine = some engine) :
    ∃ call, callsIn (s.runExternal pid).entries = [call] ∧
      Invokes call s (s.runExternal pid).value.2 := by
  obtain rfl : ex.pid = pid := pid_of_get? found
  obtain ⟨function, -, live, away, eq⟩ := runExternal_of_isEngine found isEngine
  obtain ⟨before, inbox⟩ := coherent.call isEngine
  have idle : ex.thread.outstanding = none := coherent.outstanding (by simp [free])
  let call := callOf ex function s.nextRequestId
  let clear : Executor := { ex.handedOver with stack := [] }
  have cleared : Calm (s.handedOver ex.pid) ((s.handedOver ex.pid).store clear) :=
    .store live rfl rfl
  have calm := away.trans cleared
  have clearLive : ((s.handedOver ex.pid).store clear).get? ex.pid = some clear :=
    get?_store live rfl
  have same : (s.handedOver ex.pid).engine = some engine :=
    (follows_parkExternal (s := s)).engine.trans present
  have retired : ∀ value, Retires ex.pid value s
      (((s.handedOver ex.pid).store clear).completeExternal ex.pid value).value.2 :=
    fun _ => .completeExternal clearLive calm.exits
  suffices callsIn (s.runExternal ex.pid).entries = [call] ∧
      Heeds call s (s.runExternal ex.pid).value.2 (engine.call call) from
    ⟨call, this.1, ⟨ex, function, found, isEngine, idle, rfl⟩, engine, present, this.2⟩
  -- to complete a call makes no other
  have done : ∀ (notice : List Entry) (value : Val), Uncalling notice →
      callsIn ([.effect (.called call)] ++ (notice ++
        (((s.handedOver ex.pid).store clear).completeExternal ex.pid value).entries)) = [call] := by
    intro notice value quiet
    have rest := quiet.append
      (uncalling_completeExternal ((s.handedOver ex.pid).store clear) ex.pid value)
    rw [callsIn_append, rest.callsIn]
    rfl
  have invoked : s.runExternal ex.pid = (do
      Logged.perform (.called call)
      match engine.call call with
      | .value json =>
        ((s.handedOver ex.pid).store clear).completeExternal ex.pid (Val.ofEngine json)
      | .failure message => do
        Logged.tell (.engineCallFailed s.nextRequestId ex.pid ex.scriptname message)
        ((s.handedOver ex.pid).store clear).completeExternal ex.pid
          (.fail ErrorCode.engine message)
      | .deferred settlement =>
        pure (none, ((s.handedOver ex.pid).store clear).defer clear s.nextRequestId settlement)) := by
    rw [eq]
    unfold invoke
    rw [same]
    rfl
  rw [invoked]
  cases engine.call call with
  | value json => exact ⟨done [] _ .nil, retired _⟩
  | failure message => exact ⟨done _ _ (.tell _), retired _⟩
  | deferred settlement =>
    have number : clear.pid = ex.pid := rfl
    exact ⟨rfl, .defer calm found idle number clearLive inbox⟩

end Scheduler

/-- A move makes no call, or a script that has not been called before makes one. -/
theorem Move.calls {m m' : Moment} {entries : List Entry} (move : Move m entries m')
    (numbers : m.state.Numbered) (equipped : Equipped m.state)
    (coherent : ∀ pid ex, m.state.get? pid = some ex → ex.Coherent) :
    callsIn entries = [] ∨ ∃ call, callsIn entries = [call] ∧ Invokes call m.state m'.state := by
  cases move with
  | @turn s _ _ pid ex ran outcome told found free runs =>
    dsimp only
    rw [callsIn_append, runs.uncalling.callsIn, List.nil_append]
    obtain ⟨now, slice⟩ := runs.slice
    cases outcome with
    | preempted => exact .inl rfl
    | blocked => exact .inl rfl
    | halted => exact .inl rfl
    | finished => exact .inl ((uncalling_retire _ _ _).append .nil).callsIn
    | faulted => exact .inl (Uncalling.append (.tell _) ((uncalling_retire _ _ _).append .nil)).callsIn
    | runaway => exact .inl (Uncalling.append (.tell _) ((uncalling_retire _ _ _).append .nil)).callsIn
    | external =>
      have isEngine := slice.isEngine
      obtain ⟨-, rfl⟩ := slice.of_isEngine isEngine
      obtain ⟨engine, present⟩ := Option.isSome_iff_exists.mp (equipped pid ran found isEngine)
      rw [numbers.store_self found]
      obtain rfl : ran.pid = pid := pid_of_get? found
      exact .inr (Invokes.runExternal found isEngine (coherent _ _ found) free present)
  | tell notices => exact .inl (Uncalling.tellAll notices).callsIn
  | @tellEngine m => exact .inl (uncalling_tellEngine m.state).callsIn
  | start => exact .inl rfl
  | startChild launched => exact .inl (uncalling_runScript launched).callsIn
  | startAway => exact .inl rfl
  | takeBatch => exact .inl rfl
  | skip => exact .inl rfl
  | collect => exact .inl (Uncalling.tellAll _).callsIn
  | complete => exact .inl (uncalling_completeExternal _ _ _).callsIn
  | settleCall => exact .inl rfl
  | signal => exact .inl (uncalling_signalEvent _ _ _).callsIn
  | halt => exact .inl rfl
  | release => exact .inl rfl
  | retire => exact .inl (uncalling_retire _ _ _).callsIn
  | deschedule => exact .inl (uncalling_deschedule _ _).callsIn
  | request => exact .inl (uncalling_register _ _ _ _ _ _).callsIn
  | resolve => exact .inl (uncalling_resolve _ _ _).callsIn
  | wake => exact .inl (uncalling_wake _ _).callsIn
  | takeExits => exact .inl rfl

end ScriptScheduler
