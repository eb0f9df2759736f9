import ScriptScheduler.Scheduler.Removal

/-!
# Control

Events for scripts, parking and releasing scripts for the debugger, killing scripts and shutting
down.
-/

namespace ScriptScheduler

namespace Scheduler

/-! ### Events -/

/-- Delivers an event to a script. A refused event changes nothing. -/
def signalEvent (s : Scheduler) (pid : Pid) (event : Val) :
    Logged (Except Rejection Delivery × Scheduler) :=
  match s.get? pid with
  | none => pure (.error ⟨.unknownPid pid, event⟩, s)
  | some ex =>
    match ex.signalEvent event with
    | .ok (.woke, ex) => pure (.ok .woke, (s.store ex).schedule pid)
    | .ok (.queued, ex) => pure (.ok .queued, s.store ex)
    | .error rejection => do
      Logged.tell (.eventRejected pid ex.scriptname rejection.cause)
      pure (.error rejection, s)

/-! ### The debugger -/

/-- Parks a script for the debugger, unless the engine manages it. -/
def halt (s : Scheduler) (pid : Pid) : Except (Refusal Scheduler) Scheduler :=
  match s.get? pid with
  | none => .error ⟨.unknownPid pid, s⟩
  | some ex =>
    if ex.thread.holdList = .external then .error ⟨.notRunnable pid .managedByEngine, s⟩
    else .ok (((s.detach pid).modify pid fun ex => { ex with halted := true }).parkDebugger pid)

/-- Releases a script that is parked for the debugger. It becomes ready, or sleeps on if it is
blocked. -/
def release (s : Scheduler) (pid : Pid) : Except (Refusal Scheduler) Scheduler :=
  if s.debugger.contains pid then
    let s := (s.detach pid).modify pid fun ex => { ex with halted := false }
    match s.get? pid with
    | none => .error ⟨.unknownPid pid, s⟩
    | some ex => .ok (if ex.isBlocked then s.hold pid else s.schedule pid)
  else .error ⟨.notRunnable pid .notHalted, s⟩

/-! ### Ending scripts -/

/-- Ends a script. It has its result before it is looked up once more to be removed. -/
def kill (s : Scheduler) (pid : Pid) :
    Except (Refusal Scheduler) (Logged (ScriptExit × Scheduler)) :=
  match s.get? pid with
  | none => .error ⟨.unknownPid pid, s⟩
  | some ex =>
    let s := s.store { ex with result := some (.fail ErrorCode.aborted "script killed") }
    match s.get? pid with
    | none => .error ⟨.unknownPid pid, s⟩
    | some ex => .ok (s.retire ex .killed)

/-- Tells the engine about the scripts that it manages and that are torn down. -/
def tellEngine (s : Scheduler) : Logged Unit :=
  match s.engine with
  | none => pure ()
  | some _ =>
    ⟨(), s.external.filterMap fun pid =>
      (s.get? pid).map fun ex => .effect (.tornDown pid ex.scriptname)⟩

/-- Ends scripts one after the other. -/
def shutdownEach : List Pid → Scheduler → Logged Scheduler
  | [], s => pure s
  | pid :: rest, s =>
    match s.get? pid with
    | none => shutdownEach rest s
    | some ex => do
      let result := Val.fail ErrorCode.aborted "scheduler shut down"
      let (_, s) ← s.retire { ex with result := some result } .shutdown
      shutdownEach rest s

/-- Ends all scripts, in the order of their numbers. -/
def shutdown (s : Scheduler) : Logged Scheduler :=
  if s.isEmpty then pure s
  else do
    s.tellEngine
    Logged.tell (.shuttingDown s.size)
    shutdownEach (s.executors.map Executor.pid) s

end Scheduler

end ScriptScheduler
