import ScriptScheduler.Scheduler.Control
import ScriptScheduler.Scheduler.Pass

/-!
# Operations

Everything that the outside can do to a scheduler, as data: an `Operation` is performed on a state
and has an `Answer`. The states that a scheduler can get into are those that some list of
operations leads to from an empty scheduler.
-/

namespace ScriptScheduler

/-- A change of a single script by its owner. -/
inductive Edit where
  | push (value : Val)
  | setCritical (critical : Bool)
  | setPriority (priority : Nat)
  | setWarnOnRunaway (warn : Bool)
  | setEventQueueSize (size : Nat)

/-- The script after an edit. -/
def Edit.apply (ex : Executor) : Edit → Executor
  | .push value => ex.push value
  | .setCritical critical => ex.setCritical critical
  | .setPriority priority => ex.setPriority priority
  | .setWarnOnRunaway warn => ex.setWarnOnRunaway warn
  | .setEventQueueSize size => ex.setEventQueueSize size

/-- An operation on a scheduler. -/
inductive Operation where
  | start (program : Program)
  | startWith (program : Program) (options : Options)
  | runScript (parent : Pid) (program : Program)
  | runToCompletion (now : Nat) (program : Program)
  | runReady (now : Nat)
  | checkBlocked (now left : Nat)
  | pumpExternal
  | settleCall (id : RequestId) (settlement : Settlement)
  | signal (pid : Pid) (event : Val)
  | halt (pid : Pid)
  | release (pid : Pid)
  | kill (pid : Pid)
  | shutdown
  | deschedule (pid : Pid)
  | request (pid : Pid) (entity : EntityId) (kind : RequestKind) (callback : Callback)
  | requestWithTimeout (now : Nat) (pid : Pid) (entity : EntityId) (kind : RequestKind)
      (timeout : Nat) (callback : Callback)
  | respond (id : RequestId) (response : Val)
  | respondToEntity (entity : EntityId) (kind : RequestKind) (hint : Option RequestId)
      (response : Val)
  | abort (id : RequestId)
  | abortAll (pid : Pid)
  | entityDisconnected (entity : EntityId)
  | edit (pid : Pid) (edit : Edit)
  | takeExits

/-- The answer to an operation. -/
inductive Answer where
  | done
  | refused (cause : SchedulerError)
  | launched (pid : Pid)
  | returned (value : Val)
  /-- What remains of the time for idling. -/
  | clocksLeft (left : Nat)
  | count (n : Nat)
  | delivered (delivery : Delivery)
  | rejected (cause : SignalError) (event : Val)
  | exited (exit : ScriptExit)
  | removed (ex : Option Executor)
  | requested (id : Option RequestId)
  | resolved (success : Bool)
  | exits (records : List ScriptExit)

namespace Scheduler

/-- An operation with an answer. -/
def answering {α : Type} (answer : α → Answer) (ran : Logged (α × Scheduler)) :
    Logged (Answer × Scheduler) := do
  let (a, s) ← ran
  pure (answer a, s)

/-- A refused operation. -/
def refusing (refusal : Refusal Scheduler) : Logged (Answer × Scheduler) :=
  pure (.refused refusal.cause, refusal.state)

/-- An operation that may be refused. -/
def attempt {α : Type} (answer : α → Answer) :
    Except (Refusal Scheduler) (Logged (α × Scheduler)) → Logged (Answer × Scheduler)
  | .ok ran => answering answer ran
  | .error refusal => refusing refusal

/-- An operation that may be refused and answers nothing else. -/
def attemptQuietly : Except (Refusal Scheduler) Scheduler → Logged (Answer × Scheduler)
  | .ok s => pure (.done, s)
  | .error refusal => refusing refusal

/-- An operation without an answer. -/
def quietly (ran : Logged Scheduler) : Logged (Answer × Scheduler) := do
  let s ← ran
  pure (.done, s)

/-- The answer to the signal of an event. -/
def signalAnswer : Except Rejection Delivery → Answer
  | .ok delivery => .delivered delivery
  | .error rejection => .rejected rejection.cause rejection.event

/-- Changes a single script. -/
def edit (s : Scheduler) (pid : Pid) (edit : Edit) : Except (Refusal Scheduler) Scheduler :=
  match s.get? pid with
  | none => .error ⟨.unknownPid pid, s⟩
  | some ex => .ok (s.store (edit.apply ex))

/-- Performs an operation. Without a result a script has used up the patience. -/
def perform (s : Scheduler) (patience : Nat) :
    Operation → Option (Logged (Answer × Scheduler))
  | .start program => some (attempt .launched (s.startScript program))
  | .startWith program options =>
    some (attempt .launched (s.startScriptWith program options))
  | .runScript parent program => some (attempt .launched (s.runScript parent program))
  | .runToCompletion now program =>
    match s.runToCompletion patience now program with
    | .error refusal => some (refusing refusal)
    | .ok ran => ran.map (answering .returned)
  | .runReady now => (s.runReady patience now).map quietly
  | .checkBlocked now left => some (answering .clocksLeft (s.checkBlocked now left))
  | .pumpExternal => some (answering .count s.pumpExternal)
  | .settleCall id settlement => some (pure (.done, s.settleCall id settlement))
  | .signal pid event => some (answering signalAnswer (s.signalEvent pid event))
  | .halt pid => some (attemptQuietly (s.halt pid))
  | .release pid => some (attemptQuietly (s.release pid))
  | .kill pid => some (attempt .exited (s.kill pid))
  | .shutdown => some (quietly s.shutdown)
  | .deschedule pid => some (answering .removed (s.deschedule pid))
  | .request pid entity kind callback =>
    some (answering .requested (s.makeRequest pid entity kind callback))
  | .requestWithTimeout now pid entity kind timeout callback =>
    some (answering .requested (s.makeRequestWithTimeout now pid entity kind timeout callback))
  | .respond id response => some (answering .resolved (s.respond id response))
  | .respondToEntity entity kind hint response =>
    some (answering .requested (s.respondToEntity entity kind hint response))
  | .abort id => some (answering .resolved (s.abortRequest id))
  | .abortAll pid => some (answering .count (s.abortAll pid))
  | .entityDisconnected entity => some (answering .count (s.entityDisconnected entity))
  | .edit pid edit => some (attemptQuietly (s.edit pid edit))
  | .takeExits => some (pure (.exits s.takeExits.1, s.takeExits.2))

/-- Performs an operation with a counter of scripts of 32 bits, the addition to which is checked: an
operation that would count beyond them overflows and has no result. -/
def execute (s : Scheduler) (patience : Nat) (op : Operation) :
    Option (Logged (Answer × Scheduler)) :=
  (s.perform patience op).filter fun ran => ran.value.2.nextPid.number < UInt32.size

/-- Performs operations one after the other. -/
def performAll (patience : Nat) : List Operation → Scheduler → Option Scheduler
  | [], s => some s
  | op :: rest, s =>
    (s.perform patience op).bind fun ran => performAll patience rest ran.value.2

end Scheduler

end ScriptScheduler
