import ScriptScheduler.Scheduler.External
import ScriptScheduler.Scheduler.Launch
import ScriptScheduler.Scheduler.Requests

/-!
# Passes

In a pass every script that is ready at its start runs one slice. Between passes the sleepers
whose clock has come are woken. A program may also be run to its end at once.

A critical script and a program that is run to its end may run forever. The functions that run
them are told how many instructions to wait for and have no result if these are used up.
-/

namespace ScriptScheduler

namespace Scheduler

/-! ### After a slice -/

/-- Ends a script whose instruction failed. -/
def retireFaulted (s : Scheduler) (ex : Executor) (cause : Fault) :
    Logged (Option ScriptExit × Scheduler) := do
  Logged.tell (.scriptFaulted ex.pid ex.scriptname ex.instrCycles cause)
  let result := Val.fail ErrorCode.fault cause.message
  let (exit, s) ← s.retire { ex with result := some result } .faulted
  pure (some exit, s)

/-- Ends a script that has run for too long. -/
def retireRunaway (s : Scheduler) (ex : Executor) : Logged (Option ScriptExit × Scheduler) := do
  Logged.tell (.runawayTerminated ex.pid ex.scriptname ex.instrCycles ex.runawayCycles)
  let message := "exceeded " ++ toString ex.runawayCycles ++ " runaway cycles"
  let result := Val.fail ErrorCode.runaway message
  let (exit, s) ← s.retire { ex with result := some result } .runaway
  pure (some exit, s)

/-- Places the script `ex` after a slice, or ends it. -/
def settle (s : Scheduler) (ex : Executor) (outcome : SliceOutcome) :
    Logged (Option ScriptExit × Scheduler) :=
  match outcome with
  | .preempted => pure (none, s.enqueue ex.pid)
  | .blocked => pure (none, s.hold ex.pid)
  | .halted => pure (none, s.parkDebugger ex.pid)
  | .finished => do
    let (exit, s) ← s.retire ex .finished
    pure (some exit, s)
  | .faulted cause => s.retireFaulted ex cause
  | .runaway => s.retireRunaway ex
  | .external => s.runExternal ex.pid

/-! ### A pass -/

/-- Runs a slice of a script and places it afterwards. -/
def runOne (s : Scheduler) (patience now : Nat) (ex : Executor) : Option (Logged Scheduler) :=
  (ex.runSlice now (s.config.sliceFor ex.thread.priority) s.config.maxRunawayCycles patience).map
    fun slice => do
      let (ex, outcome) ← slice
      let (_, s) ← (s.store ex).settle ex outcome
      pure s

/-- Runs a slice of each script of a batch that is still live and not held. -/
def runBatch (patience now : Nat) : List Pid → Scheduler → Option (Logged Scheduler)
  | [], s => some (pure s)
  | pid :: rest, s =>
    match s.get? pid with
    | none => runBatch patience now rest s
    | some ex =>
      if ex.thread.holdList ≠ .none then runBatch patience now rest s
      else
        match s.runOne patience now ex with
        | none => none
        | some ran =>
          (runBatch patience now rest ran.value).map fun after =>
            ⟨after.value, ran.entries ++ after.entries⟩

/-- One pass: settled engine calls are applied, then each script that is ready runs one slice.
Scripts that become ready meanwhile run in the next pass. -/
def runReady (s : Scheduler) (patience now : Nat) : Option (Logged Scheduler) :=
  let pumped := s.pumpExternal
  let s := pumped.value.2
  (runBatch patience now s.ready { s with ready := [] }).map fun ran =>
    ⟨ran.value, pumped.entries ++ ran.entries⟩

/-! ### Waking sleepers -/

/-- Wakes a script whose clock has come. Its pending requests are aborted. -/
def wake (s : Scheduler) (pid : Pid) : Logged Scheduler :=
  match s.get? pid with
  | none => pure s
  | some ex =>
    let ex := { ex.mapThread Thread.detached with sleepCycles := ex.sleepCycles + 1 }
    if ex.requests.isEmpty then pure ((s.store ex.revive).schedule pid)
    else do
      let (_, s) ← abortEach ex.requests.ids (s.store ex)
      pure (s.schedule pid)

/-- Takes the first timer out of the list and wakes its script, as long as its clock has come and
at most `count` times. -/
def wakeDue (now : Nat) : Nat → Scheduler → Logged Scheduler
  | 0, s => pure s
  | count + 1, s =>
    match s.timeouts with
    | [] => pure s
    | (key, pid) :: rest =>
      if now < key.wake then pure s
      else do
        let s ← { s with timeouts := rest }.wake pid
        wakeDue now count s

/-- Wakes all scripts whose clock has come. Of the time `left` for idling, no more remains than
until the next wake clock. -/
def checkBlocked (s : Scheduler) (now left : Nat) : Logged (Nat × Scheduler) := do
  let s ← wakeDue now s.timeouts.length s
  match s.timeouts.head? with
  | none => pure (left, s)
  | some entry => pure (min left (entry.1.wake - now), s)

/-! ### Running to completion -/

/-- The options of a script that runs to its end without sleeping. -/
def completionOptions (config : SchedulerConfig) : Options :=
  { Options.ofConfig config with runToCompletion := true }

/-- Runs a program to its end and returns its result. Sleeping, waiting and halting do nothing.
A deferred call of an engine program returns no value; its script stays with the engine. -/
def runToCompletion (s : Scheduler) (patience now : Nat) (program : Program) :
    Except (Refusal Scheduler) (Option (Logged (Val × Scheduler))) :=
  match s.prepare program (completionOptions s.config) with
  | .error cause => .error ⟨cause, s⟩
  | .ok ex => .ok <|
    let enrolled := s.enroll ex
    (ex.runToEnd now s.config.maxRunawayCycles patience).map fun slice => do
      let s ← enrolled
      let (ex, outcome) ← slice
      let (exit, s) ← (s.store ex).settle ex outcome
      pure (match exit with
        | some exit => exit.result
        | none => .uninit, s)

end Scheduler

end ScriptScheduler
