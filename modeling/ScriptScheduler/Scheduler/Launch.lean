import ScriptScheduler.Scheduler.Placement

/-!
# Launching scripts

A program becomes a script if it has code, its runtime is there and accepts the code. A script
that launches another one as its child sleeps until the child is gone and then finds the child's
result on its stack.
-/

namespace ScriptScheduler

namespace Scheduler

/-- A new script for a program, with the next free number. -/
def prepare (s : Scheduler) (program : Program) (options : Options) :
    Except SchedulerError Executor :=
  if !program.hasCode then .error (.emptyProgram program.scriptname)
  else if program.type = .engine && s.engine.isNone then
    .error (.engineUnavailable program.scriptname)
  else
    match (Executor.new s.nextPid options).setProgram program with
    | .ok ex => .ok ex
    | .error refusal => .error refusal.cause

/-- Makes a prepared script live. -/
def enroll (s : Scheduler) (ex : Executor) : Logged Scheduler := do
  Logged.tell (.scriptStarted ex.pid ex.scriptname)
  pure { s with
    executors := s.executors ++ [ex]
    nextPid := ⟨s.nextPid.number + 1⟩ }

/-- Launches a script at the end of the ready queue. -/
def startScriptWith (s : Scheduler) (program : Program) (options : Options) :
    Except (Refusal Scheduler) (Logged (Pid × Scheduler)) :=
  match s.prepare program options with
  | .error cause => .error ⟨cause, s⟩
  | .ok ex => .ok do
    let s ← s.enroll ex
    pure (ex.pid, s.enqueue ex.pid)

/-- Launches a script with the configured options. -/
def startScript (s : Scheduler) (program : Program) :
    Except (Refusal Scheduler) (Logged (Pid × Scheduler)) :=
  s.startScriptWith program (.ofConfig s.config)

/-- Why a script cannot wait for a child. -/
def childRefusal? (parent : Executor) : Option SchedulerError :=
  if parent.programType = some .engine then some (.notRunnable parent.pid .engineParent)
  else
    match parent.child with
    | some child => some (.alreadyWaiting parent.pid child)
    | none =>
      if parent.options.runToCompletion then
        some (.notRunnable parent.pid .runToCompletionParent)
      else none

/-- Links a parent to its new child; the parent waits with a slot for the child's result. -/
def awaitChild (s : Scheduler) (parent child : Pid) : Scheduler :=
  let s := s.modify child fun ex => { ex with parent := some parent }
  let s := s.modify parent fun ex =>
    ({ ex with child := some child }.push .sentinel).suspend Clock.never
  s.hold parent

/-- Launches a script as the child of another one. -/
def runScript (s : Scheduler) (parent : Pid) (program : Program) :
    Except (Refusal Scheduler) (Logged (Pid × Scheduler)) :=
  match s.get? parent with
  | none => .error ⟨.unknownPid parent, s⟩
  | some parentEx =>
    match childRefusal? parentEx with
    | some cause => .error ⟨cause, s⟩
    | none =>
      match s.prepare program (.ofConfig s.config) with
      | .error cause => .error ⟨cause, s⟩
      | .ok ex => .ok do
        let s ← s.enroll ex
        let s := (s.awaitChild parent ex.pid).enqueue ex.pid
        Logged.tell (.childStarted parent ex.pid)
        pure (ex.pid, s)

end Scheduler

end ScriptScheduler
