import ScriptScheduler.Scheduler.Placement

/-!
# Removal

A script that is removed leaves nothing behind: its requests are aborted, its events dropped, its
engine call forgotten and its links cut. A parent that waits for it gets its result and becomes
ready.
-/

namespace ScriptScheduler

namespace Scheduler

/-- Aborts the pending requests among `ids`, which the script `ex` is waiting for. -/
def dropRequests (engine : Option Engine) :
    List RequestId → Executor → RequestTable → Logged (Executor × RequestTable)
  | [], ex, table => pure (ex, table)
  | id :: rest, ex, table =>
    match table.get? id with
    | none => dropRequests engine rest ex table
    | some request => do
      let ex ← ex.handleRequest id none engine
      dropRequests engine rest ex (table.take request)

/-- Gives a parent the result of its child and makes it ready. -/
def resumeParent (s : Scheduler) (parent child : Pid) (result : Val) : Scheduler :=
  match s.get? parent with
  | none => s
  | some ex =>
    if ex.child = some child then
      (s.store (({ ex with child := none }.setResultSlot result).revive)).schedule parent
    else s

/-- Cuts the link from a child to its parent. -/
def orphan (s : Scheduler) (child : Option Pid) : Scheduler :=
  match child with
  | none => s
  | some child => s.modify child fun ex => { ex with parent := none }

/-- Gives the waiting parent of a removed script the script's result. -/
def notifyParent (s : Scheduler) (ex : Executor) : Scheduler :=
  match ex.parent with
  | none => s
  | some parent => s.resumeParent parent ex.pid (ex.result.getD .sentinel)

/-- Forgets the engine calls of a script. -/
def forgetCalls (s : Scheduler) (pid : Pid) : Scheduler :=
  { s with calls := s.calls.filter fun call => call.pid ≠ pid }

/-- Removes the live script `ex`. -/
def remove (s : Scheduler) (ex : Executor) : Logged (Executor × Scheduler) := do
  let s := (s.detach ex.pid).erase ex.pid
  let ids := ex.requests.ids
  let ex := { ex.mapThread Thread.detached with requests := .empty }
  let (ex, table) ← dropRequests s.engine ids ex s.requests
  let s := { s with requests := table }.forgetCalls ex.pid
  let s := (s.orphan ex.child).notifyParent ex
  pure ({ ex.mapThread Thread.clearEvents with parent := none, child := none }, s)

/-- Removes a script and hands it back. -/
def deschedule (s : Scheduler) (pid : Pid) : Logged (Option Executor × Scheduler) :=
  match s.get? pid with
  | none => pure (none, s)
  | some ex => do
    let (ex, s) ← s.remove ex
    pure (some ex, s)

/-- Whether the cycles of a script are worth a note when it exits. -/
def isProfiled (s : Scheduler) (ex : Executor) : Bool :=
  s.config.profileScripts && s.config.profileMinCycles ≤ ex.instrCycles

/-- The exit record of a removed script. -/
def exitOf (ex : Executor) (reason : ExitReason) : ScriptExit where
  pid := ex.pid
  scriptname := ex.scriptname
  reason := reason
  result := ex.result.getD .uninit
  instrCycles := ex.instrCycles
  sleepCycles := ex.sleepCycles

/-- Removes the live script `ex` and records its exit. -/
def retire (s : Scheduler) (ex : Executor) (reason : ExitReason) :
    Logged (ScriptExit × Scheduler) := do
  let (ex, s) ← s.remove ex
  if s.isProfiled ex then Logged.tell (.profile ex.scriptname ex.instrCycles ex.sleepCycles)
  let exit := exitOf ex reason
  pure (exit, { s with exits := s.exits ++ [exit] })

end Scheduler

end ScriptScheduler
