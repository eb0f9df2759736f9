import ScriptScheduler.Scheduler.Basic

/-!
# Reports

A snapshot of a script for diagnostics.
-/

namespace ScriptScheduler

/-- A snapshot of a script. -/
structure ExecutorInfo where
  pid : Pid
  scriptname : String
  programType : Option ProgramType
  state : ExecutorState
  holdList : HoldList
  sleepUntil : Nat
  priority : Nat
  critical : Bool
  instrCycles : Nat
  sleepCycles : Nat
  eventsWaiting : Nat
  pendingRequests : Nat
  parent : Option Pid
  child : Option Pid

/-- The snapshot of a script. -/
def Executor.info (ex : Executor) : ExecutorInfo where
  pid := ex.pid
  scriptname := ex.scriptname
  programType := ex.programType
  state := ex.state
  holdList := ex.thread.holdList
  sleepUntil := ex.thread.sleepUntil
  priority := ex.thread.priority
  critical := ex.thread.critical
  instrCycles := ex.instrCycles
  sleepCycles := ex.sleepCycles
  eventsWaiting := ex.thread.events.length
  pendingRequests := ex.requests.size
  parent := ex.parent
  child := ex.child

namespace Scheduler

/-- The snapshot of the script with a given number. -/
def info? (s : Scheduler) (pid : Pid) : Option ExecutorInfo := (s.get? pid).map Executor.info

/-- The snapshots of all live scripts. -/
def list (s : Scheduler) : List ExecutorInfo := s.executors.map Executor.info

end Scheduler

end ScriptScheduler
