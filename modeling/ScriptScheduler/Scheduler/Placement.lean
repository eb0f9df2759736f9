import ScriptScheduler.Scheduler.Basic

/-!
# Placement

A live script is in the ready queue, in one of the hold lists, or running. These functions move a
script from one place to another. Scripts parked for the debugger or managed by the engine stay
where they are when something else wants to move them.
-/

namespace ScriptScheduler

/-- Inserts a script's number into an increasing list of numbers. -/
def insertPid (pid : Pid) : List Pid → List Pid
  | [] => [pid]
  | other :: rest =>
    if pid.number < other.number then pid :: other :: rest
    else if pid = other then other :: rest
    else other :: insertPid pid rest

/-- Inserts a timer entry behind those that come before it. -/
def insertTimer (key : TimerKey) (pid : Pid) : List (TimerKey × Pid) → List (TimerKey × Pid)
  | [] => [(key, pid)]
  | entry :: rest =>
    if entry.1.before key then entry :: insertTimer key pid rest else (key, pid) :: entry :: rest

/-- Whether scripts in a hold list may only leave it on request of whoever put them there. -/
def HoldList.isFixed : HoldList → Bool
  | .external | .debugger => true
  | _ => false

/-- A thread in no hold list. -/
def Thread.detached (t : Thread) : Thread := { t with timer := none, holdList := .none }

namespace Scheduler

/-- Takes a script out of the hold list that its thread names. -/
def leaveHoldList (s : Scheduler) (ex : Executor) : Scheduler :=
  match ex.thread.holdList with
  | .none => s
  | .timeout =>
    match ex.thread.timer with
    | some key => { s with timeouts := s.timeouts.filter fun entry => entry.1 ≠ key }
    | none => s
  | .noTimeout => { s with untimed := s.untimed.erase ex.pid }
  | .debugger => { s with debugger := s.debugger.erase ex.pid }
  | .external => { s with external := s.external.erase ex.pid }

/-- Takes a script out of its hold list and out of the ready queue. -/
def detach (s : Scheduler) (pid : Pid) : Scheduler :=
  match s.get? pid with
  | none => s
  | some ex =>
    let s := (s.leaveHoldList ex).modify pid fun ex => ex.mapThread Thread.detached
    { s with ready := s.ready.filter fun other => other ≠ pid }

/-- Whether a script is live and may be moved. -/
def isMovable (s : Scheduler) (pid : Pid) : Bool :=
  match s.get? pid with
  | none => false
  | some ex => !ex.thread.holdList.isFixed

/-- Puts a script at the end of the ready queue. -/
def enqueue (s : Scheduler) (pid : Pid) : Scheduler := { s with ready := s.ready ++ [pid] }

/-- Makes a revived script ready. -/
def schedule (s : Scheduler) (pid : Pid) : Scheduler :=
  if s.isMovable pid then (s.detach pid).enqueue pid else s

/-- Puts a script among the sleepers without a wake clock. -/
def holdUntimed (s : Scheduler) (pid : Pid) : Scheduler :=
  let s := s.modify pid fun ex => ex.mapThread fun t => { t with holdList := .noTimeout }
  { s with untimed := insertPid pid s.untimed }

/-- Puts a script among the sleepers with a wake clock. -/
def holdTimed (s : Scheduler) (pid : Pid) (wake : Nat) : Scheduler :=
  let key : TimerKey := ⟨wake, s.nextTimerSeq⟩
  let s := s.modify pid fun ex =>
    ex.mapThread fun t => { t with timer := some key, holdList := .timeout }
  { s with timeouts := insertTimer key pid s.timeouts, nextTimerSeq := s.nextTimerSeq + 1 }

/-- Puts a suspended script into the hold list for its wake clock. -/
def hold (s : Scheduler) (pid : Pid) : Scheduler :=
  match s.get? pid with
  | none => s
  | some ex =>
    if ex.thread.holdList.isFixed then s
    else if ex.thread.sleepUntil = Clock.never then (s.detach pid).holdUntimed pid
    else (s.detach pid).holdTimed pid ex.thread.sleepUntil

/-- Parks a script that is in no list for the debugger. -/
def parkDebugger (s : Scheduler) (pid : Pid) : Scheduler :=
  let s := s.modify pid fun ex => ex.mapThread fun t => { t with holdList := .debugger }
  { s with debugger := insertPid pid s.debugger }

/-- Hands a script to the engine. -/
def parkExternal (s : Scheduler) (pid : Pid) : Scheduler :=
  let s := (s.detach pid).modify pid fun ex =>
    ex.mapThread fun t => { t with holdList := .external }
  { s with external := insertPid pid s.external }

end Scheduler

end ScriptScheduler
