import ScriptScheduler.Executor.Slice
import ScriptScheduler.Request.Table
import ScriptScheduler.Value.Layout

/-!
# The scheduler

A scheduler owns all live scripts, the queue of ready scripts, four hold lists, the pending
requests, the pending engine calls and the exit records. This file holds the state and the access
to single scripts; the operations are in the files beside it.
-/

namespace ScriptScheduler

/-! ### Exit records -/

/-- Why a script is no longer live. -/
inductive ExitReason where
  | finished
  | faulted
  | runaway
  | killed
  | shutdown
  deriving DecidableEq

/-- The name of a reason. -/
def ExitReason.name : ExitReason → String
  | .finished => "finished"
  | .faulted => "faulted"
  | .runaway => "runaway"
  | .killed => "killed"
  | .shutdown => "shutdown"

/-- The record of a script that is no longer live. -/
structure ScriptExit where
  pid : Pid
  scriptname : String
  reason : ExitReason
  result : Val
  instrCycles : Nat
  sleepCycles : Nat

/-- An exit record as JSON. -/
def ScriptExit.toJson (exit : ScriptExit) : Json :=
  .obj [("pid", .int exit.pid.number), ("scriptname", .str exit.scriptname),
    ("reason", .str exit.reason.name), ("result", exit.result.toJson),
    ("instr_cycles", .int exit.instrCycles), ("sleep_cycles", .int exit.sleepCycles)]

/-! ### State -/

/-- The state of a scheduler. -/
structure Scheduler where
  config : SchedulerConfig := {}
  engine : Option Engine := none
  /-- The pending engine calls, by request number. -/
  calls : List PendingCall := []
  /-- The live scripts, by number. -/
  executors : List Executor := []
  /-- The ready scripts, the next one first. -/
  ready : List Pid := []
  /-- The sleepers with a wake clock, the next one first. -/
  timeouts : List (TimerKey × Pid) := []
  /-- The sleepers without a wake clock. -/
  untimed : List Pid := []
  /-- The scripts parked for the debugger. -/
  debugger : List Pid := []
  /-- The scripts managed by the engine. -/
  external : List Pid := []
  requests : RequestTable := {}
  /-- The exit records, the oldest first. -/
  exits : List ScriptExit := []
  nextPid : Pid := ⟨1⟩
  /-- How many numbers have been handed out to requests and engine calls. -/
  issued : Nat := 0
  nextTimerSeq : Nat := 0

namespace Scheduler

/-- A scheduler without scripts. -/
def empty (config : SchedulerConfig) (engine : Option Engine) : Scheduler :=
  { config := config, engine := engine }

/-- The number of the next request or engine call. -/
def nextRequestId (s : Scheduler) : RequestId := .ofCount s.issued

/-! ### Single scripts -/

/-- The live script with a given number. -/
def get? (s : Scheduler) (pid : Pid) : Option Executor :=
  s.executors.find? fun ex => ex.pid = pid

/-- The live script with a given number, or the refusal of an unknown number. -/
def executor (s : Scheduler) (pid : Pid) : Except SchedulerError Executor :=
  match s.get? pid with
  | some ex => .ok ex
  | none => .error (.unknownPid pid)

/-- Changes the live script with a given number. -/
def modify (s : Scheduler) (pid : Pid) (f : Executor → Executor) : Scheduler :=
  { s with executors := s.executors.map fun ex => if ex.pid = pid then f ex else ex }

/-- Puts a new version of a live script in the place of the old one. -/
def store (s : Scheduler) (ex : Executor) : Scheduler := s.modify ex.pid fun _ => ex

/-- Forgets a script. -/
def erase (s : Scheduler) (pid : Pid) : Scheduler :=
  { s with executors := s.executors.filter fun ex => ex.pid ≠ pid }

/-! ### Looking at the state -/

/-- Whether no script is live. -/
def isEmpty (s : Scheduler) : Bool := s.executors.isEmpty

/-- How many scripts are live. -/
def size (s : Scheduler) : Nat := s.executors.length

/-- Whether a script is in the ready queue. -/
def isReady (s : Scheduler) (pid : Pid) : Bool := s.ready.contains pid

/-- How many scripts sleep. -/
def blockedCount (s : Scheduler) : Nat := s.timeouts.length + s.untimed.length

/-- How long nothing needs to be done: no time while a script is ready, else until the earliest
wake clock, and without an end if there is none. -/
def clocksLeft (s : Scheduler) (now : Nat) : Option Nat :=
  if s.ready.isEmpty then s.timeouts.head?.map fun entry => entry.1.wake - now else some 0

/-- The scheduler without its exit records. -/
def takeExits (s : Scheduler) : List ScriptExit × Scheduler := (s.exits, { s with exits := [] })

end Scheduler

end ScriptScheduler
