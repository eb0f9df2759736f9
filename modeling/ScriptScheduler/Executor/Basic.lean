import ScriptScheduler.Config.Basic
import ScriptScheduler.Effect

/-!
# Executors

An executor is one running script: its program and runtime, its stack, its counters, its thread,
its links to a parent and a child script and the holder of its pending requests. Nothing here
moves a script between the ready queue and the hold lists; that is the scheduler's part.
-/

namespace ScriptScheduler

/-- What is chosen when a script is started. -/
structure Options where
  priority : Nat
  eventQueueSize : Nat
  runawayThreshold : Nat
  runToCompletion : Bool := false
  critical : Bool := false
  deriving DecidableEq

/-- The options that a configuration asks for. -/
def Options.ofConfig (config : SchedulerConfig) : Options where
  priority := config.defaultPriority
  eventQueueSize := config.defaultEventQueueSize
  runawayThreshold := config.runawayScriptThreshold

/-- What runs a script. -/
inductive Runtime where
  | unbound
  | bytecode (machine : Machine)
  | engine (function : FunctionRef) (finished : Bool)

/-- What the debugger sees of a script's progress. -/
inductive ExecutorState where
  | running
  | sleeping
  | debugging
  deriving DecidableEq

/-- The name of a state. -/
def ExecutorState.name : ExecutorState → String
  | .running => "Running"
  | .sleeping => "Sleeping"
  | .debugging => "Debugging"

/-- What became of an event. -/
inductive Delivery where
  /-- It waits in the queue. -/
  | queued
  /-- It was put onto the stack of a script that waited for it. -/
  | woke
  deriving DecidableEq

/-- A script. The stack has its top first. -/
structure Executor where
  pid : Pid
  program : Option Program := none
  runtime : Runtime := .unbound
  thread : Thread
  stack : List Val := []
  instrCycles : Nat := 0
  sleepCycles : Nat := 0
  /-- The cycle at which the next runaway warning is due. -/
  warnOnCycle : Nat
  runawayCycles : Nat := 0
  options : Options
  halted : Bool := false
  result : Option Val := none
  parent : Option Pid := none
  child : Option Pid := none
  requests : Holder := .empty

namespace Executor

/-- A script without a program. -/
def new (pid : Pid) (options : Options) : Executor where
  pid := pid
  thread := { Thread.queued options.priority options.eventQueueSize with
    critical := options.critical }
  warnOnCycle := options.runawayThreshold
  options := options

/-! ### Looking at a script -/

/-- The name that stands for a script without a program. -/
def unboundName : String := "<unbound>"

/-- The name of the script. -/
def scriptname (ex : Executor) : String :=
  match ex.program with
  | some program => program.scriptname
  | none => unboundName

/-- The runtime that the program asks for. -/
def programType (ex : Executor) : Option ProgramType := ex.program.map Program.type

/-- Whether the script runs on the engine. -/
def isEngine (ex : Executor) : Bool :=
  match ex.runtime with
  | .engine _ _ => true
  | _ => false

/-- The engine function of the script. -/
def function? (ex : Executor) : Option FunctionRef :=
  match ex.runtime with
  | .engine function _ => some function
  | _ => none

/-- Whether the script has anything left to run. -/
def runnable (ex : Executor) : Bool :=
  match ex.runtime with
  | .unbound => false
  | .bytecode machine => machine.runnable
  | .engine _ finished => !finished

/-- Whether the script must not run. -/
def isBlocked (ex : Executor) : Bool := ex.thread.isBlocked

/-- The state of the script. -/
def state (ex : Executor) : ExecutorState :=
  if ex.halted then .debugging else if ex.isBlocked then .sleeping else .running

/-! ### Binding a program -/

/-- The runtime and the thread of a program. -/
def bindRuntime (options : Options) (program : Program) :
    Except SchedulerError (Runtime × Thread) :=
  match program.type with
  | .bytecode =>
    match Machine.load program with
    | .ok machine =>
      .ok (.bytecode machine, .queued options.priority options.eventQueueSize)
    | .error cause => .error (.load program.scriptname cause)
  | .engine =>
    match program.function? with
    | some function => .ok (.engine function false, .bridged options.priority)
    | none => .error (.unsupportedProgram program.scriptname program.type)
  | .unknown => .error (.unsupportedProgram program.scriptname program.type)

/-- Gives a script without a program its program, its runtime and the thread that goes with it. -/
def setProgram (ex : Executor) (program : Program) : Except (Refusal Executor) Executor :=
  match ex.program with
  | some _ => .error ⟨.alreadyBound ex.pid, ex⟩
  | none =>
    match bindRuntime ex.options program with
    | .error cause => .error ⟨cause, ex⟩
    | .ok (runtime, thread) =>
      .ok { ex with
        program := some program
        runtime := runtime
        thread := { thread with critical := ex.options.critical } }

/-! ### Blocking and delivery -/

/-- Changes the thread. -/
def mapThread (ex : Executor) (f : Thread → Thread) : Executor := { ex with thread := f ex.thread }

/-- Blocks the script, unless it runs to completion. -/
def suspend (ex : Executor) (wake : Nat) : Executor :=
  if ex.options.runToCompletion then ex else ex.mapThread fun t => t.suspend wake

/-- Ends a wait of the script. -/
def revive (ex : Executor) : Executor := ex.mapThread Thread.revive

/-- Puts a value in the place of the value on top of a stack. -/
def setTop (value : Val) (stack : List Val) : List Val := value :: stack.tail

/-- Puts a value into the slot on top of the stack. -/
def setResultSlot (ex : Executor) (value : Val) : Executor :=
  { ex with stack := setTop value ex.stack }

/-- Puts a value onto the stack. -/
def push (ex : Executor) (value : Val) : Executor := { ex with stack := value :: ex.stack }

/-- Makes room on the stack for an answer. The answers of an engine script go through the
engine. -/
def openResultSlot (ex : Executor) : Executor :=
  if ex.isEngine then ex else ex.push .sentinel

/-- Takes back the room for an answer. -/
def closeResultSlot (ex : Executor) : Executor :=
  if ex.isEngine then ex else { ex with stack := ex.stack.tail }

/-- Whether the script is blocked until an event comes. -/
def awaitsEvent (ex : Executor) : Bool := ex.isBlocked && ex.thread.waitType = .event

/-- Delivers an event: onto the stack of a script that waits for one, else into its queue. -/
def signalEvent (ex : Executor) (event : Val) : Except Rejection (Delivery × Executor) :=
  if ex.awaitsEvent then .ok (.woke, (ex.setResultSlot event).revive)
  else
    match ex.thread.post event with
    | .ok thread => .ok (.queued, { ex with thread := thread })
    | .error rejection => .error rejection

/-- Answers a request of the script; an aborted request is answered with the sentinel. A bytecode
script finds the answer on its stack, the answer of an engine script goes to the engine. -/
def handleRequest (ex : Executor) (id : RequestId) (response : Option Val)
    (engine : Option Engine) : Logged Executor :=
  let response := response.getD .sentinel
  match ex.runtime, engine with
  | .engine _ _, some engine => do
    let json := response.toEngine id
    Logged.perform (.answered id json)
    if engine.accepts id json then pure () else Logged.tell (.noDelayedObject ex.pid id)
    pure ex.revive
  | .engine _ _, none => do
    Logged.tell (.answerWithoutEngine ex.pid id)
    pure ex.revive
  | _, _ => do
    Logged.deliver ex.pid id response
    pure (ex.setResultSlot response).revive

/-! ### Settings of a running script -/

/-- Makes a script critical or not. A program bound later keeps it. -/
def setCritical (ex : Executor) (critical : Bool) : Executor :=
  { ex with
    options := { ex.options with critical := critical }
    thread := { ex.thread with critical := critical } }

/-- Changes the priority. -/
def setPriority (ex : Executor) (priority : Nat) : Executor :=
  ex.mapThread fun t => { t with priority := priority }

/-- Switches runaway warnings. -/
def setWarnOnRunaway (ex : Executor) (warn : Bool) : Executor :=
  ex.mapThread fun t => { t with warnOnRunaway := warn }

/-- Changes the bound of the event queue. A program bound later keeps it. -/
def setEventQueueSize (ex : Executor) (size : Nat) : Executor :=
  { ex with
    options := { ex.options with eventQueueSize := size }
    thread := ex.thread.setCapacity size }

/-- Notes the end of an engine call. -/
def finishEngine (ex : Executor) (value : Val) : Executor :=
  { ex with
    runtime := match ex.runtime with
      | .engine function _ => .engine function true
      | other => other
    thread := ex.thread.setOutstanding none
    result := some value }

end Executor

end ScriptScheduler
