import ScriptScheduler.Machine

/-!
# Refusals

Why the scheduler refuses an operation. Each cause is a constructor; `message` gives its text. An
operation that is refused may have done something before; a `Refusal` is the cause together with
the state that is left. A refused event goes back to its sender in a `Rejection`.
-/

namespace ScriptScheduler

/-- Why a script cannot do what was asked of it. -/
inductive Obstacle where
  | engineParent
  | runToCompletionParent
  | managedByEngine
  | notHalted
  deriving DecidableEq

/-- The text of an obstacle. -/
def Obstacle.message : Obstacle → String
  | .engineParent => "engine scripts cannot wait on a child script"
  | .runToCompletionParent => "run-to-completion scripts cannot wait on a child script"
  | .managedByEngine => "managed by the engine"
  | .notHalted => "not halted"

/-- Why an operation of the scheduler is refused. -/
inductive SchedulerError where
  | unknownPid (pid : Pid)
  | unsupportedProgram (scriptname : String) (type : ProgramType)
  | emptyProgram (scriptname : String)
  | alreadyBound (pid : Pid)
  | engineUnavailable (scriptname : String)
  | load (scriptname : String) (cause : LoadError)
  | notRunnable (pid : Pid) (obstacle : Obstacle)
  | alreadyWaiting (pid child : Pid)
  deriving DecidableEq

/-- The text of a refusal. -/
def SchedulerError.message : SchedulerError → String
  | .unknownPid pid => "no executor with pid " ++ pid.text
  | .unsupportedProgram name type =>
    "program " ++ name ++ " has unsupported runtime " ++ type.label
  | .emptyProgram name => "program " ++ name ++ " has no code to run"
  | .alreadyBound pid => "executor " ++ pid.text ++ " already has a program bound"
  | .engineUnavailable name => "no alternate engine registered for " ++ name
  | .load name cause => "vm rejected program " ++ name ++ ": " ++ cause.message
  | .notRunnable pid obstacle =>
    "executor " ++ pid.text ++ " cannot run to completion: " ++ obstacle.message
  | .alreadyWaiting pid child =>
    "invariant violated for executor " ++ pid.text ++ ": already waiting on child " ++ child.text

/-- A refused operation: why it is refused, and the state that it leaves. -/
structure Refusal (σ : Type) where
  cause : SchedulerError
  state : σ

/-- Where the state is not asked for, a refusal is its cause. -/
instance {σ : Type} : CoeOut (Refusal σ) SchedulerError := ⟨Refusal.cause⟩

/-- Why an event is refused. -/
inductive SignalError where
  | queueFull (capacity : Nat)
  | noEventQueue
  | unknownPid (pid : Pid)
  deriving DecidableEq

/-- The text of a refused event. -/
def SignalError.message : SignalError → String
  | .queueFull capacity => "event queue full (" ++ toString capacity ++ " events)"
  | .noEventQueue => "executor has no event queue"
  | .unknownPid pid => "no executor with pid " ++ pid.text

/-- A refused event: why it is refused, and the event, which the sender gets back. -/
structure Rejection where
  cause : SignalError
  event : Val

/-- Where the event is not asked for, a rejection is its cause. -/
instance : Coe Rejection SignalError := ⟨Rejection.cause⟩

end ScriptScheduler
