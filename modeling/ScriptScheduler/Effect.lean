import ScriptScheduler.Engine
import ScriptScheduler.Error
import ScriptScheduler.Request.Holder
import ScriptScheduler.Value.Text

/-!
# Effects

Operations do not write logs or talk to the engine. They return, beside their result, the record of
what they did in order: the effects on the outside, which are notices for the log and notes of what
the engine was given, the requests that were numbered and the answers that bytecode scripts were
given on their stacks. `Logged` is a result with this record.
-/

namespace ScriptScheduler

/-! ### Notices -/

/-- How grave a notice is. -/
inductive Level where
  | info
  | warning
  | error
  deriving DecidableEq

/-- Something the log is told. -/
inductive Notice where
  | scriptStarted (pid : Pid) (script : String)
  | childStarted (parent child : Pid)
  | printed (value : Val)
  | runawayWarning (pid : Pid) (script : String) (cycles : Nat)
  | scriptFaulted (pid : Pid) (script : String) (instrCycles : Nat) (cause : Fault)
  | runawayTerminated (pid : Pid) (script : String) (instrCycles cycles : Nat)
  | eventRejected (pid : Pid) (script : String) (cause : SignalError)
  | requestForUnknown (pid : Pid)
  | requestWhileBlocked (pid : Pid) (kind : RequestKind)
  | noDelayedObject (pid : Pid) (id : RequestId)
  | answerWithoutEngine (pid : Pid) (id : RequestId)
  | engineCallFailed (id : RequestId) (pid : Pid) (script message : String)
  | engineCallErrored (id : RequestId) (pid : Pid) (script message : String)
  | noEngine (pid : Pid) (script : String)
  | shuttingDown (count : Nat)
  | profile (script : String) (instrCycles sleepCycles : Nat)
  | fileLoaded (pid : Pid) (file : String)
  | tickLimit (ticks remaining : Nat)
  | nothingToWake (remaining : Nat)

namespace Notice

/-- The level of a notice. -/
def level : Notice → Level
  | .scriptStarted .. | .childStarted .. | .printed _ | .shuttingDown _ | .profile ..
  | .fileLoaded .. => .info
  | .runawayWarning .. | .eventRejected .. | .requestForUnknown _ | .requestWhileBlocked ..
  | .noDelayedObject .. | .tickLimit .. | .nothingToWake _ => .warning
  | .scriptFaulted .. | .runawayTerminated .. | .answerWithoutEngine .. | .engineCallFailed ..
  | .engineCallErrored .. | .noEngine .. => .error

/-- The message of a notice. -/
def message : Notice → String
  | .scriptStarted .. => "script started"
  | .childStarted .. => "started child script"
  | .printed _ => "print"
  | .runawayWarning _ _ cycles => "Runaway script: " ++ toString cycles ++ " cycles"
  | .scriptFaulted _ _ _ cause => "script faulted: " ++ cause.message
  | .runawayTerminated _ _ _ cycles =>
    "terminating runaway script after " ++ toString cycles ++ " cycles"
  | .eventRejected _ _ cause => "event rejected: " ++ cause.message
  | .requestForUnknown _ => "request for unknown executor"
  | .requestWhileBlocked .. => "request refused, script is already blocked"
  | .noDelayedObject .. => "engine had no delayed object for request"
  | .answerWithoutEngine .. => "engine script answered without an engine"
  | .engineCallFailed _ _ script message =>
    "Error running engine script " ++ script ++ ": " ++ message
  | .engineCallErrored _ _ _ message => "script errored: " ++ message
  | .noEngine .. => "no engine registered for engine script"
  | .shuttingDown _ => "shutting down scheduler"
  | .profile script instrCycles sleepCycles =>
    "Script " ++ script ++ ": " ++ toString instrCycles ++ " instr cycles, " ++
      toString sleepCycles ++ " sleep cycles"
  | .fileLoaded .. => "loaded script"
  | .tickLimit .. => "tick limit reached"
  | .nothingToWake _ => "scripts blocked with nothing to wake them"

/-- The named details of a notice. -/
def details : Notice → List (String × String)
  | .scriptStarted pid script => [("pid", pid.text), ("script", script)]
  | .childStarted parent child => [("parent", parent.text), ("child", child.text)]
  | .printed value => [("value", value.display)]
  | .runawayWarning pid script _ => [("pid", pid.text), ("script", script)]
  | .scriptFaulted pid script cycles _ | .runawayTerminated pid script cycles _ =>
    [("pid", pid.text), ("script", script), ("instr_cycles", toString cycles)]
  | .eventRejected pid script _ => [("pid", pid.text), ("script", script)]
  | .requestForUnknown pid => [("pid", pid.text)]
  | .requestWhileBlocked pid kind => [("pid", pid.text), ("kind", kind.name)]
  | .noDelayedObject pid id => [("pid", pid.text), ("request_id", id.text)]
  | .answerWithoutEngine pid id => [("pid", pid.text), ("request_id", id.text)]
  | .engineCallFailed id pid _ _ => [("request_id", id.text), ("pid", pid.text)]
  | .engineCallErrored id pid script _ =>
    [("request_id", id.text), ("pid", pid.text), ("script", script)]
  | .noEngine pid script => [("pid", pid.text), ("script", script)]
  | .shuttingDown count => [("count", toString count)]
  | .profile .. => []
  | .fileLoaded pid file => [("pid", pid.text), ("file", file)]
  | .tickLimit ticks remaining =>
    [("ticks", toString ticks), ("remaining", toString remaining)]
  | .nothingToWake remaining => [("remaining", toString remaining)]

end Notice

/-! ### Effects and records -/

/-- Something that reaches the outside. -/
inductive Effect where
  | notice (notice : Notice)
  /-- The engine was called. -/
  | called (call : EngineCall)
  /-- The engine was given the answer to a request. -/
  | answered (id : RequestId) (value : Json)
  /-- The engine was told that a script it manages is torn down. -/
  | tornDown (pid : Pid) (scriptname : String)

/-- An entry of the record of an operation. -/
inductive Entry where
  | effect (effect : Effect)
  /-- A request of a script was given a number. -/
  | asked (pid : Pid) (id : RequestId)
  /-- A bytecode script was given the answer to a request in the slot on its stack. -/
  | delivered (pid : Pid) (id : RequestId) (value : Val)

/-- The effect on the outside that an entry records. -/
def Entry.effect? : Entry → Option Effect
  | .effect seen => some seen
  | .asked .. | .delivered .. => none

/-- A result and the record of getting it, in order. -/
structure Logged (α : Type) where
  value : α
  entries : List Entry := []

namespace Logged

/-- The effects of getting a result, in order. -/
def effects {α : Type} (x : Logged α) : List Effect := x.entries.filterMap Entry.effect?

/-- A result without a record, and results one after the other. -/
instance : Monad Logged where
  pure a := ⟨a, []⟩
  bind x f := ⟨(f x.value).value, x.entries ++ (f x.value).entries⟩

/-- Tells the log. -/
def tell (notice : Notice) : Logged Unit := ⟨(), [.effect (.notice notice)]⟩

/-- Tells the log if there is something to tell. -/
def tellAll (notices : List Notice) : Logged Unit :=
  ⟨(), notices.map fun notice => .effect (.notice notice)⟩

/-- Has an effect on the engine. -/
def perform (effect : Effect) : Logged Unit := ⟨(), [.effect effect]⟩

/-- Gives a request of a script a number. -/
def ask (pid : Pid) (id : RequestId) : Logged Unit := ⟨(), [.asked pid id]⟩

/-- Gives a bytecode script the answer to a request. -/
def deliver (pid : Pid) (id : RequestId) (value : Val) : Logged Unit :=
  ⟨(), [.delivered pid id value]⟩

@[simp] theorem pure_value {α : Type} (a : α) : (pure a : Logged α).value = a := rfl

@[simp] theorem pure_entries {α : Type} (a : α) : (pure a : Logged α).entries = [] := rfl

@[simp] theorem bind_value {α β : Type} (x : Logged α) (f : α → Logged β) :
    (x >>= f).value = (f x.value).value := rfl

@[simp] theorem bind_entries {α β : Type} (x : Logged α) (f : α → Logged β) :
    (x >>= f).entries = x.entries ++ (f x.value).entries := rfl

@[simp] theorem tell_entries (notice : Notice) :
    (tell notice).entries = [.effect (.notice notice)] := rfl

@[simp] theorem tellAll_entries (notices : List Notice) :
    (tellAll notices).entries = notices.map fun notice => .effect (.notice notice) := rfl

@[simp] theorem perform_entries (effect : Effect) :
    (perform effect).entries = [.effect effect] := rfl

@[simp] theorem ask_entries (pid : Pid) (id : RequestId) :
    (ask pid id).entries = [.asked pid id] := rfl

@[simp] theorem deliver_entries (pid : Pid) (id : RequestId) (value : Val) :
    (deliver pid id value).entries = [.delivered pid id value] := rfl

end Logged

end ScriptScheduler
