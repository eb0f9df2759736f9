import ScriptScheduler.Program.Basic
import ScriptScheduler.Value.Exchange

/-!
# The engine

An engine runs the functions of engine programs. A call returns a value, fails, or is deferred;
a deferred call is settled later, once, by a value, a failure or by being dropped. An engine also
takes the answers to the requests that its scripts made.

Every call and every answer carries a request number that occurs only once, so a function of the
call describes any engine, also one whose replies change over time.
-/

namespace ScriptScheduler

/-- A call of an engine function. -/
structure EngineCall where
  id : RequestId
  pid : Pid
  scriptname : String
  function : FunctionRef
  args : List Json

/-- How a deferred call ends. -/
inductive Settlement where
  | resolved (value : Json)
  | rejected (message : String)
  | dropped

/-- The reply to a call. -/
inductive EngineReply where
  | value (json : Json)
  | failure (message : String)
  /-- The call is settled later, or has been settled before it returned. -/
  | deferred (settlement : Option Settlement)

/-- An engine. -/
structure Engine where
  /-- The reply to a call. -/
  call : EngineCall → EngineReply
  /-- Whether the engine waits for the answer to a request. -/
  accepts : RequestId → Json → Bool

/-- A deferred call whose reply has been noted. -/
structure PendingCall where
  id : RequestId
  pid : Pid
  scriptname : String
  settlement : Option Settlement

end ScriptScheduler
