import ScriptScheduler.Error

/-!
# Threads

A thread is the part of a script that the scheduler looks at: whether it is blocked and until
when, where it is held, how much it may run at a time, and its inbox. A bytecode script has a
bounded queue of events. An engine script has no queue; while a call of it is outstanding it
counts as blocked.
-/

namespace ScriptScheduler

/-- What a blocked script waits for. -/
inductive WaitType where
  /-- A timer, an answer or a child script. -/
  | wait
  /-- An event, which is put straight onto the stack. -/
  | event
  deriving DecidableEq

/-- Where the scheduler keeps a script. -/
inductive HoldList where
  /-- In the ready queue, or running. -/
  | none
  /-- Among the sleepers with a wake clock. -/
  | timeout
  /-- Among the sleepers without a wake clock. -/
  | noTimeout
  /-- Parked for the debugger. -/
  | debugger
  /-- Managed by the engine. -/
  | external
  deriving DecidableEq

/-- The name of a hold list. -/
def HoldList.name : HoldList → String
  | .none => "none"
  | .timeout => "timeout"
  | .noTimeout => "notimeout"
  | .debugger => "debugger"
  | .external => "external"

/-- The entry of a sleeper with a wake clock. Entries are ordered by clock, and at the same clock
by the order in which they were made. -/
structure TimerKey where
  wake : Nat
  seq : Nat
  deriving DecidableEq

/-- The order of timer entries. -/
def TimerKey.before (a b : TimerKey) : Bool :=
  a.wake < b.wake || (a.wake = b.wake && a.seq < b.seq)

/-- Where a thread takes what is sent to its script. -/
inductive Inbox where
  /-- A bounded queue of events, the oldest first. -/
  | queue (capacity : Nat) (events : List Val)
  /-- The engine call that is outstanding, if any. -/
  | call (outstanding : Option RequestId)

/-- The scheduling side of a script. -/
structure Thread where
  blocked : Bool := false
  critical : Bool := false
  warnOnRunaway : Bool := true
  priority : Nat
  sleepUntil : Nat := Clock.never
  waitType : WaitType := .wait
  timer : Option TimerKey := none
  holdList : HoldList := .none
  inbox : Inbox

namespace Thread

/-- The priority of a thread unless another is given. -/
def defaultPriority : Nat := 1

/-- The bound of an event queue unless another is given. -/
def defaultCapacity : Nat := 20

/-- The thread of a bytecode script. -/
def queued (priority capacity : Nat) : Thread :=
  { priority := priority, inbox := .queue capacity [] }

/-- The thread of an engine script. -/
def bridged (priority : Nat) : Thread := { priority := priority, inbox := .call none }

/-! ### Blocking -/

/-- Whether the script must not run. -/
def isBlocked (t : Thread) : Bool :=
  t.blocked ||
    match t.inbox with
    | .queue _ _ => false
    | .call outstanding => outstanding.isSome

/-- Blocks until the clock shows `wake`, or until revived if that is `Clock.never`. -/
def suspend (t : Thread) (wake : Nat) : Thread :=
  { t with blocked := true, sleepUntil := wake }

/-- Ends a wait. -/
def revive (t : Thread) : Thread :=
  { t with blocked := false, sleepUntil := Clock.never, waitType := .wait }

/-! ### The inbox -/

/-- The events in the queue, the oldest first. -/
def events (t : Thread) : List Val :=
  match t.inbox with
  | .queue _ events => events
  | .call _ => []

/-- The engine call that is outstanding. -/
def outstanding (t : Thread) : Option RequestId :=
  match t.inbox with
  | .queue _ _ => none
  | .call outstanding => outstanding

/-- Puts an event at the end of the queue. -/
def post (t : Thread) (event : Val) : Except Rejection Thread :=
  match t.inbox with
  | .call _ => .error ⟨.noEventQueue, event⟩
  | .queue capacity events =>
    if capacity ≤ events.length then .error ⟨.queueFull capacity, event⟩
    else .ok { t with inbox := .queue capacity (events ++ [event]) }

/-- Only a queue takes an event, and it takes it at its end. -/
theorem post_ok {t t' : Thread} {event : Val} (posted : t.post event = .ok t') :
    ∃ capacity events, t.inbox = .queue capacity events ∧
      t' = { t with inbox := .queue capacity (events ++ [event]) } := by
  unfold post at posted
  split at posted
  · exact absurd posted (by simp)
  · next capacity events inbox =>
    split at posted
    · exact absurd posted (by simp)
    · exact ⟨capacity, events, inbox, (Except.ok.inj posted).symm⟩

/-- Takes the oldest event out of the queue. -/
def nextEvent (t : Thread) : Option Val × Thread :=
  match t.inbox with
  | .queue capacity (event :: rest) => (some event, { t with inbox := .queue capacity rest })
  | _ => (none, t)

/-- An event that is taken was the first one of a queue, and the others stay. -/
theorem nextEvent_some {t t' : Thread} {event : Val} (taken : t.nextEvent = (some event, t')) :
    ∃ capacity rest, t.inbox = .queue capacity (event :: rest) ∧
      t' = { t with inbox := .queue capacity rest } := by
  unfold nextEvent at taken
  split at taken
  · next capacity first rest inbox =>
    obtain ⟨first, rfl⟩ := Prod.mk.inj taken
    exact ⟨capacity, rest, Option.some.inj first ▸ inbox, rfl⟩
  · exact absurd taken (by simp)

/-- Drops all queued events. -/
def clearEvents (t : Thread) : Thread :=
  match t.inbox with
  | .queue capacity _ => { t with inbox := .queue capacity [] }
  | .call _ => t

/-- The bound of the queue, `0` without a queue. -/
def capacity (t : Thread) : Nat :=
  match t.inbox with
  | .queue capacity _ => capacity
  | .call _ => 0

/-- Changes the bound of the queue. Queued events stay. -/
def setCapacity (t : Thread) (capacity : Nat) : Thread :=
  match t.inbox with
  | .queue _ events => { t with inbox := .queue capacity events }
  | .call _ => t

/-- Notes the outstanding engine call of an engine script. -/
def setOutstanding (t : Thread) (call : Option RequestId) : Thread :=
  match t.inbox with
  | .queue _ _ => t
  | .call _ => { t with inbox := .call call }

end Thread

end ScriptScheduler
