import ScriptScheduler.Proofs.Events

/-!
# Scripts that are set up before they have a program

A script without a program has a thread with a queue, so it can be set up and events can join its
queue. When its program is bound it gets another thread, made from its options: what has been
written there is kept, and what is only in the old thread is lost. Whether the script is critical
and the bound of its queue are written in both places. The priority is written to the thread alone,
and for warnings and events there is no place in the options
(`Executor.Unbound.keptAtBinding`).
-/

namespace ScriptScheduler

/-! ### Steps before a program is bound -/

/-- What is done to a script before its program is bound. -/
inductive Setup where
  | edit (change : Edit)
  | signal (event : Val)

namespace Setup

/-- The script after a step. Without a result it has refused an event. -/
def performed? (ex : Executor) : Setup → Option Executor
  | .edit change => some (change.apply ex)
  | .signal event => (ex.signalEvent event).toOption.map Prod.snd

/-- The priority that a step gives. -/
def priority? : Setup → Option Nat
  | .edit (.setPriority priority) => some priority
  | _ => none

/-- Whether a script is critical after a step that says so. -/
def critical? : Setup → Option Bool
  | .edit (.setCritical critical) => some critical
  | _ => none

/-- Whether a script is warned of after a step that says so. -/
def warnOnRunaway? : Setup → Option Bool
  | .edit (.setWarnOnRunaway warn) => some warn
  | _ => none

/-- The bound of the event queue that a step gives. -/
def queueSize? : Setup → Option Nat
  | .edit (.setEventQueueSize size) => some size
  | _ => none

/-- The last of the values that steps give, `first` if they give none. -/
def lastGiven {α : Type} (given : Setup → Option α) (first : α) (steps : List Setup) : α :=
  steps.foldl (fun last step => (given step).getD last) first

/-- The events that steps leave in the queue. A script that waits for an event takes the first one
out of hand. -/
def queuedEvents : Bool → List Setup → List Val
  | _, [] => []
  | awaits, .edit _ :: rest => queuedEvents awaits rest
  | true, .signal _ :: rest => queuedEvents false rest
  | false, .signal event :: rest => event :: queuedEvents false rest

/-- From different values steps come to the same one if they give one. -/
theorem lastGiven_eq_iff {α : Type} {given : Setup → Option α} {steps : List Setup} :
    ∀ {first other : α}, lastGiven given first steps = lastGiven given other steps ↔
      (∃ step ∈ steps, (given step).isSome = true) ∨ first = other := by
  induction steps with
  | nil => simp [lastGiven]
  | cons step rest ih =>
    intro first other
    change lastGiven given ((given step).getD first) rest =
      lastGiven given ((given step).getD other) rest ↔ _
    rw [ih]
    cases value : given step <;> simp [value]

/-- Steps that give nothing leave what there was. -/
theorem lastGiven_none {α : Type} (first : α) (steps : List Setup) :
    lastGiven (fun _ => none) first steps = first := by
  induction steps with
  | nil => rfl
  | cons _ _ ih => exact ih

end Setup

open Setup

namespace Executor

/-- The script after steps. Without a result it has refused an event. -/
def setUp? (ex : Executor) : List Setup → Option Executor
  | [] => some ex
  | step :: rest => (step.performed? ex).bind fun ex => ex.setUp? rest

/-- A script without a program. Its thread has a queue. -/
structure Unbound (ex : Executor) : Prop where
  program : ex.program = none
  queue : ∃ capacity events, ex.thread.inbox = .queue capacity events

/-- A new script has no program. -/
theorem unbound_new (pid : Pid) (options : Options) : (new pid options).Unbound :=
  ⟨rfl, _, _, rfl⟩

end Executor

/-- The bound of a queue is changed in the inbox. -/
theorem Thread.setCapacity_queue {t : Thread}
    (queue : ∃ capacity events, t.inbox = .queue capacity events) (size : Nat) :
    t.setCapacity size = { t with inbox := .queue size t.events } := by
  obtain ⟨capacity, events, inbox⟩ := queue
  unfold setCapacity Thread.events
  rw [inbox]

/-- What a step does to a script without a program. -/
structure Setup.Does (step : Setup) (ex after : Executor) : Prop where
  unbound : after.Unbound
  priority : after.thread.priority = step.priority?.getD ex.thread.priority
  critical : after.thread.critical = step.critical?.getD ex.thread.critical
  warnOnRunaway : after.thread.warnOnRunaway = step.warnOnRunaway?.getD ex.thread.warnOnRunaway
  capacity : after.thread.capacity = step.queueSize?.getD ex.thread.capacity
  -- a step may end a wait, so its queue is looked at together with the steps to come
  events : ∀ rest, after.thread.events ++ queuedEvents after.awaitsEvent rest =
    ex.thread.events ++ queuedEvents ex.awaitsEvent (step :: rest)
  optionPriority : after.options.priority = ex.options.priority
  optionCritical : after.options.critical = step.critical?.getD ex.options.critical
  optionQueueSize : after.options.eventQueueSize = step.queueSize?.getD ex.options.eventQueueSize

namespace Executor

variable {start ex after bound : Executor} {steps : List Setup} {program : Program}

/-- A script without a program awaits an event if its thread was blocked for one. -/
theorem Unbound.awaitsEvent_eq (unbound : ex.Unbound) :
    ex.awaitsEvent = (ex.thread.blocked && ex.thread.waitType = .event) := by
  obtain ⟨capacity, events, inbox⟩ := unbound.queue
  simp [awaitsEvent, isBlocked, Thread.isBlocked, inbox]

/-- An edit does what it says. -/
theorem Unbound.does_edit (unbound : ex.Unbound) (change : Edit) :
    (Setup.edit change).Does ex (change.apply ex) := by
  cases change with
  | setEventQueueSize size =>
    change (Setup.edit (.setEventQueueSize size)).Does ex (ex.setEventQueueSize size)
    unfold setEventQueueSize
    rw [Thread.setCapacity_queue unbound.queue]
    have after : Unbound { ex with
        options := { ex.options with eventQueueSize := size }
        thread := { ex.thread with inbox := .queue size ex.thread.events } } :=
      ⟨unbound.program, _, _, rfl⟩
    refine ⟨after, rfl, rfl, rfl, rfl, fun rest => ?_, rfl, rfl, rfl⟩
    rw [after.awaitsEvent_eq, unbound.awaitsEvent_eq]
    rfl
  | _ => exact ⟨⟨unbound.program, unbound.queue⟩, rfl, rfl, rfl, rfl, fun _ => rfl, rfl, rfl, rfl⟩

/-- An event that is accepted joins the queue, or it ends a wait for an event. -/
theorem Unbound.does_signal (unbound : ex.Unbound) {event : Val} {delivery : Delivery}
    (signalled : ex.signalEvent event = .ok (delivery, after)) :
    (Setup.signal event).Does ex after := by
  unfold signalEvent at signalled
  rw [Thread.post_queue unbound.queue] at signalled
  cases awaits : ex.awaitsEvent with
  | true =>
    rw [awaits, if_pos rfl] at signalled
    obtain ⟨-, rfl⟩ := Prod.mk.inj (Except.ok.inj signalled)
    refine ⟨⟨unbound.program, unbound.queue⟩, rfl, rfl, rfl, rfl, fun rest => ?_, rfl, rfl, rfl⟩
    have awake : ((ex.setResultSlot event).revive).awaitsEvent = false :=
      (⟨unbound.program, unbound.queue⟩ : Unbound (ex.setResultSlot event).revive).awaitsEvent_eq
    rw [awaits, awake]
    rfl
  | false =>
    rw [awaits, if_neg Bool.false_ne_true] at signalled
    split at signalled
    · next thread posted =>
      split at posted
      · exact absurd posted (by simp)
      · obtain ⟨-, rfl⟩ := Prod.mk.inj (Except.ok.inj signalled)
        obtain rfl := Except.ok.inj posted
        have after : Unbound { ex with thread := ex.thread.joined event } :=
          ⟨unbound.program, _, _, rfl⟩
        have waiting : awaitsEvent { ex with thread := ex.thread.joined event } = false := by
          rw [after.awaitsEvent_eq, ← awaits, unbound.awaitsEvent_eq]
          rfl
        refine ⟨after, rfl, rfl, rfl, rfl, fun rest => ?_, rfl, rfl, rfl⟩
        rw [awaits, waiting]
        exact List.append_assoc _ _ _
    · exact absurd signalled (by simp)

/-- A step that is not refused does what it says. -/
theorem Unbound.does {step : Setup} (unbound : ex.Unbound)
    (applied : step.performed? ex = some after) : step.Does ex after := by
  cases step with
  | edit change =>
    obtain rfl := Option.some.inj applied
    exact unbound.does_edit change
  | signal event =>
    change (ex.signalEvent event).toOption.map Prod.snd = some after at applied
    cases signalled : ex.signalEvent event with
    | error refusal =>
      rw [signalled] at applied
      exact absurd applied (by simp [Except.toOption])
    | ok accepted =>
      rw [signalled] at applied
      obtain rfl := Option.some.inj applied
      exact unbound.does_signal signalled

/-! ### Runs of steps -/

/-- A first step and the others. -/
theorem setUp?_cons {step : Setup} (setUp : start.setUp? (step :: steps) = some ex) :
    ∃ middle, step.performed? start = some middle ∧ middle.setUp? steps = some ex :=
  Option.bind_eq_some_iff.mp setUp

/-- What each step gives or keeps is at the end what was given last. -/
theorem Unbound.lastGiven {α : Type} {view : Executor → α} (given : Setup → Option α)
    (each : ∀ {step : Setup} {ex after : Executor}, step.Does ex after →
      view after = (given step).getD (view ex))
    (unbound : start.Unbound) (setUp : start.setUp? steps = some ex) :
    view ex = Setup.lastGiven given (view start) steps := by
  induction steps generalizing start with
  | nil =>
    obtain rfl := Option.some.inj setUp
    rfl
  | cons step rest ih =>
    obtain ⟨middle, applied, setUp⟩ := setUp?_cons setUp
    have does := unbound.does applied
    rw [ih does.unbound setUp, each does]
    rfl

/-- The queue after steps is the queue before them and the events that they leave there. -/
theorem Unbound.events (unbound : start.Unbound) (setUp : start.setUp? steps = some ex) :
    ex.thread.events = start.thread.events ++ queuedEvents start.awaitsEvent steps := by
  induction steps generalizing start with
  | nil =>
    obtain rfl := Option.some.inj setUp
    rw [queuedEvents, List.append_nil]
  | cons step rest ih =>
    obtain ⟨middle, applied, setUp⟩ := setUp?_cons setUp
    have does := unbound.does applied
    rw [ih does.unbound setUp, does.events]

/-! ### Binding -/

/-- The thread of a bytecode script is a new one, made from the options. -/
theorem setProgram_thread (bytecode : program.type = .bytecode)
    (binds : ex.setProgram program = .ok bound) :
    bound.thread = { Thread.queued ex.options.priority ex.options.eventQueueSize with
      critical := ex.options.critical } := by
  unfold setProgram at binds
  split at binds
  · exact absurd binds (by simp)
  · split at binds
    · exact absurd binds (by simp)
    · next runtime thread made =>
      obtain rfl := Except.ok.inj binds
      rcases Scheduler.bindRuntime_cases made with ⟨-, _, -, rfl⟩ | ⟨engine, -⟩
      · rfl
      · exact absurd (bytecode.symm.trans engine) (by decide)

/-- What binding a program keeps of a script that has been set up in steps: whether it is critical
and the bound of its queue if a step said so, or if thread and options agreed at first, as those of
a new script do; the priority if the last one given is the one in the options; that it is warned
of, and that it has no events. -/
structure KeptAtBinding (start : Executor) (steps : List Setup) (ex bound : Executor) : Prop where
  critical : bound.thread.critical = ex.thread.critical ↔
    (∃ step ∈ steps, step.critical?.isSome = true) ∨
      start.options.critical = start.thread.critical
  capacity : bound.thread.capacity = ex.thread.capacity ↔
    (∃ step ∈ steps, step.queueSize?.isSome = true) ∨
      start.options.eventQueueSize = start.thread.capacity
  priority : bound.thread.priority = ex.thread.priority ↔
    start.options.priority = lastGiven priority? start.thread.priority steps
  warnOnRunaway : bound.thread.warnOnRunaway = ex.thread.warnOnRunaway ↔
    lastGiven warnOnRunaway? start.thread.warnOnRunaway steps = true
  events : bound.thread.events = ex.thread.events ↔
    start.thread.events = [] ∧ queuedEvents start.awaitsEvent steps = []

/-- Binding a program keeps what has been set up in the options. -/
theorem Unbound.keptAtBinding (unbound : start.Unbound) (setUp : start.setUp? steps = some ex)
    (bytecode : program.type = .bytecode) (binds : ex.setProgram program = .ok bound) :
    KeptAtBinding start steps ex bound := by
  have thread := setProgram_thread bytecode binds
  have optionPriority : ex.options.priority = start.options.priority :=
    (unbound.lastGiven (fun _ => none) Does.optionPriority setUp).trans
      (lastGiven_none _ _)
  constructor
  case critical =>
    rw [thread, ← lastGiven_eq_iff, ← unbound.lastGiven critical? Does.optionCritical setUp,
      ← unbound.lastGiven critical? Does.critical setUp]
  case capacity =>
    rw [thread, ← lastGiven_eq_iff, ← unbound.lastGiven queueSize? Does.optionQueueSize setUp,
      ← unbound.lastGiven queueSize? Does.capacity setUp]
    rfl
  case priority =>
    rw [thread, ← optionPriority, ← unbound.lastGiven priority? Does.priority setUp]
    rfl
  case warnOnRunaway =>
    rw [thread, ← unbound.lastGiven warnOnRunaway? Does.warnOnRunaway setUp]
    exact eq_comm
  case events =>
    rw [thread, ← List.append_eq_nil_iff, ← unbound.events setUp]
    exact eq_comm

/-- A new script. -/
def unbornScript : Executor := new ⟨1⟩ (.ofConfig {})

/-- A script is made critical and urgent, its queue is made small, it is not to be warned of, and an
event joins its queue. -/
def urgentSetup : List Setup :=
  [.edit (.setCritical true), .edit (.setEventQueueSize 3), .edit (.setPriority 5),
    .edit (.setWarnOnRunaway false), .signal (.long 7)]

/-- The new script after these steps. -/
def urgentScript : Executor :=
  { unbornScript with
    options := { unbornScript.options with critical := true, eventQueueSize := 3 }
    thread := { unbornScript.thread with
      critical := true
      priority := 5
      warnOnRunaway := false
      inbox := .queue 3 [.long 7] } }

/-- A new script can be set up and bound. -/
theorem keptAtBinding_urgent :
    unbornScript.Unbound ∧ unbornScript.setUp? urgentSetup = some urgentScript ∧
      errand.type = .bytecode ∧ ∃ bound, urgentScript.setProgram errand = .ok bound ∧
        KeptAtBinding unbornScript urgentSetup urgentScript bound := by
  have unbound : unbornScript.Unbound := unbound_new _ _
  have setUp : unbornScript.setUp? urgentSetup = some urgentScript := rfl
  obtain ⟨bound, binds⟩ : ∃ bound, urgentScript.setProgram errand = .ok bound := ⟨_, rfl⟩
  exact ⟨unbound, setUp, rfl, bound, binds, unbound.keptAtBinding setUp rfl binds⟩

/-- Its priority, its silence and its event are lost with its thread. -/
theorem not_kept_urgent :
    unbornScript.setUp? urgentSetup = some urgentScript ∧ errand.type = .bytecode ∧
      ∃ bound, urgentScript.setProgram errand = .ok bound ∧
        urgentScript.thread.priority = 5 ∧ bound.thread.priority = 1 ∧
        urgentScript.thread.warnOnRunaway = false ∧ bound.thread.warnOnRunaway = true ∧
        urgentScript.thread.events = [.long 7] ∧ bound.thread.events = [] :=
  ⟨rfl, rfl, _, rfl, rfl, rfl, rfl, rfl, rfl, rfl⟩

end Executor

end ScriptScheduler
