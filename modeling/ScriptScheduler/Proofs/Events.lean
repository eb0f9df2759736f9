import ScriptScheduler.Proofs.Turns
import ScriptScheduler.Proofs.Waiting

/-!
# The events of a script

Events reach a bytecode script on two ways: a script that waits for an event finds it in its slot at
once, and otherwise it joins the queue, from which instructions take it. A script that waits has an
empty queue, so neither way overtakes the other: what has been accepted is what has been handed to
the script, followed by what is in its queue (`History.keepsEvents`).
-/

namespace ScriptScheduler

open Scheduler

/-! ### The inbox -/

namespace Thread

variable {t : Thread}

/-- The queue of a thread is in its inbox. -/
theorem events_of_inbox {a b : Thread} (same : b.inbox = a.inbox) : b.events = a.events := by
  unfold events
  rw [same]

/-- The next event is the first one of the queue. -/
theorem events_nextEvent (t : Thread) :
    t.events = t.nextEvent.1.toList ++ t.nextEvent.2.events := by
  unfold nextEvent
  split
  · next inbox => simp [events, inbox]
  · rfl

/-- Without a next event the queue is empty. -/
theorem events_of_nextEvent_none {rest : Thread} (none : t.nextEvent = (none, rest)) :
    t.events = [] := by
  unfold nextEvent at none
  split at none
  · exact absurd none (by simp)
  · next empty =>
    unfold events
    split
    · next capacity events inbox =>
      cases events with
      | nil => rfl
      | cons event rest => exact absurd inbox (empty capacity event rest)
    · rfl

/-- A thread that waits for an event has none in its queue. -/
def Drained (t : Thread) : Prop := t.waitType = .event → t.events = []

/-- A revived thread waits for nothing. -/
theorem drained_of_wait (waits : t.waitType = .wait) : t.Drained :=
  fun event => absurd (waits.symm.trans event) (by decide)

/-- Whether a thread is drained depends on its inbox and on what it waits for. -/
theorem Drained.congr {a b : Thread} (h : a.Drained) (inbox : b.inbox = a.inbox)
    (waitType : b.waitType = a.waitType) : b.Drained := by
  intro waits
  rw [events_of_inbox inbox]
  exact h (waitType.symm.trans waits)

/-- A thread with a queue that an event has joined. -/
def joined (event : Val) (t : Thread) : Thread :=
  { t with inbox := .queue t.capacity (t.events ++ [event]) }

/-- An event joins a queue if there is room for it. -/
theorem post_queue (queue : ∃ capacity events, t.inbox = .queue capacity events) (event : Val) :
    t.post event = if t.capacity ≤ t.events.length then .error ⟨.queueFull t.capacity, event⟩
      else .ok (t.joined event) := by
  obtain ⟨capacity, events, inbox⟩ := queue
  unfold post joined Thread.capacity Thread.events
  rw [inbox]

/-- The bound of a queue may change, its events stay. -/
theorem events_setCapacity (t : Thread) (size : Nat) : (t.setCapacity size).events = t.events := by
  unfold setCapacity
  split
  · next inbox => simp [events, inbox]
  · rfl

end Thread

/-- What a step hands to its script from the queue: what an instruction that takes events leaves in
the slot on top of the stack, if there was an event in the queue. -/
def Step.received? (events stack : List Val) : Step → Option Val
  | .waitForEvent _ => if events.isEmpty then none else stack.head?
  | _ => none

namespace Executor

variable {ex a b ran : Executor} {gone : Pid → Prop} {wrapped : Prop} {may : Act → Prop}

/-- A suspended script has its events and waits for what it waited for. -/
theorem suspend_inbox (ex : Executor) (wake : Nat) :
    (ex.suspend wake).thread.inbox = ex.thread.inbox ∧
      (ex.suspend wake).thread.waitType = ex.thread.waitType := by
  unfold suspend
  split
  · exact ⟨rfl, rfl⟩
  · exact ⟨rfl, rfl⟩

/-- What the step of an instruction hands to the script is the first event of the queue. -/
theorem events_applyStep (ex : Executor) (now : Nat) (step : Step) :
    ex.thread.events =
      (step.received? ex.thread.events (ex.applyStep now step).1.stack).toList ++
        (ex.applyStep now step).1.thread.events := by
  cases step with
  | proceed | exit | fault => rfl
  | sleep ms => exact (Thread.events_of_inbox (ex.suspend_inbox _).1).symm
  | halt =>
    unfold applyStep
    dsimp only
    split <;> rfl
  | waitForEvent timeout =>
    have next := ex.thread.events_nextEvent
    unfold applyStep Step.received?
    rcases taken : ex.thread.nextEvent with ⟨event | event, thread⟩
    · have empty := Thread.events_of_nextEvent_none taken
      dsimp only
      rw [empty, if_pos List.isEmpty_nil]
      split
      · exact empty.symm
      · exact ((Thread.events_of_inbox (ex.suspend_inbox _).1).trans empty).symm
    · rw [taken] at next
      rw [next]
      rfl

/-- The step of an instruction keeps the queue and its bound. -/
theorem queue_applyStep {capacity : Nat} (now : Nat) (step : Step)
    (h : ∃ events, ex.thread.inbox = .queue capacity events) :
    ∃ events, (ex.applyStep now step).1.thread.inbox = .queue capacity events := by
  cases step with
  | proceed | exit | fault => exact h
  | sleep ms => exact h.imp fun _ => (ex.suspend_inbox _).1.trans
  | halt =>
    unfold applyStep
    dsimp only
    split <;> exact h
  | waitForEvent timeout =>
    unfold applyStep
    dsimp only
    split
    · next event thread taken =>
      obtain ⟨events, inbox⟩ := h
      obtain ⟨bound, rest, was, rfl⟩ := Thread.nextEvent_some taken
      obtain ⟨rfl, -⟩ := Inbox.queue.inj (was.symm.trans inbox)
      exact ⟨rest, rfl⟩
    · split
      · exact h
      · exact h.imp fun _ => (ex.suspend_inbox _).1.trans

/-- After the step of an instruction a script that waits for an event has an empty queue. -/
theorem drained_applyStep (h : ex.thread.Drained) (now : Nat) (step : Step) :
    (ex.applyStep now step).1.thread.Drained := by
  cases step with
  | proceed | exit | fault => exact h
  | sleep ms => exact h.congr (ex.suspend_inbox _).1 (ex.suspend_inbox _).2
  | halt =>
    unfold applyStep
    dsimp only
    split <;> exact h
  | waitForEvent timeout =>
    unfold applyStep
    dsimp only
    split
    · next event thread taken =>
      obtain ⟨capacity, rest, inbox, rfl⟩ := Thread.nextEvent_some taken
      intro waits
      have empty := h waits
      unfold Thread.events at empty
      rw [inbox] at empty
      exact absurd empty (by simp)
    · next none =>
      split
      · exact h
      · intro _
        exact (Thread.events_of_inbox (ex.suspend_inbox _).1).trans
          (Thread.events_of_nextEvent_none none)

/-- The inbox of a bytecode script is a queue, and the queue is empty while the script waits for an
event. -/
structure Receptive (ex : Executor) : Prop where
  attentive : ex.thread.Attentive
  queue : ex.isEngine = false → ∃ capacity events, ex.thread.inbox = .queue capacity events
  drained : ex.thread.Drained

namespace Receptive

/-- A script that waits for what it waited for, or for no event, remains receptive if its inbox is
as it was. -/
theorem keep (h : a.Receptive) (attentive : b.thread.Attentive) (kind : b.isEngine = a.isEngine)
    (inbox : b.thread.inbox = a.thread.inbox)
    (waits : b.thread.waitType = a.thread.waitType ∨ b.thread.waitType = .wait) :
    b.Receptive where
  attentive := attentive
  queue bytecode := inbox ▸ h.queue (kind ▸ bytecode)
  drained := waits.elim (h.drained.congr inbox) Thread.drained_of_wait

/-- A script that is blocked until an event comes has none in its queue. -/
theorem empty (h : a.Receptive) (awaits : a.awaitsEvent = true) : a.thread.events = [] := by
  refine h.drained ?_
  unfold awaitsEvent at awaits
  simpa using (Bool.and_eq_true_iff.mp awaits).2

/-- A script remains receptive in a slice. -/
theorem slice {now : Nat} {limit : Option Nat} {outcome : SliceOutcome} (h : a.Receptive)
    (slice : Slice now limit a ran outcome) : ran.Receptive where
  attentive := slice.attentive h.attentive
  drained := slice.keeps_thread (fun _ step h => drained_applyStep h now step) h.drained
  queue bytecode := by
    obtain ⟨capacity, queue⟩ := h.queue (slice.carries.isEngine ▸ bytecode)
    exact ⟨capacity, slice.keeps_thread (P := fun t => ∃ events, t.inbox = .queue capacity events)
      (fun _ step h => queue_applyStep now step h) queue⟩

end Receptive

/-- A script changes its inbox only when it has a turn and when an event joins its queue. Otherwise
it waits for what it waited for, or for no event. -/
theorem ChangeBy.inbox (change : ChangeBy gone wrapped may a b) :
    may (.turn a.pid) ∧ (a.isEngine = false → ∃ now limit ran outcome,
      Slice now limit a ran outcome ∧ b.thread.inbox = ran.thread.inbox ∧
        b.thread.waitType = ran.thread.waitType) ∨
    may (.signal a.pid) ∧ a.awaitsEvent = false ∧ (∃ event, a.thread.post event = .ok b.thread) ∨
    b.thread.inbox = a.thread.inbox ∧
      (b.thread.waitType = a.thread.waitType ∨ b.thread.waitType = .wait) := by
  cases change with
  | preempted _ slice allowed => exact .inl ⟨allowed, fun _ => ⟨_, _, _, _, slice, rfl, rfl⟩⟩
  | slept _ slice _ allowed =>
    exact .inl ⟨allowed, fun _ => ⟨_, _, _, _, slice, Thread.held_inbox, Thread.held_waitType⟩⟩
  | stopped _ slice allowed => exact .inl ⟨allowed, fun _ => ⟨_, _, _, _, slice, rfl, rfl⟩⟩
  | called _ engine _ allowed =>
    exact .inl ⟨allowed, fun bytecode => absurd (bytecode.symm.trans engine) (by decide)⟩
  | queued busy posted allowed => exact .inr (.inl ⟨allowed, busy, _, posted⟩)
  | woken => exact .inr (.inr ⟨Thread.freed_inbox, .inr Thread.freed_waitType⟩)
  | @answered kind id _ value =>
    have same : ({ a with requests := a.requests.remove kind id }.answered value).thread =
        a.thread.revive := by
      unfold Executor.answered
      split <;> rfl
    have inbox := congrArg Thread.inbox same
    have waits := congrArg Thread.waitType same
    exact .inr (.inr ⟨Thread.freed_inbox.trans inbox, .inr (Thread.freed_waitType.trans waits)⟩)
  | timedOut => exact .inr (.inr ⟨rfl, .inr rfl⟩)
  | resumed => exact .inr (.inr ⟨Thread.freed_inbox, .inr Thread.freed_waitType⟩)
  | orphaned => exact .inr (.inr ⟨rfl, .inl rfl⟩)
  | halted => exact .inr (.inr ⟨rfl, .inl rfl⟩)
  | releasedBlocked => exact .inr (.inr ⟨Thread.held_inbox, .inl Thread.held_waitType⟩)
  | released => exact .inr (.inr ⟨rfl, .inl rfl⟩)
  | requested _ _ wake seq =>
    obtain ⟨inbox, waits⟩ := a.suspend_inbox wake
    have same : (a.suspend wake).openResultSlot.thread = (a.suspend wake).thread := by
      unfold openResultSlot
      split <;> rfl
    rw [← same] at inbox waits
    exact .inr (.inr ⟨Thread.held_inbox.trans inbox, .inl (Thread.held_waitType.trans waits)⟩)
  | takenBack => exact .inr (.inr ⟨rfl, .inr rfl⟩)
  | awaited _ child =>
    obtain ⟨inbox, waits⟩ :=
      ({ a with child := some child }.push .sentinel).suspend_inbox Clock.never
    exact .inr (.inr ⟨Thread.held_inbox.trans inbox, .inl (Thread.held_waitType.trans waits)⟩)

/-- Changes leave bytecode scripts receptive. -/
theorem Change.receptive (change : Change gone wrapped a b) (bytecode : a.isEngine = false)
    (h : a.Receptive) : b.Receptive := by
  have attentive := change.attentive h.attentive
  have kind := change.kind.2
  rcases change.inbox with ⟨-, turn⟩ | ⟨-, busy, event, posted⟩ | ⟨inbox, waits⟩
  · obtain ⟨now, limit, ran, outcome, slice, inbox, waits⟩ := turn bytecode
    exact (h.slice slice).keep attentive (kind.trans slice.carries.isEngine.symm) inbox (.inl waits)
  · have idle : a.thread.waitType ≠ .event := by
      intro waits
      unfold awaitsEvent isBlocked Thread.isBlocked at busy
      rw [h.attentive waits, waits] at busy
      exact absurd busy (by simp)
    rw [Thread.post_queue (h.queue bytecode)] at posted
    split at posted
    · exact absurd posted (by simp)
    · have joined := Except.ok.inj posted
      refine ⟨attentive, fun _ => ⟨_, _, congrArg Thread.inbox joined.symm⟩, fun waits => ?_⟩
      rw [← joined] at waits
      exact absurd waits idle
  · exact h.keep attentive kind inbox waits

/-- A launched script has no events. -/
theorem Launched.events (launched : ex.Launched) : ex.thread.events = [] := by
  obtain ⟨s, program, options, new, parent, prepared, rfl⟩ := launched
  obtain ⟨runtime, thread, bound, rfl⟩ := Scheduler.prepare_eq prepared
  rcases Scheduler.bindRuntime_cases bound with ⟨-, _, -, rfl⟩ | ⟨-, _, -, rfl⟩
  · rfl
  · rfl

/-- A launched script is receptive. -/
theorem Launched.receptive (launched : ex.Launched) : ex.Receptive := by
  have attentive := launched.attentive
  obtain ⟨s, program, options, new, parent, prepared, rfl⟩ := launched
  obtain ⟨runtime, thread, bound, rfl⟩ := Scheduler.prepare_eq prepared
  rcases Scheduler.bindRuntime_cases bound with ⟨-, _, -, rfl⟩ | ⟨-, _, rfl, rfl⟩
  · exact ⟨attentive, fun _ => ⟨_, _, rfl⟩, Thread.drained_of_wait rfl⟩
  · exact ⟨attentive, fun bytecode => absurd bytecode (by simp [isEngine]),
      Thread.drained_of_wait rfl⟩

/-- An edit leaves a script its events. -/
theorem events_edit (edit : Edit) (ex : Executor) :
    (edit.apply ex).thread.events = ex.thread.events := by
  cases edit with
  | setEventQueueSize size => exact ex.thread.events_setCapacity size
  | _ => rfl

/-- Edits leave bytecode scripts receptive. -/
theorem Receptive.edit (h : ex.Receptive) (edit : Edit) : (edit.apply ex).Receptive := by
  have attentive := attentive_edit h.attentive edit
  cases edit with
  | setEventQueueSize size =>
    refine ⟨attentive, fun bytecode => ?_, fun waits => ?_⟩
    · obtain ⟨capacity, events, inbox⟩ := h.queue bytecode
      refine ⟨size, events, ?_⟩
      change (ex.thread.setCapacity size).inbox = _
      unfold Thread.setCapacity
      rw [inbox]
    · rw [events_edit]
      refine h.drained (Eq.trans ?_ waits)
      change _ = (ex.thread.setCapacity size).waitType
      unfold Thread.setCapacity
      split <;> rfl
  | _ => exact h.keep attentive rfl rfl (.inl rfl)

end Executor

/-- In every reachable state bytecode scripts are receptive. -/
theorem Reachable.receptive {config : SchedulerConfig} {engine : Option Engine} {s : Scheduler}
    {pid : Pid} {ex : Executor} (reached : Reachable config engine s)
    (found : s.get? pid = some ex) (bytecode : ex.isEngine = false) : ex.Receptive :=
  reached.scripts (P := fun ex => ex.isEngine = false → ex.Receptive)
    (fun new => absurd trivial new) (fun _ launched _ => launched.receptive)
    (fun _ _ _ change h bytecode => change.receptive (change.kind.2 ▸ bytecode)
      (h (change.kind.2 ▸ bytecode)))
    (fun ex edit h bytecode => (h (edit.isEngine_apply ex ▸ bytecode)).edit edit) found bytecode

/-! ### The instructions of a slice -/

namespace Executor

variable {ex ran : Executor} {machine : Machine} {now : Nat} {limit : Option Nat}

/-- What an instruction hands from the queue to its script, which stands as `before` and as `after`
the instruction. -/
def received? (before after : Executor) : Option Val :=
  match before.runtime with
  | .bytecode machine =>
    (machine.exec before.stack).step.received? before.thread.events after.stack
  | _ => none

/-- The stack of a script after an instruction is the one that the step of the instruction left. -/
theorem Cycled.stack {step : Step} {out : CycleOutcome} (h : Cycled now step ex ran out) :
    ran.stack = (ex.applyStep now step).1.stack := by
  cases h with
  | ends applied => rw [applied]
  | blocks applied => rw [applied]; rfl
  | goesOn applied _ counted =>
    rw [applied]
    rcases counted with rfl | rfl
    · rfl
    · rfl
  | runaway applied => rw [applied]; rfl

/-- What an instruction hands to the script is the first event of the queue. -/
theorem events_cycle (now : Nat) (limit : Option Nat) (bytecode : ex.runtime = .bytecode machine) :
    ex.thread.events =
      (ex.received? (ex.cycle machine now limit).value.1).toList ++
        (ex.cycle machine now limit).value.1.thread.events := by
  have step := cycled ex machine now limit
  unfold received?
  rw [bytecode, step.thread, step.stack]
  exact events_applyStep (ex.afterExec (machine.exec ex.stack)) now _

/-- A script before and after each instruction of a slice with these bounds. -/
def course (now : Nat) (limit : Option Nat) : Nat → Nat → Executor → List (Executor × Executor)
  | 0, _, _ => []
  | patience + 1, left, ex =>
    match ex.runtime with
    | .bytecode machine =>
      if machine.runnable then
        match (ex.cycle machine now limit).value with
        | (ran, .ends _) => [(ex, ran)]
        | (ran, .goesOn) =>
          if !ran.thread.critical && left ≤ 1 then [(ex, ran)]
          else (ex, ran) :: course now limit patience (left - 1) ran
      else []
    | _ => []

/-- What the instructions of a slice hand to the script. -/
def taken (course : List (Executor × Executor)) : List Val :=
  course.flatMap fun instruction => (instruction.1.received? instruction.2).toList

/-- Instructions one after the other: the script before and after each of them. -/
inductive Path (now : Nat) (limit : Option Nat) :
    Executor → List (Executor × Executor) → Executor → Prop
  | done (ex : Executor) : Path now limit ex [] ex
  | step {ex mid ran : Executor} {machine : Machine} {out : CycleOutcome}
      {rest : List (Executor × Executor)} (bytecode : ex.runtime = .bytecode machine)
      (cycle : (ex.cycle machine now limit).value = (mid, out))
      (later : Path now limit mid rest ran) : Path now limit ex ((ex, mid) :: rest) ran

/-- A script that has nothing to run or runs on the engine has no course. -/
theorem course_of_idle {patience left : Nat}
    (idle : ex.runnable = false ∨ ex.isEngine = true) :
    course now limit (patience + 1) left ex = [] := by
  unfold course
  cases runtime : ex.runtime with
  | unbound | engine => rfl
  | bytecode machine =>
    have done : machine.runnable = false := by
      simpa [Executor.runnable, isEngine, runtime] using idle
    exact if_neg (ne_true_of_eq_false done)

/-- The course of a slice is a path to where the slice ends. -/
theorem path_of_runCycles {told : Array Entry} {patience left : Nat} {outcome : SliceOutcome}
    {entries : List Entry}
    (runs : runCycles now limit patience left told ex = some ⟨(ran, outcome), entries⟩) :
    Path now limit ex (course now limit patience left ex) ran := by
  induction patience generalizing left told ex with
  | zero => exact absurd runs (by simp [runCycles])
  | succ patience ih =>
    cases round_of_runCycles runs with
    | idle done => exact course_of_idle (.inl done) ▸ .done _
    | external engine => exact course_of_idle (.inr engine) ▸ .done _
    | ends bytecode runnable cycle =>
      have course : course now limit (patience + 1) left ex = [(ex, ran)] := by
        unfold Executor.course
        simp only [bytecode, runnable, cycle, if_pos]
      exact course ▸ .step bytecode cycle (.done ran)
    | usedUp bytecode runnable cycle last =>
      have course : course now limit (patience + 1) left ex = [(ex, ran)] := by
        unfold Executor.course
        simp only [bytecode, runnable, cycle, if_pos, last]
      exact course ▸ .step bytecode cycle (.done ran)
    | @goesOn machine mid _ _ _ bytecode runnable cycle more rest =>
      have course : course now limit (patience + 1) left ex =
          (ex, mid) :: course now limit patience (left - 1) mid := by
        rw [Executor.course]
        simp only [bytecode, runnable, cycle, if_pos, if_neg more]
      exact course ▸ .step bytecode cycle (ih rest)

/-- What the instructions on a path hand to the script was at the front of the queue, in this
order. -/
theorem Path.events {course : List (Executor × Executor)} (path : Path now limit ex course ran) :
    ex.thread.events = taken course ++ ran.thread.events := by
  induction path with
  | done => rfl
  | @step ex mid ran machine out rest bytecode cycle _ ih =>
    have first := events_cycle now limit bytecode
    rw [cycle] at first
    rw [first, ih, ← List.append_assoc]
    rfl

end Executor

/-! ### Turns -/

/-- The script of a turn of an operation before and after each of its instructions. -/
def Operation.course (patience : Nat) (turn : ScriptTurn) :
    Operation → List (Executor × Executor)
  | .runReady now =>
    let slice := turn.before.config.sliceFor turn.script.thread.priority
    Executor.course now turn.before.config.maxRunawayCycles
      ((if turn.script.thread.critical then patience else slice) + 1) slice turn.script
  | .runToCompletion now _ =>
    Executor.course now turn.before.config.maxRunawayCycles patience (patience + 1) turn.script
  | _ => []

/-- What a script takes out of its queue in the turns of a step. -/
def Performed.taken (step : Performed) (pid : Pid) : List Val :=
  step.turns.flatMap fun turn =>
    if turn.pid = pid then Executor.taken (step.op.course step.patience turn) else []

namespace Scheduler

variable {s : Scheduler} {patience now : Nat} {pid : Pid} {turn : ScriptTurn}

/-- The turns of a batch are slices. -/
theorem runSlice_of_mem_turnsOf {batch : List Pid} (mem : turn ∈ turnsOf patience now batch s) :
    ∃ entries, turn.script.runSlice now (turn.before.config.sliceFor turn.script.thread.priority)
      turn.before.config.maxRunawayCycles patience =
        some ⟨(turn.ran, turn.outcome), entries⟩ := by
  induction batch generalizing s with
  | nil => exact absurd mem List.not_mem_nil
  | cons pid rest ih =>
    unfold turnsOf at mem
    split at mem
    · exact ih mem
    · split at mem
      · exact ih mem
      · split at mem
        · exact absurd mem List.not_mem_nil
        · next slice sliced =>
          rcases List.mem_cons.mp mem with rfl | later
          · exact ⟨slice.entries, sliced⟩
          · exact ih later

end Scheduler

/-- What a script takes out of its queue in a turn was at the front of the queue. -/
theorem Operation.events_of_mem_turns {op : Operation} {s : Scheduler} {patience : Nat}
    {turn : ScriptTurn} (mem : turn ∈ op.turns s patience) :
    turn.script.thread.events =
      Executor.taken (op.course patience turn) ++ turn.ran.thread.events := by
  cases op with
  | runReady now =>
    obtain ⟨entries, sliced⟩ := runSlice_of_mem_turnsOf mem
    exact (Executor.path_of_runCycles sliced).events
  | runToCompletion now program =>
    unfold Operation.turns at mem
    dsimp only at mem
    split at mem
    · exact absurd mem List.not_mem_nil
    · split at mem
      · exact absurd mem List.not_mem_nil
      · next slice sliced =>
        obtain rfl := List.mem_singleton.mp mem
        exact (Executor.path_of_runCycles sliced).events
  | _ => exact absurd mem List.not_mem_nil

/-- A script that remains after its slice has the inbox that the slice left. -/
theorem SliceOutcome.inbox_placed {outcome : SliceOutcome} {seq : Nat} {ran ex : Executor}
    (placed : outcome.placed seq ran = some ex) : ex.thread.inbox = ran.thread.inbox := by
  cases outcome with
  | preempted => exact Option.some.inj placed ▸ rfl
  | blocked => exact Option.some.inj placed ▸ Thread.held_inbox
  | halted => exact Option.some.inj placed ▸ rfl
  | finished | faulted | runaway | external => exact absurd placed (by simp [SliceOutcome.placed])

/-- A script that loses its parent or its child keeps its inbox. -/
theorem Executor.inbox_bereft (ex gone : Executor) :
    (ex.bereft gone).thread.inbox = ex.thread.inbox := by
  rw [thread_bereft]
  split
  · exact Thread.freed_inbox
  · rfl

/-- What a bytecode script takes out of its queue in turns one after the other was at the front of
the queue. -/
theorem TakeTurns.events {turns : List ScriptTurn} {s s' : Scheduler} {pid : Pid} {ex' : Executor}
    (turned : TakeTurns turns s s') (course : ScriptTurn → List (Executor × Executor))
    (slices : ∀ turn ∈ turns, turn.script.thread.events =
      Executor.taken (course turn) ++ turn.ran.thread.events)
    (found : s'.get? pid = some ex') (bytecode : ex'.isEngine = false) :
    ∃ ex, s.get? pid = some ex ∧ ex.isEngine = false ∧ ex.thread.events =
      (turns.flatMap fun turn => if turn.pid = pid then Executor.taken (course turn) else []) ++
        ex'.thread.events := by
  induction turned with
  | nothing => exact ⟨ex', found, bytecode, rfl⟩
  | @turn turn turns s' valid _ ih =>
    obtain ⟨first, others⟩ := List.forall_mem_cons.mp slices
    obtain ⟨mid, isMid, midBytecode, later⟩ := ih others found
    obtain ⟨ex, was, changes⟩ := valid.evolves pid mid isMid
    have kind : ex.isEngine = false := changes.kind.2 ▸ midBytecode
    refine ⟨ex, was, kind, ?_⟩
    rw [List.flatMap_cons, List.append_assoc, ← later]
    by_cases own : turn.pid = pid
    · subst own
      obtain rfl := Option.some.inj (was.symm.trans valid.found)
      have placed := (valid.get?_own kind).symm.trans isMid
      rw [if_pos rfl, Thread.events_of_inbox (SliceOutcome.inbox_placed placed)]
      exact first
    · rw [if_neg own, List.nil_append]
      rcases valid.get?_other (Ne.symm own) with same | ⟨gone, bereft⟩
      · rw [same, was] at isMid
        rw [Option.some.inj isMid]
      · rw [bereft, was] at isMid
        rw [← Option.some.inj isMid]
        exact (Thread.events_of_inbox (ex.inbox_bereft gone)).symm

/-! ### Signals -/

/-- What becomes of an event that is signalled to the live bytecode script `ex`: the answer and the
state after it. -/
inductive Signalled (s : Scheduler) (ex : Executor) (event : Val) : Answer → Scheduler → Prop
  /-- The script waits for the event and finds it in its slot. -/
  | woke (awaits : ex.awaitsEvent = true) :
      Signalled s ex event (.delivered .woke)
        ((s.store (ex.setResultSlot event).revive).schedule ex.pid)
  /-- The event joins the queue. -/
  | queued (busy : ex.awaitsEvent = false)
      (room : ex.thread.events.length < ex.thread.capacity) :
      Signalled s ex event (.delivered .queued)
        (s.store (ex.mapThread (Thread.joined event)))
  /-- There is no room for the event. -/
  | full (busy : ex.awaitsEvent = false)
      (full : ex.thread.capacity ≤ ex.thread.events.length) :
      Signalled s ex event (.rejected (.queueFull ex.thread.capacity) event) s

/-- An event that is signalled to a live bytecode script. -/
theorem Executor.Receptive.signalled {s : Scheduler} {pid : Pid} {ex : Executor} {event : Val}
    {patience : Nat} {ran : Logged (Answer × Scheduler)} (h : ex.Receptive)
    (found : s.get? pid = some ex) (bytecode : ex.isEngine = false)
    (performed : s.perform patience (.signal pid event) = some ran) :
    Signalled s ex event ran.value.1 ran.value.2 := by
  obtain rfl : ex.pid = pid := pid_of_get? found
  obtain rfl := Option.some.inj performed
  unfold Scheduler.signalEvent
  rw [found]
  dsimp only
  cases awaits : ex.awaitsEvent with
  | true =>
    have delivered : ex.signalEvent event = .ok (.woke, (ex.setResultSlot event).revive) :=
      if_pos awaits
    rw [delivered]
    exact .woke awaits
  | false =>
    have posted := Thread.post_queue (h.queue bytecode) event
    have busy : ¬ ex.awaitsEvent = true := awaits ▸ Bool.false_ne_true
    by_cases full : ex.thread.capacity ≤ ex.thread.events.length
    · have refused : ex.signalEvent event =
          .error ⟨.queueFull ex.thread.capacity, event⟩ := by
        unfold Executor.signalEvent
        rw [if_neg busy, posted, if_pos full]
      rw [refused]
      exact .full awaits full
    · have delivered : ex.signalEvent event =
          .ok (.queued, ex.mapThread (Thread.joined event)) := by
        unfold Executor.signalEvent
        rw [if_neg busy, posted, if_neg full]
        rfl
      rw [delivered]
      exact .queued awaits (Nat.lt_of_not_le full)

/-! ### What a step accepts and hands over -/

/-- The events in the queue of a script, none if it is not live. -/
def Scheduler.eventsOf (s : Scheduler) (pid : Pid) : List Val :=
  ((s.get? pid).map fun ex => ex.thread.events).getD []

/-- What is in the slot on top of the stack of a script. -/
def Scheduler.slot? (s : Scheduler) (pid : Pid) : Option Val :=
  (s.get? pid).bind fun ex => ex.stack.head?

/-- An operation that sends a script an event is a signal. -/
theorem Operation.signal_of_does {op : Operation} {pid : Pid} (does : op.Does (.signal pid)) :
    ∃ event, op = .signal pid event := by
  cases op with
  | signal receiver event =>
    obtain rfl := Act.signal.inj does
    exact ⟨event, rfl⟩
  | _ => exact absurd does (by simp [Operation.Does])

/-- The delivery that an answer tells of. -/
def Answer.delivery? : Answer → Option Delivery
  | .delivered delivery => some delivery
  | _ => none

namespace Performed

variable {step : Performed} {pid : Pid}

/-- The event that a step signals to a script, if it is accepted, with what becomes of it and the
state after it. -/
def accepts? (step : Performed) (pid : Pid) : Option (Val × Delivery × Scheduler) :=
  match step.op, step.state.perform step.patience step.op with
  | .signal receiver event, some ⟨(.delivered delivery, after), _⟩ =>
    if receiver = pid then some (event, delivery, after) else none
  | _, _ => none

/-- The events for a script that a step accepts. -/
def accepted (step : Performed) (pid : Pid) : List Val :=
  ((step.accepts? pid).map fun done => done.1).toList

/-- The event that a step puts into the slot of a script that waits for it. -/
def slotted (step : Performed) (pid : Pid) : List Val :=
  match step.accepts? pid with
  | some (_, .woke, after) => (after.slot? pid).toList
  | _ => []

/-- The events that a step hands to a script: into the slot of a script that waits, and in turns out
of the queue. -/
def handed (step : Performed) (pid : Pid) : List Val := step.slotted pid ++ step.taken pid

/-- Only signals to a script are accepted for the script. -/
theorem accepts?_eq_none (others : ∀ event, step.op ≠ .signal pid event) :
    step.accepts? pid = none := by
  unfold accepts?
  split
  · next receiver event _ _ _ op _ =>
    refine if_neg ?_
    rintro rfl
    exact others event op
  · rfl

end Performed

namespace Scheduler

variable {config : SchedulerConfig} {engine : Option Engine} {s : Scheduler} {patience : Nat}
  {op : Operation} {ran : Logged (Answer × Scheduler)} {pid : Pid} {ex ex' : Executor}

/-- The queue of a live script. -/
theorem eventsOf_of_get? (found : s.get? pid = some ex) : s.eventsOf pid = ex.thread.events := by
  unfold eventsOf
  rw [found]
  rfl

/-- Before a script is launched it has no events. -/
theorem eventsOf_of_nextPid (numbers : s.Numbered) (new : s.nextPid.number ≤ pid.number) :
    s.eventsOf pid = [] := by
  unfold eventsOf
  cases found : s.get? pid with
  | none => rfl
  | some ex => exact absurd (numbers.lt_nextPid found) (Nat.not_lt_of_le new)

/-- An accepted event is put into the slot or is the last one of the queue. -/
theorem balance_signal {event : Val} (reached : Reachable config engine s)
    (performed : s.perform patience (.signal pid event) = some ran)
    (live : ran.value.2.get? pid = some ex') (bytecode : ex'.isEngine = false) :
    let step : Performed := ⟨s, patience, .signal pid event⟩
    s.eventsOf pid ++ step.accepted pid = step.slotted pid ++ ex'.thread.events := by
  intro step
  have accepts : step.accepts? pid =
      ran.value.1.delivery?.map fun delivery => (event, delivery, ran.value.2) := by
    unfold Performed.accepts?
    rw [performed]
    obtain ⟨⟨answer, after⟩, entries⟩ := ran
    cases answer with
    | delivered delivery => exact if_pos rfl
    | _ => rfl
  have evolves : Evolves (fun _ => True) True (fun _ => True) s ran.value.2 := by
    obtain rfl := Option.some.inj performed
    exact .signalEvent trivial
  obtain ⟨ex, found, changes⟩ := evolves pid ex' live
  have kind : ex.isEngine = false := changes.kind.2 ▸ bytecode
  have receptive := reached.receptive found kind
  obtain rfl : ex.pid = pid := pid_of_get? found
  have signalled := receptive.signalled found kind performed
  unfold Performed.accepted Performed.slotted
  rw [accepts, eventsOf_of_get? found]
  generalize ran.value.1 = answer at signalled
  generalize ran.value.2 = after at signalled live
  cases signalled with
  | woke awaits =>
    -- The event goes past the queue, and only because the queue is empty does it not overtake.
    have stored : (s.store (ex.setResultSlot event).revive).get? ex.pid =
        some (ex.setResultSlot event).revive := get?_store found rfl
    have woken : ((s.store (ex.setResultSlot event).revive).schedule ex.pid).get? ex.pid =
        some ((ex.setResultSlot event).revive.mapThread Thread.freed) := by
      rw [get?_schedule_self, stored]
      rfl
    obtain rfl := Option.some.inj (woken.symm.trans live)
    have empty := receptive.empty awaits
    have kept : ((ex.setResultSlot event).revive.mapThread Thread.freed).thread.events =
        ex.thread.events := Thread.events_of_inbox Thread.freed_inbox
    dsimp only [Answer.delivery?, Option.map]
    unfold slot?
    rw [kept, empty, live]
    rfl
  | queued busy room =>
    have stored : (s.store (ex.mapThread (Thread.joined event))).get? ex.pid =
        some (ex.mapThread (Thread.joined event)) := get?_store found rfl
    obtain rfl := Option.some.inj (stored.symm.trans live)
    rfl
  | full busy full =>
    obtain rfl := Option.some.inj (found.symm.trans live)
    exact List.append_nil _

/-- What is neither a turn of a script nor a signal to it leaves its queue alone. -/
theorem events_of_moves {may : Act → Prop} {m m' : Moment} {entries : List Entry}
    (moves : MovesBy may m entries m') (sound : m.Sound) (turnless : ¬ may (.turn pid))
    (unsignalled : ¬ may (.signal pid)) (live : m'.state.get? pid = some ex)
    (bytecode : ex.isEngine = false) : ex.thread.events = m.state.eventsOf pid := by
  refine moves.scripts (P := fun ex => ex.isEngine = false →
    ex.thread.events = m.state.eventsOf pid) sound ?_ ?_ ?_ ex live bytecode
  · intro new ex launched _
    rw [launched.events, eventsOf_of_nextPid sound.numbers new]
  · rintro gone a b rfl change h bytecode
    rcases change.inbox with ⟨turn, -⟩ | ⟨signal, -⟩ | ⟨inbox, -⟩
    · exact absurd turn turnless
    · exact absurd signal unsignalled
    · rw [Thread.events_of_inbox inbox]
      exact h (change.any.kind.2 ▸ bytecode)
  · exact fun ex found _ => (eventsOf_of_get? found).symm

/-- What a step accepts for a script and what was in its queue, is handed to it or is in its
queue. -/
theorem balance_step (reached : Reachable config engine s)
    (performed : s.perform patience op = some ran) (live : ran.value.2.get? pid = some ex')
    (bytecode : ex'.isEngine = false) :
    let step : Performed := ⟨s, patience, op⟩
    s.eventsOf pid ++ step.accepted pid = step.handed pid ++ ex'.thread.events := by
  intro step
  by_cases own : ∃ event, op = .signal pid event
  · obtain ⟨event, rfl⟩ := own
    have balance := balance_signal reached performed live bytecode
    have handed : step.handed pid = step.slotted pid := List.append_nil _
    rwa [handed]
  · have others : ∀ event, op ≠ .signal pid event := fun event same => own ⟨event, same⟩
    have none : step.accepts? pid = none := Performed.accepts?_eq_none others
    have accepted : step.accepted pid = [] := by
      unfold Performed.accepted
      rw [none]
      rfl
    have handed : step.handed pid = step.taken pid := by
      unfold Performed.handed Performed.slotted
      rw [none]
      rfl
    rw [accepted, handed, List.append_nil]
    -- without an event from outside only turns take events out of the queue
    rcases edit_or_turns reached.numbered performed with
      ⟨editee, edit, edited, rfl, found, eq⟩ | ⟨m, entries, moves, turned⟩
    · rw [eq] at live
      change s.eventsOf pid = ex'.thread.events
      obtain ⟨old, was, rfl | rfl⟩ := get?_edit found live
      · exact eventsOf_of_get? was
      · rw [eventsOf_of_get? was, Executor.events_edit]
    · obtain ⟨ex, isMid, kind, taken⟩ :=
        turned.events (op.course patience) (fun _ mem => Operation.events_of_mem_turns mem) live
          bytecode
      have kept := events_of_moves moves reached.sound (fun prepares => prepares.2 pid rfl)
        (fun prepares => own (Operation.signal_of_does prepares.1)) isMid kind
      exact kept.symm.trans taken

/-- Until a script is launched nothing is accepted for it or handed to it. -/
theorem balance_new (reached : Reachable config engine s)
    (performed : s.perform patience op = some ran)
    (new : ran.value.2.nextPid.number ≤ pid.number) :
    let step : Performed := ⟨s, patience, op⟩
    s.nextPid.number ≤ pid.number ∧ step.accepted pid = [] ∧ step.handed pid = [] := by
  intro step
  have was := Nat.le_trans (reached.nextPid performed) new
  have unborn : s.get? pid = none := by
    cases found : s.get? pid with
    | none => rfl
    | some ex => exact absurd (reached.numbered.lt_nextPid found) (Nat.not_lt_of_le was)
  have none : step.accepts? pid = none := by
    by_cases own : ∃ event, op = .signal pid event
    · obtain ⟨event, rfl⟩ := own
      obtain rfl := Option.some.inj performed
      have rejected : s.signalEvent pid event = pure (.error ⟨.unknownPid pid, event⟩, s) := by
        unfold Scheduler.signalEvent
        rw [unborn]
      unfold Performed.accepts?
      dsimp only [step, Scheduler.perform]
      rw [rejected]
      rfl
    · exact Performed.accepts?_eq_none fun event same => own ⟨event, same⟩
  refine ⟨was, ?_, ?_⟩
  · unfold Performed.accepted
    rw [none]
    rfl
  · have slotted : step.slotted pid = [] := by
      unfold Performed.slotted
      rw [none]
    unfold Performed.handed
    rw [slotted, List.nil_append]
    refine List.flatMap_eq_nil_iff.mpr fun turn mem => if_neg ?_
    rintro rfl
    rcases edit_or_turns reached.numbered performed with
      ⟨_, edit, _, rfl, -, -⟩ | ⟨m, entries, moves, turned⟩
    · exact absurd mem List.not_mem_nil
    · obtain ⟨ex, live⟩ := Option.isSome_iff_exists.mp (turned.live turn mem)
      -- turns launch nobody, so a script that has one had its number before
      have old := (moves.sound reached.sound).numbers.lt_nextPid live
      rw [← turned.follows.nextPid] at old
      exact absurd old (Nat.not_lt_of_le new)

end Scheduler

/-! ### The events of a history -/

/-- The events that have been accepted for a script, in order. -/
def accepted (pid : Pid) (past : List Performed) : List Val :=
  past.flatMap fun step => step.accepted pid

/-- The events that have been handed to a script, in order. -/
def handed (pid : Pid) (past : List Performed) : List Val :=
  past.flatMap fun step => step.handed pid

section Histories

variable {config : SchedulerConfig} {engine : Option Engine} {s : Scheduler}
  {past : List Performed} {pid : Pid} {ex : Executor}

/-- Of a bytecode script, live or not launched yet, what has been accepted is what has been handed
to it and what is in its queue. -/
theorem History.balance (history : History (.empty config engine) past s) :
    (s.nextPid.number ≤ pid.number ∨ ∃ ex, s.get? pid = some ex ∧ ex.isEngine = false) →
      accepted pid past = handed pid past ++ s.eventsOf pid := by
  induction history with
  | refl =>
    intro _
    rfl
  | @step s past patience op ran before performed ih =>
    have reached := before.reachable .empty
    unfold accepted handed at ih ⊢
    rw [List.flatMap_append, List.flatMap_append, List.flatMap_singleton, List.flatMap_singleton]
    -- The script may be launched in the step itself, and a program that is run to its end may also
    -- have its turn in it; so scripts that are not launched yet are part of the induction.
    rintro (new | ⟨ex', live, bytecode⟩)
    · obtain ⟨was, accepted, handed⟩ := balance_new reached performed new
      rw [accepted, handed, List.append_nil, List.append_nil, ih (.inl was),
        eventsOf_of_nextPid reached.numbered was,
        eventsOf_of_nextPid (reached.perform performed).numbered new]
    · have balance := balance_step reached performed live bytecode
      have origin : s.nextPid.number ≤ pid.number ∨
          ∃ ex, s.get? pid = some ex ∧ ex.isEngine = false :=
        (reached.origin performed live).imp_right fun ⟨ex, found, kind⟩ =>
          ⟨ex, found, kind.symm.trans bytecode⟩
      rw [ih origin, List.append_assoc, balance, eventsOf_of_get? live, List.append_assoc]

/-- What is known of the events of the live bytecode script `ex` after a history. -/
structure KeepsEvents (past : List Performed) (s : Scheduler) (ex : Executor) : Prop where
  /-- What has been accepted has been handed over or is in the queue, in the order in which it
  came. -/
  balance : accepted ex.pid past = handed ex.pid past ++ ex.thread.events
  /-- A script that waits for an event has none in its queue. -/
  drained : ex.awaitsEvent = true → ex.thread.events = []
  /-- An event is rejected just when the script does not wait for one and the queue is full. A
  rejected event is returned and changes nothing. -/
  rejects : ∀ patience event, ∃ ran, s.perform patience (.signal ex.pid event) = some ran ∧
    ((∃ bound returned, ran.value.1 = .rejected (.queueFull bound) returned) ↔
      ex.awaitsEvent = false ∧ ex.thread.capacity ≤ ex.thread.events.length) ∧
    ∀ cause returned, ran.value.1 = .rejected cause returned →
      returned = event ∧ ran.value.2 = s
  /-- A new bound drops no event. -/
  rebounds : ∀ patience size, ∃ ran ex',
    s.perform patience (.edit ex.pid (.setEventQueueSize size)) = some ran ∧
      ran.value.2.get? ex.pid = some ex' ∧ ex'.thread.events = ex.thread.events ∧
      ex'.thread.capacity = size

/-- Events are neither lost nor duplicated nor reordered: whatever has happened, what a live
bytecode script has accepted is what has been handed to it and then what is in its queue. -/
theorem History.keepsEvents (history : History (.empty config engine) past s)
    (found : s.get? pid = some ex) (bytecode : ex.isEngine = false) : KeepsEvents past s ex := by
  have reached := history.reachable .empty
  have receptive := reached.receptive found bytecode
  obtain rfl : ex.pid = pid := pid_of_get? found
  refine ⟨?_, ?_, ?_, ?_⟩
  · rw [history.balance (.inr ⟨ex, found, bytecode⟩), eventsOf_of_get? found]
  · exact receptive.empty
  · intro patience event
    refine ⟨answering signalAnswer (s.signalEvent ex.pid event), rfl, ?_⟩
    have performed : s.perform patience (.signal ex.pid event) = some _ := rfl
    have signalled := receptive.signalled found bytecode performed
    generalize (answering signalAnswer (s.signalEvent ex.pid event)).value.1 = answer
      at signalled ⊢
    generalize (answering signalAnswer (s.signalEvent ex.pid event)).value.2 = after
      at signalled ⊢
    -- what becomes of an event depends on what the script waits for and on the room in its queue
    cases signalled with
    | woke awaits => simp [awaits]
    | queued busy room => simp [busy, room]
    | full busy full => simp [busy, full]
  · intro patience size
    have edited : s.edit ex.pid (.setEventQueueSize size) =
        .ok (s.store (ex.setEventQueueSize size)) := by
      unfold Scheduler.edit
      rw [found]
      rfl
    obtain ⟨capacity, events, inbox⟩ := receptive.queue bytecode
    refine ⟨_, ex.setEventQueueSize size, rfl, ?_, ?_⟩
    · rw [edited]
      exact get?_store found rfl
    · refine ⟨ex.thread.events_setCapacity size, ?_⟩
      change (ex.thread.setCapacity size).capacity = size
      unfold Thread.setCapacity Thread.capacity
      rw [inbox]

end Histories

/-- A script takes events, falls asleep and has one event left. -/
def takingRun : List Operation :=
  [.start (.bytecode "taker" [.waitForEvent none, .waitForEvent none, .sleep 100, .ret]),
    .runReady 0, .signal ⟨1⟩ (.long 7), .signal ⟨1⟩ (.long 8), .signal ⟨1⟩ (.long 9), .runReady 1]

/-- A script is woken by one event, takes another one out of its queue and has a third one left. -/
theorem keepsEvents_taking : ∃ past s ex, History (.empty {} none) past s ∧
    s.get? ⟨1⟩ = some ex ∧ ex.isEngine = false ∧ KeepsEvents past s ex ∧
    accepted ⟨1⟩ past = [.long 7, .long 8, .long 9] ∧ handed ⟨1⟩ past = [.long 7, .long 8] ∧
    ex.thread.events = [.long 9] := by
  have performed : Scheduler.performAll 1 takingRun (.empty {} none) = some _ := rfl
  have history := (History.refl (.empty {} none)).performAll performed
  have keeps := history.keepsEvents (show Scheduler.get? _ ⟨1⟩ = some _ from rfl) rfl
  exact ⟨_, _, _, history, rfl, rfl, keeps, rfl, rfl, rfl⟩

end ScriptScheduler
