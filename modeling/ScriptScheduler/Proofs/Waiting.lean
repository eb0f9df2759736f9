import ScriptScheduler.Proofs.Links

/-!
# Parents that wait for their children

A script that launches a child sleeps and finds the child's result in the slot that it has left
free on its stack. If nothing else can wake it, it waits until the child is removed, whatever
happens meanwhile (`Change.waits`). An event for which it waits already, or the answer to a request
that it has made before, wakes it too early. So a parent waits for its child just when it does not
await an event and has no pending requests at the launch.
-/

namespace ScriptScheduler

/-! ### Scripts that await an event -/

namespace Thread

variable {t : Thread}

/-- A thread that waits for an event is blocked. -/
def Attentive (t : Thread) : Prop := t.waitType = .event → t.blocked = true

/-- A revived thread waits for nothing. -/
theorem attentive_revive : t.revive.Attentive := fun waits => absurd waits (by simp [revive])

/-- A suspended thread is blocked. -/
theorem attentive_suspend (wake : Nat) : (t.suspend wake).Attentive := fun _ => rfl

/-- A thread that is freed waits as before. -/
theorem Attentive.freed (h : t.Attentive) : t.freed.Attentive := by
  unfold Thread.freed
  split
  · exact h
  · exact h

/-- A thread that is held waits as before. -/
theorem Attentive.held (h : t.Attentive) (seq : Nat) : (t.held seq).Attentive := by
  unfold Thread.held
  split
  · exact h
  · split
    · exact h
    · exact h

end Thread

namespace Executor

variable {ex a b : Executor} {gone : Pid → Prop} {wrapped : Prop}

/-- A script that is suspended for whatever reason is attentive. -/
theorem attentive_suspend (h : ex.thread.Attentive) (wake : Nat) :
    (ex.suspend wake).thread.Attentive := by
  unfold suspend
  split
  · exact h
  · exact Thread.attentive_suspend wake

/-- What an instruction asks for leaves a script attentive. -/
theorem attentive_applyStep (h : ex.thread.Attentive) (now : Nat) (step : Step) :
    (ex.applyStep now step).1.thread.Attentive := by
  cases step with
  | proceed => exact h
  | sleep ms => exact attentive_suspend h _
  | waitForEvent timeout =>
    unfold applyStep
    dsimp only
    split
    · next event thread next =>
      obtain ⟨capacity, rest, -, rfl⟩ := Thread.nextEvent_some next
      exact h
    · split
      · exact h
      · next blocks =>
        have sleepy : ex.options.runToCompletion = false := by simp_all
        intro _
        simp [suspend, sleepy, mapThread, Thread.suspend]
  | halt =>
    unfold applyStep
    dsimp only
    split
    · exact h
    · exact h
  | exit value => exact h
  | fault cause => exact h

/-- A script remains attentive in a slice. -/
theorem Slice.attentive {now : Nat} {limit : Option Nat} {outcome : SliceOutcome}
    (slice : Slice now limit a b outcome) (h : a.thread.Attentive) : b.thread.Attentive :=
  slice.keeps_thread (fun _ step h => attentive_applyStep h now step) h

/-- Changes leave scripts attentive. -/
theorem Change.attentive (change : Change gone wrapped a b) (h : a.thread.Attentive) :
    b.thread.Attentive := by
  have revived : a.thread.revive.freed.Attentive := Thread.attentive_revive.freed
  cases change with
  | preempted _ slice => exact slice.attentive h
  | slept _ slice seq => exact (slice.attentive h).held seq
  | stopped _ slice => exact slice.attentive h
  | called =>
    unfold mapThread Thread.setOutstanding
    dsimp only
    split
    · exact h
    · exact h
  | @queued event thread _ posted =>
    obtain ⟨capacity, events, -, rfl⟩ := Thread.post_ok posted
    exact h
  | woken => exact revived
  | answered =>
    unfold Executor.answered
    split
    · exact revived
    · exact revived
  | timedOut => exact Thread.attentive_revive
  | resumed => exact revived
  | orphaned => exact h
  | halted => exact h
  | releasedBlocked _ _ seq =>
    have detached : a.thread.detached.Attentive := h
    exact detached.held seq
  | released => exact h
  | requested _ _ wake seq =>
    have asleep := attentive_suspend h wake
    have asking : (a.suspend wake).openResultSlot.thread.Attentive := by
      unfold openResultSlot
      split
      · exact asleep
      · exact asleep
    exact asking.held seq
  | takenBack => exact Thread.attentive_revive
  | awaited _ child seq =>
    have waiting : ({ a with child := some child }.push .sentinel).thread.Attentive := h
    exact (attentive_suspend waiting _).held seq

/-- A launched script waits for nothing. -/
theorem Launched.attentive (launched : ex.Launched) : ex.thread.Attentive := by
  obtain ⟨s, program, options, new, parent, prepared, rfl⟩ := launched
  obtain ⟨runtime, thread, bound, rfl⟩ := Scheduler.prepare_eq prepared
  rcases Scheduler.bindRuntime_cases bound with ⟨-, _, -, rfl⟩ | ⟨-, _, -, rfl⟩
  · exact fun waits => absurd waits (by simp [Thread.queued])
  · exact fun waits => absurd waits (by simp [Thread.bridged])

/-- Edits leave scripts attentive. -/
theorem attentive_edit (h : ex.thread.Attentive) (edit : Edit) :
    (edit.apply ex).thread.Attentive := by
  cases edit with
  | push value => exact h
  | setCritical critical => exact h
  | setPriority priority => exact h
  | setWarnOnRunaway warn => exact h
  | setEventQueueSize size =>
    change (ex.thread.setCapacity size).Attentive
    unfold Thread.setCapacity
    split
    · exact h
    · exact h

end Executor

/-- In every reachable state whoever waits for an event is blocked. -/
theorem Reachable.attentive {config : SchedulerConfig} {engine : Option Engine} {s : Scheduler}
    {pid : Pid} {ex : Executor} (reached : Reachable config engine s)
    (found : s.get? pid = some ex) : ex.thread.Attentive :=
  reached.scripts (P := fun ex => ex.thread.Attentive) (fun new => absurd trivial new)
    (fun _ launched => launched.attentive) (fun _ _ _ change h => change.attentive h)
    (fun _ edit h => Executor.attentive_edit h edit) found

/-! ### Scripts that wait for a child -/

/-- What an edit pushes onto the stack of its script. -/
def Edit.pushes : Edit → List Val
  | .push value => [value]
  | .setCritical _ | .setPriority _ | .setWarnOnRunaway _ | .setEventQueueSize _ => []

namespace Executor

variable {ex a b : Executor} {gone : Pid → Prop} {wrapped : Prop} {child : Pid} {cycles : Nat}
  {stack : List Val}

/-- A script that waits for a child and for nothing else. It has run `cycles` instructions, and
`stack` is its stack. -/
structure WaitsFor (ex : Executor) (child : Pid) (cycles : Nat) (stack : List Val) : Prop where
  coherent : ex.Coherent
  link : ex.child = some child
  bytecode : ex.isEngine = false
  sleepy : ex.options.runToCompletion = false
  blocked : ex.thread.blocked = true
  waitType : ex.thread.waitType = .wait
  sleepUntil : ex.thread.sleepUntil = Clock.never
  requests : ex.requests = .empty
  place : ex.thread.holdList = .noTimeout ∨ ex.thread.holdList = .debugger
  instrCycles : ex.instrCycles = cycles
  stack : ex.stack = stack

namespace WaitsFor

/-- A waiting script is blocked. -/
theorem isBlocked (h : ex.WaitsFor child cycles stack) : ex.isBlocked = true := by
  unfold Executor.isBlocked Thread.isBlocked
  rw [h.blocked, Bool.true_or]

/-- A waiting script does not await an event. -/
theorem awaitsEvent (h : ex.WaitsFor child cycles stack) : ex.awaitsEvent = false := by
  unfold Executor.awaitsEvent
  rw [h.waitType]
  simp

/-- A waiting script makes no requests. -/
theorem mayAsk (h : ex.WaitsFor child cycles stack) : ex.mayAsk = false := by
  unfold Executor.mayAsk
  rw [h.bytecode, h.isBlocked]
  simp

/-- A waiting script has no turn. -/
theorem held (h : ex.WaitsFor child cycles stack) : ex.thread.holdList ≠ .none := by
  rcases h.place with list | list <;> simp [list]

/-- A waiting script is not managed by the engine. -/
theorem mine (h : ex.WaitsFor child cycles stack) : ex.thread.holdList ≠ .external := by
  rcases h.place with list | list <;> simp [list]

end WaitsFor

/-- As long as the child is live, no change wakes a script that waits for it. -/
theorem Change.waits (change : Change gone wrapped a b) (live : ¬ gone child)
    (h : a.WaitsFor child cycles stack) : b.WaitsFor child cycles stack := by
  have coherent := change.coherent h.coherent
  cases change with
  | preempted free => exact absurd free h.held
  | slept free => exact absurd free h.held
  | stopped free => exact absurd free h.held
  | called free => exact absurd free h.held
  | @queued event thread _ posted =>
    obtain ⟨capacity, events, -, rfl⟩ := Thread.post_ok posted
    exact { h with coherent }
  | woken awaits =>
    rw [h.awaitsEvent] at awaits
    exact absurd awaits (by decide)
  -- it has no request that could be answered and none that could time out
  | @answered kind id asked =>
    rw [h.requests] at asked
    cases kind <;> exact absurd asked (by simp [Holder.queue, Holder.empty])
  | timedOut sleeps =>
    rcases h.place with list | list
    · exact absurd (list.symm.trans sleeps) (by decide)
    · exact absurd (list.symm.trans sleeps) (by decide)
  | resumed link ended =>
    rw [h.link] at link
    -- it would be resumed by the end of its child alone
    rw [← Option.some.inj link] at ended
    exact absurd ended live
  | orphaned => exact { h with coherent }
  | halted => exact { h with coherent, place := .inr rfl }
  | releasedBlocked _ _ seq =>
    have held : (a.thread.detached.held seq) =
        { a.thread.detached with timer := none, holdList := .noTimeout } := by
      have never : a.thread.detached.sleepUntil = Clock.never := h.sleepUntil
      unfold Thread.held
      rw [never]
      simp [HoldList.isFixed, Thread.detached, h.sleepUntil]
    unfold mapThread at coherent ⊢
    dsimp only at coherent ⊢
    rw [held] at coherent ⊢
    exact { h with coherent, place := .inl rfl }
  | released _ free =>
    rw [h.isBlocked] at free
    exact absurd free (by decide)
  | requested able =>
    rw [h.mayAsk] at able
    exact absurd able (by decide)
  | takenBack able =>
    rw [h.mayAsk] at able
    exact absurd able (by decide)
  | awaited able =>
    have childless := (Scheduler.child_of_childRefusal? able).1
    rw [h.link] at childless
    exact absurd childless (by simp)

/-- An edit of a waiting script leaves it waiting, with the pushed value on its stack. -/
theorem WaitsFor.edit (h : ex.WaitsFor child cycles stack) (edit : Edit) :
    (edit.apply ex).WaitsFor child cycles (edit.pushes ++ stack) := by
  have coherent := h.coherent.edit edit
  cases edit with
  | push value => exact { h with coherent, stack := congrArg (value :: ·) h.stack }
  | setCritical critical => exact { h with coherent }
  | setPriority priority => exact { h with coherent }
  | setWarnOnRunaway warn => exact { h with coherent }
  | setEventQueueSize size =>
    have same : (ex.thread.setCapacity size).blocked = ex.thread.blocked ∧
        (ex.thread.setCapacity size).waitType = ex.thread.waitType ∧
        (ex.thread.setCapacity size).sleepUntil = ex.thread.sleepUntil ∧
        (ex.thread.setCapacity size).holdList = ex.thread.holdList := by
      unfold Thread.setCapacity
      split <;> exact ⟨rfl, rfl, rfl, rfl⟩
    obtain ⟨blocked, waitType, sleepUntil, holdList⟩ := same
    exact { h with
      coherent
      blocked := blocked.trans h.blocked
      waitType := waitType.trans h.waitType
      sleepUntil := sleepUntil.trans h.sleepUntil
      place := holdList.symm ▸ h.place }

/-- A parent that gets the result of the child for which it waits. -/
theorem WaitsFor.resumed (h : ex.WaitsFor child cycles stack) (result : Val) :
    (ex.resumed result).stack = result :: stack.tail ∧ (ex.resumed result).child = none ∧
      (ex.resumed result).isBlocked = false ∧
      ((ex.resumed result).halted = true ↔ (ex.resumed result).thread.holdList = .debugger) := by
  refine ⟨congrArg (setTop result) h.stack, rfl, ?_, ?_⟩
  · change ex.thread.revive.freed.isBlocked = false
    rw [Thread.freed_isBlocked]
    exact Thread.isBlocked_revive (h.coherent.outstanding h.mine)
  · have fixed : ex.thread.revive.freed.holdList = .debugger ↔
        ex.thread.revive.holdList = .debugger := Thread.freed_holdList rfl
    exact h.coherent.halted.trans fixed.symm

end Executor

/-! ### What happens after a launch -/

/-- What happens after the moment `m` up to the moment `m'`: moves and edits of single scripts.
`pushed` are the values that the owner of the script `pid` has pushed meanwhile, the last one
first. -/
inductive Since (pid : Pid) (m : Moment) : List Val → Moment → Prop
  | start : Since pid m [] m
  | move {pushed : List Val} {m₁ m₂ : Moment} {entries : List Entry}
      (before : Since pid m pushed m₁) (move : Move m₁ entries m₂) : Since pid m pushed m₂
  | edit {pushed : List Val} {s : Scheduler} {other : Pid} {ex : Executor}
      (before : Since pid m pushed ⟨s, [], []⟩) (found : s.get? other = some ex) (edit : Edit) :
      Since pid m ((if other = pid then edit.pushes else []) ++ pushed)
        ⟨s.store (edit.apply ex), [], []⟩

/-- Moves one after the other happen without an edit. -/
theorem Since.moves {pid : Pid} {m m₁ m₂ : Moment} {pushed : List Val} {entries : List Entry}
    (before : Since pid m pushed m₁) (moves : Moves m₁ entries m₂) : Since pid m pushed m₂ := by
  induction moves with
  | refl => exact before
  | step _ move ih => exact ih.move move

/-- After an operation has been performed, moves and edits have happened. -/
theorem Since.perform {pid : Pid} {m : Moment} {s : Scheduler} {pushed : List Val}
    {patience : Nat} {op : Operation} {ran : Logged (Answer × Scheduler)}
    (before : Since pid m pushed ⟨s, [], []⟩) (numbers : s.Numbered)
    (performed : s.perform patience op = some ran) :
    ∃ more, Since pid m (more ++ pushed) ⟨ran.value.2, [], []⟩ ∧
      (more ≠ [] → ∃ value, op = .edit pid (.push value)) := by
  rcases Reachable.edit_or_moves numbers performed with ⟨other, edit, ex, rfl, found, eq⟩ | moves
  · rw [eq]
    refine ⟨_, before.edit found edit, ?_⟩
    intro some
    by_cases same : other = pid
    · rw [if_pos same] at some
      cases edit with
      | push value => exact ⟨value, by rw [same]⟩
      | setCritical critical => exact absurd rfl some
      | setPriority priority => exact absurd rfl some
      | setWarnOnRunaway warn => exact absurd rfl some
      | setEventQueueSize size => exact absurd rfl some
    · rw [if_neg same] at some
      exact absurd rfl some
  · exact ⟨[], before.moves moves, fun some => absurd rfl some⟩

/-! ### From the launch of a child to its removal -/

open Scheduler

/-- The parent gets the result of the child that is removed between `s` and `s'`: it replaces the
value on top of `stack`. The result is the one that the last exit record tells, or that of the
script that is handed back. -/
def Scheduler.Returns (s s' : Scheduler) (parent child : Pid) (stack : List Val) : Prop :=
  ∃ gone ex, gone.pid = child ∧
    ((∃ reason, s'.exits = s.exits ++ [exitOf gone reason]) ∨
      s'.exits = s.exits ∧ s.get? child = some gone) ∧
    s'.get? parent = some ex ∧ ex.stack = gone.result.getD .sentinel :: stack.tail ∧
    ex.child = none ∧ ex.isBlocked = false ∧ (ex.halted = false → parent ∈ s'.ready)

/-- What holds of every moment from the launch of a child on: if both scripts are live, the parent
waits for the child. -/
structure Patient (parent child : Pid) (cycles : Nat) (stack : List Val) (m : Moment) : Prop where
  sound : m.Sound
  linked : Linked m.state
  parentOld : parent.number < m.state.nextPid.number
  childOld : child.number < m.state.nextPid.number
  waits : ∀ ex, m.state.get? parent = some ex → (m.state.get? child).isSome = true →
    ex.WaitsFor child cycles stack

namespace Patient

variable {parent child : Pid} {cycles : Nat} {stack : List Val} {m m' : Moment}
  {entries : List Entry}

/-- Moves keep the parent waiting. -/
theorem move (h : Patient parent child cycles stack m) (move : Move m entries m') :
    Patient parent child cycles stack m' := by
  have shift := move.shift h.sound.numbers h.sound.indexed
  have counts := move.counts
  refine ⟨move.sound h.sound, h.linked.shift h.sound.numbers shift,
    Nat.lt_of_lt_of_le h.parentOld counts.nextPid, Nat.lt_of_lt_of_le h.childOld counts.nextPid, ?_⟩
  intro ex' found childLives
  have old : ∀ pid : Pid, pid.number < m.state.nextPid.number → pid ≠ m.state.nextPid := by
    rintro pid less rfl
    exact Nat.lt_irrefl _ less
  have childLived := shift.live (old child h.childOld) childLives
  have parentLived : (m.state.get? parent).isSome = true :=
    shift.live (old parent h.parentOld) (by rw [found]; rfl)
  obtain ⟨ex, was, changes⟩ | ⟨dead, -⟩ := move.evolves h.sound.numbers h.sound.placed
    h.sound.indexed (fun new : ¬ True => absurd trivial new) found
  · refine changes.keeps (fun a b change waits => change.waits (fun dead => ?_) waits)
      (h.waits ex was childLived)
    rw [dead] at childLives
    exact absurd childLives (by decide)
  · rw [dead] at parentLived
    exact absurd parentLived (by decide)

/-- Edits keep the parent waiting. -/
theorem edit {s : Scheduler} {other : Pid} {ex : Executor}
    (h : Patient parent child cycles stack ⟨s, [], []⟩) (found : s.get? other = some ex)
    (edit : Edit) :
    Patient parent child cycles ((if other = parent then edit.pushes else []) ++ stack)
      ⟨s.store (edit.apply ex), [], []⟩ := by
  have number : (edit.apply ex).pid = other := (edit.seat_apply ex).2.trans (pid_of_get? found)
  have alters : Alters other s (s.store (edit.apply ex)) :=
    .store found number (edit.kin_apply ex)
  refine ⟨h.sound.edit found edit, h.linked.shift h.sound.numbers (.altered alters), h.parentOld,
    h.childOld, ?_⟩
  intro ex' live childLives
  have childLived : (s.get? child).isSome = true := alters.isSome_get? child ▸ childLives
  by_cases same : other = parent
  · have stored : (s.store (edit.apply ex)).get? other = some (edit.apply ex) :=
      get?_store found number
    rw [if_pos same]
    dsimp only at live
    rw [← same, stored] at live
    obtain rfl := Option.some.inj live
    exact (h.waits ex (same ▸ found) childLived).edit edit
  · rw [if_neg same]
    dsimp only at live
    rw [alters.others parent (Ne.symm same)] at live
    exact h.waits ex' live childLived

/-- When the child is removed first, the parent gets its result. -/
theorem returns {ex : Executor} (h : Patient parent child cycles stack m)
    (found : m.state.get? parent = some ex) (live : (m.state.get? child).isSome = true)
    (move : Move m entries m') (dead : m'.state.get? child = none) :
    m.state.Returns m'.state parent child stack := by
  have waits := h.waits ex found live
  have link : m.state.childOf? parent = some child := (childOf?_of_get? found).trans waits.link
  obtain ⟨gone, rfl, departs⟩ :=
    (move.shift h.sound.numbers h.sound.indexed).departs live dead
  -- links lead from older to younger scripts, so the child is not its own parent
  have apart : parent ≠ gone.pid := fun same =>
    Nat.lt_irrefl _ (same ▸ h.linked.older parent gone.pid link)
  have known := departs.live
  have isParent : gone.parent = some parent := by
    rw [h.linked.paired] at link
    unfold parentOf? at link
    rw [known] at link
    exact link
  have number : ex.pid = parent := pid_of_get? found
  have younger : gone.child ≠ some ex.pid := by
    intro same
    have child : m.state.childOf? gone.pid = some parent := by
      unfold childOf?
      rw [known, ← number]
      exact same
    exact Nat.lt_asymm (h.linked.older _ _ child) (h.linked.older _ _ link)
  have left := departs.get?_of_ne apart
  have rewarded : ex.bereft gone = ex.resumed (gone.result.getD .sentinel) := by
    unfold Executor.bereft
    rw [if_neg younger, if_pos ⟨number ▸ isParent, waits.link⟩]
  rw [found, Option.map_some, rewarded] at left
  obtain ⟨stack', child', free, halted⟩ := waits.resumed (gone.result.getD .sentinel)
  refine ⟨gone, _, rfl, departs.exits, left, stack', child', free, ?_⟩
  intro running
  have moves : ex.thread.holdList.isFixed = false := by
    have unparked : ex.thread.holdList ≠ .debugger := by
      rw [Ne, ← waits.coherent.halted]
      have running : ex.halted = false := running
      simp [running]
    rcases waits.place with list | list
    · rw [list]
      rfl
    · exact absurd list unparked
  -- a parent that is not parked is put on the ready queue
  have heir : m.state.heir? gone = some parent := by
    have able : m.state.isHeir parent gone.pid = true := by
      unfold isHeir
      rw [found]
      simp [waits.link, moves]
    unfold heir?
    rw [isParent]
    simp [Option.filter, able]
  have fatherless : gone.parent ≠ some gone.pid := by
    rw [isParent]
    exact fun same => apart (Option.some.inj same)
  rw [departs.ready fatherless, heir]
  simp

end Patient

namespace Scheduler

variable {s : Scheduler} {parent : Pid} {program : Program} {ran : Logged (Pid × Scheduler)}
  {ex : Executor}

end Scheduler

namespace Reachable

variable {config : SchedulerConfig} {engine : Option Engine} {s : Scheduler} {parent : Pid}
  {program : Program} {ran : Logged (Pid × Scheduler)} {ex : Executor}

/-- The launch of a child leads to a reachable state. -/
theorem runScript (reached : Reachable config engine s)
    (launched : s.runScript parent program = .ok ran) :
    Reachable config engine ran.value.2 := by
  have performed : s.perform 0 (.runScript parent program) =
      some (attempt .launched (.ok ran)) := by
    change some (attempt .launched (s.runScript parent program)) = _
    rw [launched]
  exact reached.perform performed

end Reachable

/-- A script that does nothing but return. -/
def errand : Program := .bytecode "errand" [.ret]

end ScriptScheduler
