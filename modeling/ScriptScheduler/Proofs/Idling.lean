import ScriptScheduler.Proofs.Cycles
import ScriptScheduler.Proofs.EngineScripts
import ScriptScheduler.Proofs.Turns

/-!
# Scripts without turns

As long as a script has no turn its counters stand still, and it does not get blocked unless it is
asked to make a request or to wait for a child (`Executor.Idles`). A script that leaves without a
turn is recorded with the counters that it had, and not as a runaway (`MovesBy.exits`); one that
leaves in its turn is recorded with the counters that its slice left it (`SliceOutcome.Records`).
-/

namespace ScriptScheduler

open Scheduler

/-! ### Fit states -/

/-- A script whose flags fit its hold list. -/
structure Executor.Fit (ex : Executor) : Prop where
  coherent : ex.Coherent
  timely : ex.isEngine = false → ex.thread.Timely

/-- Changes leave scripts fit. -/
theorem Executor.Change.fit {a b : Executor} {gone : Pid → Prop} {wrapped : Prop}
    (change : Change gone wrapped a b) (h : a.Fit) : b.Fit where
  coherent := change.coherent h.coherent
  timely bytecode := by
    have before : a.isEngine = false := change.kind.2 ▸ bytecode
    exact change.timely h.coherent (fun _ => before) (h.timely before)

/-- A state whose scripts are numbered in order and fit, and whose exit records are about scripts
that have departed. -/
structure Scheduler.Fit (s : Scheduler) : Prop where
  numbers : s.Numbered
  scripts : ∀ pid ex, s.get? pid = some ex → ex.Fit
  recorded : ∀ exit ∈ s.exits, s.Departed exit.pid

/-- There is no exit record of a live script. -/
theorem Scheduler.Fit.unrecorded {s : Scheduler} {pid : Pid} {ex : Executor} (fit : s.Fit)
    (live : s.get? pid = some ex) : ∀ exit ∈ s.exits, exit.pid ≠ pid := by
  rintro exit mem rfl
  exact absurd (live.symm.trans (fit.recorded exit mem).2) (by simp)

/-- Every reachable state is fit. -/
theorem Reachable.fit {config : SchedulerConfig} {engine : Option Engine} {s : Scheduler}
    (reached : Reachable config engine s) : s.Fit where
  numbers := reached.numbered
  scripts _ _ found :=
    reached.scripts (P := Executor.Fit) (fun new => absurd trivial new)
      (fun _ launched => ⟨launched.coherent, fun _ => launched.timely⟩)
      (fun _ _ _ change => change.fit)
      (fun ex edit fit => ⟨fit.coherent.edit edit, fun bytecode =>
        Executor.timely_edit (fit.timely (edit.isEngine_apply ex ▸ bytecode)) edit⟩) found
  recorded := reached.orderly.recorded

/-- Moves lead from fit states to fit states. -/
theorem MovesBy.fit {may : Act → Prop} {m m' : Moment} {entries : List Entry}
    (moves : MovesBy may m entries m') (orderly : m.Orderly) (fit : m.state.Fit) :
    m'.state.Fit := by
  have after : m'.Orderly := moves.keeps (fun _ _ _ move => move.any.orderly) orderly
  refine ⟨after.sound.numbers, ?_, after.recorded⟩
  intro pid ex found
  refine moves.scripts (P := Executor.Fit) orderly.sound ?_ ?_ (fit.scripts pid) ex found
  · exact fun _ ex launched => ⟨launched.coherent, fun _ => launched.timely⟩
  · exact fun gone a b _ change h => change.any.fit h

/-! ### Exit records -/

/-- A script that leaves in a turn is told of by an exit record with the number of its
instructions. It is recorded as a runaway only if it was terminated as one. -/
def SliceOutcome.Records (ran : Executor) (before after : List ScriptExit) : SliceOutcome → Prop
  | .finished | .faulted _ => ∃ exit : ScriptExit, after = before ++ [exit] ∧
      exit.pid = ran.pid ∧ exit.instrCycles = ran.instrCycles ∧ exit.reason ≠ .runaway
  | .runaway => ∃ exit : ScriptExit, after = before ++ [exit] ∧ exit.pid = ran.pid ∧
      exit.instrCycles = ran.instrCycles
  | .preempted | .blocked | .halted => after = before
  | .external => True

/-- What is recorded when a script is placed after its slice. -/
theorem Scheduler.records_settle (s : Scheduler) (ran : Executor) (outcome : SliceOutcome) :
    outcome.Records ran s.exits (s.settle ran outcome).value.2.exits := by
  cases outcome with
  | preempted => rfl
  | blocked => exact exits_of_aside aside_hold
  | halted => exact exits_of_aside aside_parkDebugger
  | finished => exact ⟨exitOf ran .finished, exits_retire s ran _, rfl, rfl, by simp [exitOf]⟩
  | faulted cause =>
    let last : Executor := { ran with result := some (.fail ErrorCode.fault cause.message) }
    exact ⟨exitOf last .faulted, exits_retire s last _, rfl, rfl, by simp [exitOf]⟩
  | runaway =>
    let message := "exceeded " ++ toString ran.runawayCycles ++ " runaway cycles"
    let last : Executor := { ran with result := some (.fail ErrorCode.runaway message) }
    exact ⟨exitOf last .runaway, exits_retire s last _, rfl, rfl⟩
  | external => trivial

/-- What a turn does to calls and to exit records. -/
theorem ScriptTurn.Valid.engages {turn : ScriptTurn} (valid : turn.Valid) (fit : turn.before.Fit) :
    Engages turn.pid turn.before turn.after := by
  obtain ⟨_, slice⟩ := valid.slice
  have coherent := (fit.scripts _ _ valid.found).coherent
  exact .turn fit.numbers valid.found coherent valid.free slice

/-- A record that is new after a turn is about the script that had the turn, which has left. -/
theorem ScriptTurn.Valid.exits {turn : ScriptTurn} (valid : turn.Valid) (fit : turn.before.Fit)
    {exit : ScriptExit} (mem : exit ∈ turn.after.exits) : exit ∈ turn.before.exits ∨
      exit.pid = turn.pid ∧ turn.after.get? turn.pid = none := by
  cases valid.engages fit with
  | calm calm => exact .inl (calm.exits ▸ mem)
  | forgets _ forgets =>
    rcases forgets.exits with same | ⟨record, own, added⟩
    · exact .inl (same ▸ mem)
    · rcases List.mem_append.mp (added ▸ mem) with mem | new
      · exact .inl mem
      · obtain rfl := List.mem_singleton.mp new
        exact .inr ⟨own, forgets.dead⟩
  | defers _ defers => exact .inl (defers.exits ▸ mem)

/-- A turn leads from a fit state to a fit state. -/
theorem ScriptTurn.Valid.fit {turn : ScriptTurn} (valid : turn.Valid) (fit : turn.before.Fit) :
    turn.after.Fit where
  numbers := turn.follows.numbered fit.numbers
  scripts pid ex found := by
    obtain ⟨old, was, changes⟩ := valid.evolves pid ex found
    exact changes.keeps (fun _ _ change h => change.any.fit h) (fit.scripts pid old was)
  recorded exit mem := by
    have next : turn.after.nextPid = turn.before.nextPid := turn.follows.nextPid
    rcases valid.exits fit mem with mem | ⟨own, dead⟩
    · obtain ⟨old, dead⟩ := fit.recorded exit mem
      exact ⟨next ▸ old, turn.follows.gone dead⟩
    · rw [own]
      exact ⟨next ▸ fit.numbers.lt_nextPid valid.found, dead⟩

/-! ### Scripts without turns -/

/-- What is kept of a script without a turn. If it is calm it does not get blocked. -/
structure Executor.Idles (calm : Prop) (a b : Executor) : Prop where
  coherent : b.Coherent
  tallies : Tallies a b
  isEngine : b.isEngine = a.isEngine
  blocked : calm → b.isEngine = false → b.isBlocked = true → a.isBlocked = true

section Idles

variable {calm : Prop} {ex a b mid : Executor} {gone : Pid → Prop} {wrapped : Prop}
  {may : Act → Prop}

/-- A script idles from when it is coherent. -/
theorem Executor.Coherent.idles (coherent : ex.Coherent) : ex.Idles calm ex :=
  ⟨coherent, .refl ex, rfl, fun _ _ blocked => blocked⟩

/-- A script that idles changes without a turn. -/
theorem Executor.Idles.change (h : Idles calm a mid) (change : ChangeBy gone wrapped may mid b)
    (turnless : ¬ may (.turn mid.pid))
    (silent : calm → ¬ may (.ask mid.pid) ∧ ¬ may (.adopt mid.pid)) : Idles calm a b where
  coherent := change.any.coherent h.coherent
  tallies := h.tallies.trans (change.tallies turnless)
  isEngine := change.any.kind.2.trans h.isEngine
  blocked quiet bytecode blocked := by
    have before : mid.isEngine = false := change.any.kind.2 ▸ bytecode
    obtain ⟨unasked, alone⟩ := silent quiet
    exact h.blocked quiet before
      (change.blocks h.coherent before turnless unasked alone blocked)

/-- The editing of a script is no turn. -/
theorem Executor.Coherent.idles_edit (coherent : ex.Coherent) (edit : Edit) :
    ex.Idles calm (edit.apply ex) where
  coherent := coherent.edit edit
  tallies := Executor.tallies_edit edit ex
  isEngine := edit.isEngine_apply ex
  blocked _ _ blocked := by
    cases edit with
    | setEventQueueSize size =>
      change (ex.thread.setCapacity size).isBlocked = true at blocked
      unfold Thread.setCapacity at blocked
      split at blocked
      · next inbox => simpa [Executor.isBlocked, Thread.isBlocked, inbox] using blocked
      · exact blocked
    | _ => exact blocked

end Idles

/-- The script `old` is live in the state `s`, or it is launched later. -/
def Scheduler.Origin (s : Scheduler) (pid : Pid) (old : Executor) : Prop :=
  s.get? pid = some old ∨ s.nextPid.number ≤ pid.number ∧ old.Launched

/-- A script that has no turn idles from when it was live. -/
theorem ScriptTurn.Valid.idles {turn : ScriptTurn} {pid : Pid} {ex : Executor} (calm : Prop)
    (valid : turn.Valid) (fit : turn.before.Fit) (ne : turn.pid ≠ pid)
    (live : turn.after.get? pid = some ex) :
    ∃ old, turn.before.get? pid = some old ∧ Executor.Idles calm old ex := by
  obtain ⟨old, was, changes⟩ := valid.evolves pid ex live
  have start : old.pid = pid ∧ old.Idles calm old :=
    ⟨pid_of_get? was, (fit.scripts pid old was).coherent.idles⟩
  refine ⟨old, was, (changes.keeps (P := fun ex => ex.pid = pid ∧ old.Idles calm ex) ?_ start).2⟩
  rintro a b change ⟨number, idles⟩
  refine ⟨change.any.kind.1.trans number, idles.change change ?_ fun _ => ⟨?_, ?_⟩⟩
  · rw [number]
    exact fun own => ne (Act.turn.inj own).symm
  · exact fun own => Act.noConfusion own
  · exact fun own => Act.noConfusion own

section Moves

variable {may : Act → Prop} {m m' : Moment} {entries : List Entry} {pid : Pid} {ex : Executor}
  {exit : ScriptExit} {calm : Prop}

/-- Without a turn a script idles from when it was live or from its launch. -/
theorem MovesBy.idles (moves : MovesBy may m entries m') (sound : m.Sound) (fit : m.state.Fit)
    (turnless : ¬ may (.turn pid)) (silent : calm → ¬ may (.ask pid) ∧ ¬ may (.adopt pid))
    (live : m'.state.get? pid = some ex) :
    ∃ old, m.state.Origin pid old ∧ Executor.Idles calm old ex := by
  refine moves.scripts (P := fun ex => ∃ old, m.state.Origin pid old ∧
    Executor.Idles calm old ex) sound ?_ ?_ ?_ ex live
  · exact fun new ex launched => ⟨ex, .inr ⟨new, launched⟩, launched.coherent.idles⟩
  · rintro gone a b rfl change ⟨old, origin, idles⟩
    exact ⟨old, origin, idles.change change turnless silent⟩
  · exact fun ex found => ⟨ex, .inl found, (fit.scripts pid ex found).coherent.idles⟩

/-- Without turns a script exits with the counters that it has, and not as a runaway unless it is
ended as one from outside. -/
theorem MoveBy.exits (move : MoveBy may m entries m') (numbers : m.state.Numbered)
    (turnless : ∀ pid, ¬ may (.turn pid)) (mild : ¬ may (.retire exit.pid .runaway))
    (mem : exit ∈ m'.state.exits) : exit ∈ m.state.exits ∨ exit.reason ≠ .runaway ∧
      ∃ ex, m.state.get? exit.pid = some ex ∧ exit.instrCycles = ex.instrCycles := by
  cases move with
  | tell | tellEngine | start | startAway | takeBatch | skip | collect | settleCall =>
    exact .inl mem
  | @startChild s _ _ parent _ _ launched =>
    obtain ⟨waiting, child, found, -, prepared, eq⟩ := runScript_eq launched
    have calm : Calm s ((s.enroll child).value.awaitChild parent child.pid) :=
      (Calm.enroll numbers prepared).trans .awaitChild
    have kept : ((s.enroll child).value.awaitChild parent child.pid).exits = s.exits := calm.exits
    dsimp only at mem
    rw [eq] at mem
    exact .inl (kept ▸ mem)
  | turn _ _ _ allowed => exact absurd allowed (turnless _)
  | @complete s _ done _ =>
    cases found : s.get? done.pid with
    | none =>
      rw [completeExternal_of_not_live found] at mem
      exact .inl mem
    | some ex =>
      -- the script of a call that has settled finishes or faults
      let last : Executor := ex.finishEngine done.value
      let reason : ExitReason := if done.value.isError then .faulted else .finished
      let t : Scheduler := { s.store last with external := s.external.erase done.pid }
      dsimp only [Scheduler.completeExternal] at mem
      rw [found] at mem
      change exit ∈ (t.retire last reason).value.2.exits at mem
      rw [exits_retire] at mem
      rcases List.mem_append.mp mem with mem | new
      · exact .inl mem
      · obtain rfl := List.mem_singleton.mp new
        have same : ex.pid = done.pid := pid_of_get? found
        have number : (exitOf last reason).pid = done.pid := same
        refine .inr ⟨?_, ex, number ▸ found, rfl⟩
        change (if done.value.isError then ExitReason.faulted else .finished) ≠ .runaway
        split <;> simp
  | signal => exact .inl (Calm.signalEvent.exits ▸ mem)
  | halt halted => exact .inl ((Calm.halt halted).exits ▸ mem)
  | release released => exact .inl ((Calm.release released).exits ▸ mem)
  | @retire s _ _ pid ex found result reason allowed =>
    dsimp only at mem
    rw [exits_retire] at mem
    rcases List.mem_append.mp mem with mem | new
    · exact .inl mem
    · obtain rfl := List.mem_singleton.mp new
      obtain rfl : ex.pid = pid := pid_of_get? found
      refine .inr ⟨?_, ex, found, rfl⟩
      rintro rfl
      exact mild allowed
  | @deschedule s _ _ pid =>
    dsimp only [Scheduler.deschedule] at mem
    cases found : s.get? pid with
    | none =>
      rw [found] at mem
      exact .inl mem
    | some ex =>
      rw [found] at mem
      have kept : (s.remove ex).value.2.exits = s.exits := exits_remove s ex
      exact .inl (kept ▸ mem)
  | request => exact .inl (Calm.register.exits ▸ mem)
  | resolve => exact .inl (Calm.resolve.exits ▸ mem)
  | @wake s _ _ _ _ pid rest =>
    have calm : Calm { s with timeouts := rest } ({ s with timeouts := rest }.wake pid).value :=
      .wake
    exact .inl (calm.exits ▸ mem)
  | takeExits => exact absurd mem List.not_mem_nil

/-- Without turns a script exits with the counters that it had or that it had at its launch, and not
as a runaway unless it is ended as one from outside. -/
theorem MovesBy.exits (moves : MovesBy may m entries m') (sound : m.Sound) (fit : m.state.Fit)
    (turnless : ∀ pid, ¬ may (.turn pid)) (mild : ¬ may (.retire exit.pid .runaway))
    (mem : exit ∈ m'.state.exits) : exit ∈ m.state.exits ∨ exit.reason ≠ .runaway ∧
      ∃ old, m.state.Origin exit.pid old ∧ exit.instrCycles = old.instrCycles := by
  induction moves with
  | refl => exact .inl mem
  | step moves move ih =>
    rcases move.exits (moves.sound sound).numbers turnless mild mem with mem | ⟨cause, ex, live, eq⟩
    · exact ih mem
    · obtain ⟨old, origin, idles⟩ : ∃ old, _ ∧ Executor.Idles False old ex :=
        moves.idles sound fit (turnless _) False.elim live
      exact .inr ⟨cause, old, origin, eq.trans idles.tallies.instrCycles⟩

end Moves

end ScriptScheduler
