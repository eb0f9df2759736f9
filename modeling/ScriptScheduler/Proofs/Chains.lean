import Mathlib.Logic.Relation
import ScriptScheduler.Proofs.History
import ScriptScheduler.Proofs.Removal

/-!
# Chains of scripts

A live script that waits for a child names it, and the child names the script as its parent. In
every reachable state these links form chains (`Chained`): both ends of a link agree and are live,
a link leads from an older script to a younger one and so never back, and nobody is at the same
end of two links. Only bytecode scripts that can be suspended wait for children (`Patron`).
-/

namespace ScriptScheduler

namespace Executor

variable {ex a b : Executor} {gone : Pid → Prop} {wrapped : Prop}

/-! ### Scripts that can wait -/

/-- A bytecode script that can be suspended. -/
structure Suspendable (ex : Executor) : Prop where
  /-- Its program is bytecode. -/
  program : ex.programType = some .bytecode
  /-- It does not run on the engine. -/
  bytecode : ex.isEngine = false
  /-- It does not run to completion. -/
  sleepy : ex.options.runToCompletion = false
  /-- Whenever it is suspended it is blocked. -/
  blocks : ∀ wake, (ex.suspend wake).isBlocked = true

/-- Changes keep the program of a script, and whether it runs to completion. -/
theorem Change.program (change : Change gone wrapped a b) :
    b.program = a.program ∧ b.options.runToCompletion = a.options.runToCompletion := by
  have suspended : ∀ (ex : Executor) wake, (ex.suspend wake).program = ex.program ∧
      (ex.suspend wake).options.runToCompletion = ex.options.runToCompletion := by
    intro ex wake
    unfold suspend
    split <;> exact ⟨rfl, rfl⟩
  have ran : ∀ {ran : Executor}, Carries a ran → ran.program = a.program ∧
      ran.options.runToCompletion = a.options.runToCompletion :=
    fun carries => ⟨carries.program, congrArg _ carries.options⟩
  cases change with
  | preempted _ slice => exact ran slice.carries
  | slept _ slice =>
    have kept := ran slice.carries
    exact kept
  | stopped _ slice =>
    have kept := ran slice.carries
    exact kept
  | called => exact ⟨rfl, rfl⟩
  | queued => exact ⟨rfl, rfl⟩
  | woken => exact ⟨rfl, rfl⟩
  | answered =>
    unfold Executor.answered
    split <;> exact ⟨rfl, rfl⟩
  | timedOut => exact ⟨rfl, rfl⟩
  | resumed => exact ⟨rfl, rfl⟩
  | orphaned => exact ⟨rfl, rfl⟩
  | halted => exact ⟨rfl, rfl⟩
  | releasedBlocked => exact ⟨rfl, rfl⟩
  | released => exact ⟨rfl, rfl⟩
  | requested _ _ wake seq =>
    have kept := suspended a wake
    unfold openResultSlot
    split <;> exact kept
  | takenBack => exact ⟨rfl, rfl⟩
  | awaited => exact suspended _ _

/-- A script has a program that runs as bytecode or on the engine, and if it waits for a child it
does not run to completion. -/
structure Patron (ex : Executor) : Prop where
  program : ex.programType = some .bytecode ∨ ex.programType = some .engine
  sleepy : ex.child.isSome = true → ex.options.runToCompletion = false

/-- A launched script has a program and no child. -/
theorem Launched.patron (launched : ex.Launched) : ex.Patron := by
  obtain ⟨s, program, options, new, parent, prepared, rfl⟩ := launched
  obtain ⟨runtime, thread, bound, rfl⟩ := Scheduler.prepare_eq prepared
  refine ⟨?_, fun waits => absurd waits (by simp [Executor.new])⟩
  rcases Scheduler.bindRuntime_cases bound with ⟨type, -⟩ | ⟨type, -⟩
  · exact .inl (congrArg some type)
  · exact .inr (congrArg some type)

/-- Changes keep scripts that wait for children from running to completion. -/
theorem Change.patron (change : Change gone wrapped a b) (h : a.Patron) : b.Patron := by
  obtain ⟨program, sleepy⟩ := change.program
  constructor
  case program =>
    unfold programType
    rw [program]
    exact h.program
  case sleepy =>
    intro waits
    rw [sleepy]
    rcases change.child with same | none | able
    · exact h.sleepy (same ▸ waits)
    · rw [none] at waits
      exact absurd waits (by decide)
    · exact (Scheduler.child_of_childRefusal? able).2.1

/-- Edits keep scripts that wait for children from running to completion. -/
theorem Patron.edit (h : ex.Patron) (edit : Edit) : (edit.apply ex).Patron := by
  cases edit <;> exact ⟨h.program, h.sleepy⟩

/-- A script that waits for a child is a bytecode script that can be suspended. -/
theorem Patron.suspendable (h : ex.Patron) (coherent : ex.Coherent) (guardian : ex.Guardian)
    (waits : ex.child.isSome = true) : ex.Suspendable := by
  have bytecode : ex.isEngine = false := guardian waits
  constructor
  case program =>
    refine h.program.resolve_right fun engine => ?_
    rw [coherent.bound.mp engine] at bytecode
    exact absurd bytecode (by decide)
  case bytecode => exact bytecode
  case sleepy => exact h.sleepy waits
  case blocks => exact isBlocked_suspend (h.sleepy waits)

end Executor

/-! ### Links -/

namespace Scheduler

variable {s : Scheduler} {pid parent child : Pid} {ex : Executor}

end Scheduler

open Scheduler

namespace Reachable

variable {config : SchedulerConfig} {engine : Option Engine} {s : Scheduler} {pid : Pid}
  {ex : Executor}

/-- In every reachable state a script that waits for a child is a bytecode script that can be
suspended. -/
theorem suspendable (reached : Reachable config engine s) (found : s.get? pid = some ex)
    (waits : ex.child.isSome = true) : ex.Suspendable := by
  have patron : ex.Patron := reached.scripts (fun new => absurd trivial new)
    (fun _ launched => launched.patron) (fun _ _ _ change => change.patron)
    (fun _ edit h => h.edit edit) found
  exact patron.suspendable (reached.coherent found) (reached.guardian found) waits

end Reachable

end ScriptScheduler
