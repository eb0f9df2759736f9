import ScriptScheduler.Proofs.Links
import ScriptScheduler.Proofs.Runs

/-!
# Histories

A history is a run that remembers its operations, each with the state in which it was performed.
Within an operation a script keeps whatever the changes keep that the acts of the operation allow
(`MovesBy.scripts`).
-/

namespace ScriptScheduler

open Scheduler

/-- A step of a history: an operation and the state in which it is performed. -/
structure Performed where
  state : Scheduler
  patience : Nat
  op : Operation

/-- The answer to the operation of a step. -/
def Performed.answer? (step : Performed) : Option Answer :=
  (step.state.perform step.patience step.op).map fun ran => ran.value.1

/-- Operations that lead from one state to another one, the first one first. -/
inductive History : Scheduler → List Performed → Scheduler → Prop
  | refl (s : Scheduler) : History s [] s
  | step {s t : Scheduler} {past : List Performed} {patience : Nat} {op : Operation}
      {ran : Logged (Answer × Scheduler)} (before : History s past t)
      (performed : t.perform patience op = some ran) :
      History s (past ++ [⟨t, patience, op⟩]) ran.value.2

/-- A history leads from a reachable state to a reachable state. -/
theorem History.reachable {config : SchedulerConfig} {engine : Option Engine} {s t : Scheduler}
    {past : List Performed} (history : History s past t) (reached : Reachable config engine s) :
    Reachable config engine t := by
  induction history with
  | refl => exact reached
  | step _ performed ih => exact ih.perform performed

/-- A history in which each operation is executed, with the numbers of scripts in 32 bits and no
overflow. -/
inductive Execution : Scheduler → List Performed → Scheduler → Prop
  | refl (s : Scheduler) : Execution s [] s
  | step {s t : Scheduler} {past : List Performed} {patience : Nat} {op : Operation}
      {ran : Logged (Answer × Scheduler)} (before : Execution s past t)
      (executed : t.execute patience op = some ran) :
      Execution s (past ++ [⟨t, patience, op⟩]) ran.value.2

/-- An operation is executed if it is performed and the number of the next script fits. -/
theorem Scheduler.execute_eq_some {s : Scheduler} {patience : Nat} {op : Operation}
    {ran : Logged (Answer × Scheduler)} : s.execute patience op = some ran ↔
      s.perform patience op = some ran ∧ ran.value.2.nextPid.number < UInt32.size := by
  unfold execute
  rw [Option.filter_eq_some_iff, decide_eq_true_iff]

namespace Execution

variable {s t : Scheduler} {past : List Performed}

/-- What is executed has a history. -/
theorem history (execution : Execution s past t) : History s past t := by
  induction execution with
  | refl => exact .refl _
  | step _ executed ih => exact ih.step (execute_eq_some.mp executed).1

end Execution

/-- The steps in which operations are performed, one after the other. -/
def Scheduler.steps (s : Scheduler) (patience : Nat) : List Operation → List Performed
  | [] => []
  | op :: rest =>
    ⟨s, patience, op⟩ ::
      match s.perform patience op with
      | none => []
      | some ran => ran.value.2.steps patience rest

/-- Operations one after the other have a history. -/
theorem History.performAll {s t u : Scheduler} {past : List Performed} {patience : Nat}
    {ops : List Operation} (history : History s past t)
    (performed : performAll patience ops t = some u) :
    History s (past ++ t.steps patience ops) u := by
  induction ops generalizing t past with
  | nil =>
    obtain rfl := Option.some.inj performed
    exact (List.append_nil past).symm ▸ history
  | cons op rest ih =>
    obtain ⟨ran, first, others⟩ := Option.bind_eq_some_iff.mp performed
    have later := ih (history.step first) others
    unfold Scheduler.steps
    rw [first]
    rwa [List.append_assoc] at later

/-! ### Scripts along moves -/

section Moves

variable {may : Act → Prop} {m m' : Moment} {entries : List Entry} {pid : Pid}
  {P : Executor → Prop}

/-- Moves lead from sound moments to sound moments. -/
theorem MovesBy.sound (moves : MovesBy may m entries m') (sound : m.Sound) : m'.Sound :=
  moves.keeps (fun _ _ _ move => move.any.sound) sound

/-- Moves only ever hand out numbers of scripts. -/
theorem MovesBy.nextPid (moves : MovesBy may m entries m') :
    m.state.nextPid.number ≤ m'.state.nextPid.number :=
  moves.keeps (P := fun m' => m.state.nextPid.number ≤ m'.state.nextPid.number)
    (fun _ _ _ move before => Nat.le_trans before move.any.counts.nextPid) (Nat.le_refl _)

/-- Moves keep the configuration. -/
theorem MovesBy.config (moves : MovesBy may m entries m') (sound : m.Sound) :
    m'.state.config = m.state.config := by
  induction moves with
  | refl => rfl
  | step moves move ih => exact (move.any.config (moves.sound sound).numbers).trans ih

/-- What holds of a script if it is live, is kept by all changes of the script and holds of it when
it is launched, holds of the script after moves if it is live then. -/
theorem MovesBy.scripts (moves : MovesBy may m entries m') (sound : m.Sound)
    (launched : m.state.nextPid.number ≤ pid.number → ∀ ex, ex.Launched → P ex)
    (changed : ∀ gone a b, a.pid = pid → Executor.ChangeBy gone True may a b → P a → P b)
    (before : ∀ ex, m.state.get? pid = some ex → P ex) :
    ∀ ex, m'.state.get? pid = some ex → P ex := by
  induction moves with
  | refl => exact before
  | @step m₂ m₃ _ _ moves move ih =>
    intro ex' live
    have sound₂ := moves.sound sound
    obtain ⟨ex, was, changes⟩ | ⟨dead, isNew⟩ := move.evolves sound₂.numbers sound₂.placed
      sound₂.indexed (fun unused : ¬ True => absurd trivial unused) live
    · have start : ex.pid = pid ∧ P ex := ⟨pid_of_get? was, ih ex was⟩
      refine (changes.keeps (P := fun ex => ex.pid = pid ∧ P ex) ?_ start).2
      intro a b change held
      refine ⟨?_, changed _ a b held.1 change held.2⟩
      exact (Executor.Change.kind change.any).1.trans held.1
    · refine launched (Nat.le_of_not_lt fun old => ?_) ex' isNew
      have gone := move.any.gone sound₂ (Nat.lt_of_lt_of_le old moves.nextPid) dead
      rw [gone] at live
      exact absurd live (by simp)

end Moves

/-! ### Scripts along operations -/

section Operations

variable {config : SchedulerConfig} {engine : Option Engine} {s : Scheduler} {patience : Nat}
  {op : Operation} {ran : Logged (Answer × Scheduler)} {pid : Pid} {ex : Executor}

/-- Operations only ever hand out numbers of scripts. -/
theorem Reachable.nextPid (reached : Reachable config engine s)
    (performed : s.perform patience op = some ran) :
    s.nextPid.number ≤ ran.value.2.nextPid.number := by
  rcases edit_or_moves reached.numbered performed with ⟨_, _, _, -, -, eq⟩ | moves
  · rw [eq]
    exact Nat.le_refl _
  · exact moves.nextPid

/-- Operations keep the configuration. -/
theorem Reachable.config_eq (reached : Reachable config engine s) : s.config = config := by
  induction reached with
  | empty => rfl
  | perform before performed ih =>
    rcases edit_or_moves before.numbered performed with ⟨_, _, _, -, -, eq⟩ | moves
    · rw [eq]
      exact ih
    · exact (moves.config before.sound).trans ih

/-- A history in which no more scripts are launched than have numbers of 32 bits is executed. -/
theorem History.executed {past : List Performed} (history : History (.empty config engine) past s)
    (fits : s.nextPid.number < UInt32.size) : Execution (.empty config engine) past s := by
  generalize start : Scheduler.empty config engine = first at history
  induction history with
  | refl => exact .refl _
  | step before performed ih =>
    subst start
    have less := Reachable.nextPid (before.reachable .empty) performed
    exact (ih (Nat.lt_of_le_of_lt less fits)).step (execute_eq_some.mpr ⟨performed, fits⟩)

/-- A script that is live after an operation is launched in it, or it was live before and is of the
same kind. -/
theorem Reachable.origin (reached : Reachable config engine s)
    (performed : s.perform patience op = some ran) (live : ran.value.2.get? pid = some ex) :
    s.nextPid.number ≤ pid.number ∨
      ∃ before, s.get? pid = some before ∧ ex.isEngine = before.isEngine := by
  rcases edit_or_moves reached.numbered performed with ⟨editee, edit, old, -, found, eq⟩ | moves
  · rw [eq] at live
    obtain ⟨before, was, rfl | rfl⟩ := get?_edit found live
    · exact .inr ⟨ex, was, rfl⟩
    · exact .inr ⟨before, was, edit.isEngine_apply before⟩
  · refine moves.scripts (P := fun ex => s.nextPid.number ≤ pid.number ∨
      ∃ before, s.get? pid = some before ∧ ex.isEngine = before.isEngine) reached.sound
      (fun new _ _ => .inl new) ?_ (fun before found => .inr ⟨before, found, rfl⟩) ex live
    rintro gone a b - change (new | ⟨before, found, kind⟩)
    · exact .inl new
    · exact .inr ⟨before, found, change.any.kind.2.trans kind⟩

end Operations

end ScriptScheduler
