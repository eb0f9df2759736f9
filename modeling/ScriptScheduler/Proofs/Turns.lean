import ScriptScheduler.Proofs.History
import ScriptScheduler.Proofs.Passes

/-!
# The turns of an operation

Scripts run in turns only. An operation that is not an edit first does what needs no turns and then
gives its turns, one after the other (`turns_of_perform`): a pass applies the settled engine calls
before, and a program that is run to its end is launched before. What a turn does to a bytecode
script is known exactly: the script that has the turn is placed as its slice ended, and another
script is changed only if it waits for the one that leaves.
-/

namespace ScriptScheduler

open Scheduler

/-! ### After a turn -/

/-- What remains of a bytecode script whose slice has ended: it is preempted, sleeps, is parked for
the debugger, or leaves. -/
def SliceOutcome.placed (seq : Nat) (ran : Executor) : SliceOutcome → Option Executor
  | .preempted => some ran
  | .blocked => some (ran.mapThread (Thread.held seq))
  | .halted => some (ran.mapThread fun t => { t with holdList := .debugger })
  | _ => none

namespace ScriptTurn.Valid

variable {turn : ScriptTurn} {pid : Pid}

/-- The slice of a turn. -/
theorem slice (valid : turn.Valid) : ∃ now,
    Executor.Slice now turn.before.config.maxRunawayCycles turn.script turn.ran turn.outcome := by
  obtain ⟨_, runs⟩ := valid.runs
  exact runs.slice

/-- A script that is live after a turn was live before, and only the script that has the turn has
run. -/
theorem evolves (valid : turn.Valid) :
    Evolves (fun _ => True) True (fun act => act = .turn turn.pid) turn.before turn.after := by
  obtain ⟨_, slice⟩ := valid.slice
  exact .turn valid.found valid.free slice rfl fun _ => trivial

/-- A bytecode script that has a turn is placed as its slice ended. -/
theorem get?_own (valid : turn.Valid) (bytecode : turn.script.isEngine = false) :
    turn.after.get? turn.pid = turn.outcome.placed turn.before.nextTimerSeq turn.ran := by
  have number : turn.ran.pid = turn.pid := valid.carries.pid
  obtain ⟨found, -⟩ := valid.stored
  obtain ⟨_, slice⟩ := valid.slice
  -- a script that exits in its turn is gone afterwards, however it exits
  have gone : ∀ (result : Option Val) reason, ((turn.before.store turn.ran).retire
      { turn.ran with result := result } reason).value.2.get? turn.ran.pid = none :=
    fun _ _ => Evolves.get?_retire_self _ _ _
  have settled := settle_state (turn.before.store turn.ran) turn.ran turn.outcome
  unfold ScriptTurn.after
  rw [← number]
  cases out : turn.outcome with
  | preempted =>
    rw [out] at settled
    rw [settled]
    exact found
  | blocked =>
    rw [out] at settled
    rw [settled, get?_hold_self, found]
    rfl
  | halted =>
    rw [out] at settled
    rw [settled, get?_parkDebugger_self, found]
    rfl
  | finished =>
    rw [out] at settled
    rw [settled]
    exact gone turn.ran.result _
  | faulted cause =>
    rw [out] at settled
    obtain ⟨result, reason, eq⟩ := settled
    rw [eq]
    exact gone (some result) reason
  | runaway =>
    rw [out] at settled
    obtain ⟨result, reason, eq⟩ := settled
    rw [eq]
    exact gone (some result) reason
  | external =>
    rw [out] at slice
    exact absurd (bytecode.symm.trans slice.isEngine) (by decide)

/-- Another script stays as it is in a turn, or it loses the script that leaves. -/
theorem get?_other (valid : turn.Valid) (ne : pid ≠ turn.pid) :
    turn.after.get? pid = turn.before.get? pid ∨ ∃ gone,
      turn.after.get? pid = (turn.before.get? pid).map fun ex => ex.bereft gone := by
  rcases valid.departs with alters | ⟨gone, number, -, departs⟩
  · exact .inl (alters.others pid ne)
  · exact .inr ⟨gone, departs.get?_of_ne (number ▸ ne)⟩

end ScriptTurn.Valid

/-- No script is launched in a turn. -/
theorem ScriptTurn.follows (turn : ScriptTurn) : Follows turn.before turn.after :=
  follows_store.trans follows_settle

namespace TakeTurns

variable {turns : List ScriptTurn} {s s' : Scheduler}

/-- No script is launched in turns one after the other. -/
theorem follows (taken : TakeTurns turns s s') : Follows s s' := by
  induction taken with
  | nothing => exact .refl _
  | @turn turn _ _ _ _ ih => exact turn.follows.trans ih

/-- Scripts that have turns are live before the first one. -/
theorem live (taken : TakeTurns turns s s') :
    ∀ turn ∈ turns, (s.get? turn.pid).isSome = true := by
  induction taken with
  | nothing => exact List.forall_mem_nil _
  | @turn turn _ _ valid _ ih =>
    refine List.forall_mem_cons.mpr ⟨Option.isSome_of_eq_some valid.found, ?_⟩
    exact fun other later => turn.follows.live (ih other later)

/-- Turns that follow one another are valid. -/
theorem valid (taken : TakeTurns turns s s') : ∀ turn ∈ turns, turn.Valid := by
  induction taken with
  | nothing => exact List.forall_mem_nil _
  | turn valid _ ih => exact List.forall_mem_cons.mpr ⟨valid, ih⟩

/-- A live script stays live in the turns of others. -/
theorem isSome_get? {pid : Pid} (taken : TakeTurns turns s s')
    (others : ∀ turn ∈ turns, turn.pid ≠ pid) (live : (s.get? pid).isSome = true) :
    (s'.get? pid).isSome = true := by
  induction taken with
  | nothing => exact live
  | turn valid _ ih =>
    obtain ⟨ne, others⟩ := List.forall_mem_cons.mp others
    refine ih others ?_
    rcases valid.get?_other ne.symm with same | ⟨gone, same⟩
    · rwa [same]
    · rwa [same, Option.isSome_map]

end TakeTurns

/-! ### The turns of operations -/

/-- The turns that an operation gives: those of a pass, and the one of a program that is run to its
end. -/
def Operation.turns (s : Scheduler) (patience : Nat) : Operation → List ScriptTurn
  | .runReady now => s.turns patience now
  | .runToCompletion now program =>
    match s.prepare program (completionOptions s.config) with
    | .error _ => []
    | .ok ex =>
      match ex.runToEnd now s.config.maxRunawayCycles patience with
      | none => []
      | some slice => [⟨(s.enroll ex).value, ex, slice.value.1, slice.value.2⟩]
  | _ => []

/-- The turns of a step of a history. -/
def Performed.turns (step : Performed) : List ScriptTurn := step.op.turns step.state step.patience

/-- The acts of an operation beside its turns. -/
def Operation.Prepares (op : Operation) (act : Act) : Prop :=
  op.Does act ∧ ∀ pid, act ≠ .turn pid

namespace Scheduler

variable {s : Scheduler} {patience : Nat} {op : Operation} {ran : Logged (Answer × Scheduler)}

/-- A pass applies the settled engine calls, takes its batch and then gives the turns. -/
theorem turns_of_runReady {now : Nat} {ran : Logged Scheduler}
    (passed : s.runReady patience now = some ran) :
    TakeTurns (s.turns patience now) { s.pumpExternal.value.2 with ready := [] } ran.value := by
  obtain ⟨after, batch, rfl⟩ := Option.map_eq_some_iff.mp passed
  have taken := turns_of_runBatch _ batch
  exact taken

/-- A program that cannot be launched has no turn. -/
theorem turns_of_refused {now : Nat} {program : Program} {refusal : Refusal Scheduler}
    (refused : s.runToCompletion patience now program = .error refusal) :
    (Operation.runToCompletion now program).turns s patience = [] := by
  unfold runToCompletion at refused
  unfold Operation.turns
  dsimp only
  cases prepared : s.prepare program (completionOptions s.config) with
  | error _ => rfl
  | ok ex =>
    rw [prepared] at refused
    exact absurd refused (by simp)

/-- A program that is run to its end is launched and then has its turn. -/
theorem turns_of_runToCompletion {now : Nat} {program : Program} {ran : Logged (Val × Scheduler)}
    (numbers : s.Numbered) (runs : s.runToCompletion patience now program = .ok (some ran)) :
    ∃ ex, s.prepare program (completionOptions s.config) = .ok ex ∧
      TakeTurns ((Operation.runToCompletion now program).turns s patience) (s.enroll ex).value
        ran.value.2 := by
  unfold runToCompletion at runs
  unfold Operation.turns
  dsimp only
  cases prepared : s.prepare program (completionOptions s.config) with
  | error cause =>
    rw [prepared] at runs
    exact absurd runs (by simp)
  | ok ex =>
    rw [prepared] at runs
    obtain ⟨slice, sliced, rfl⟩ := Option.map_eq_some_iff.mp (Except.ok.inj runs)
    dsimp only
    rw [sliced]
    have new : s.get? ex.pid = none := pid_of_prepare prepared ▸ numbers.get?_nextPid
    let turn : ScriptTurn := ⟨(s.enroll ex).value, ex, slice.value.1, slice.value.2⟩
    have valid : turn.Valid :=
      ⟨get?_enroll_self new, (unheld_of_prepare prepared).1, slice.entries, _, _, _, sliced⟩
    exact ⟨ex, rfl, .turn valid (.nothing _)⟩

/-- An operation that is not an edit prepares its turns and then gives them. -/
theorem turns_of_perform (numbers : s.Numbered) (unedited : ∀ pid edit, op ≠ .edit pid edit)
    (performed : s.perform patience op = some ran) : ∃ m entries,
      MovesBy op.Prepares ⟨s, [], []⟩ entries m ∧
        TakeTurns (op.turns s patience) m.state ran.value.2 := by
  have turnless : (∀ pid, ¬ op.Does (.turn pid)) → op.turns s patience = [] → ∃ m entries,
      MovesBy op.Prepares ⟨s, [], []⟩ entries m ∧
        TakeTurns (op.turns s patience) m.state ran.value.2 := by
    intro calm none
    have moves := perform_moves_doing numbers unedited performed
    rw [none]
    refine ⟨_, _, moves.mono ?_, .nothing _⟩
    exact fun act does => ⟨does, fun pid turned => calm pid (turned ▸ does)⟩
  cases op with
  | runReady now =>
    obtain ⟨done, passed, rfl⟩ := Option.map_eq_some_iff.mp performed
    exact ⟨_, _, (pumpExternal_moves s).trans (.one .takeBatch), turns_of_runReady passed⟩
  | runToCompletion now program =>
    rcases perform_runToCompletion performed with ⟨cause, refused, rfl⟩ | ⟨done, eq, rfl⟩
    · rw [turns_of_refused refused]
      exact ⟨_, _, .refl _, .nothing _⟩
    · obtain ⟨ex, prepared, taken⟩ := turns_of_runToCompletion numbers eq
      exact ⟨_, _, .one (.startAway prepared), taken⟩
  | _ => exact turnless (by simp [Operation.Does]) rfl

/-- An operation is an edit of a single script, or it prepares its turns and then gives them. -/
theorem edit_or_turns (numbers : s.Numbered) (performed : s.perform patience op = some ran) :
    (∃ pid edit ex, op = .edit pid edit ∧ s.get? pid = some ex ∧
      ran.value.2 = s.store (edit.apply ex)) ∨
    ∃ m entries, MovesBy op.Prepares ⟨s, [], []⟩ entries m ∧
      TakeTurns (op.turns s patience) m.state ran.value.2 := by
  by_cases edits : ∃ pid edit, op = .edit pid edit
  · obtain ⟨pid, edit, rfl⟩ := edits
    obtain rfl := Option.some.inj performed
    unfold Scheduler.edit
    cases found : s.get? pid with
    | none => exact .inr ⟨_, _, .refl _, .nothing _⟩
    | some ex => exact .inl ⟨pid, edit, ex, rfl, found, rfl⟩
  · exact .inr (turns_of_perform numbers (fun pid edit eq => edits ⟨pid, edit, eq⟩) performed)

end Scheduler

end ScriptScheduler
