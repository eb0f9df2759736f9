import Mathlib.Data.List.Dedup
import ScriptScheduler.Proofs.Links
import ScriptScheduler.Proofs.ReadyQueue

/-!
# Passes

In a pass every script that is ready at its start has one turn. A turn changes another script only
by the exit of that script's child: the parent is then made ready, even if it is awake and its own
turn is still to come. A parent that is preempted in this turn is queued twice, and one that halts
is queued and parked. So the ready queue stays tidy just as long as no script that has been made
ready before its turn is preempted or halts (`TakeTurns.tidy_iff`).
-/

namespace ScriptScheduler

open Scheduler

/-! ### Turns -/

/-- Whether a script goes back to the ready queue after its slice. -/
def SliceOutcome.isPreempted : SliceOutcome → Bool
  | .preempted => true
  | _ => false

/-- The turn of a script in a pass. -/
structure ScriptTurn where
  /-- The state in which the turn begins. -/
  before : Scheduler
  /-- The script before its slice. -/
  script : Executor
  /-- The script after its slice. -/
  ran : Executor
  outcome : SliceOutcome

namespace ScriptTurn

/-- The script that has the turn. -/
def pid (turn : ScriptTurn) : Pid := turn.script.pid

/-- The state in which a turn ends. -/
def after (turn : ScriptTurn) : Scheduler :=
  ((turn.before.store turn.ran).settle turn.ran turn.outcome).value.2

/-- The parent that a turn makes ready because its child has left. -/
def heir? (turn : ScriptTurn) : Option Pid :=
  if (turn.after.get? turn.pid).isSome then none else turn.before.heir? turn.script

/-- The scripts that a turn puts at the end of the ready queue. -/
def queues (turn : ScriptTurn) : List Pid :=
  if turn.outcome.isPreempted then [turn.pid] else turn.heir?.toList

/-- A script that was made ready before its turn is neither preempted nor halts. -/
def Steady (turn : ScriptTurn) : Prop :=
  turn.pid ∈ turn.before.ready → turn.outcome ≠ .preempted ∧ turn.outcome ≠ .halted

/-- No script leaves while its parent is in no hold list. -/
def Calm (turn : ScriptTurn) : Prop :=
  ∀ parent, turn.heir? = some parent → turn.before.holdList? parent ≠ some .none

/-- A live script that is in no hold list runs a slice. -/
structure Valid (turn : ScriptTurn) : Prop where
  found : turn.before.get? turn.pid = some turn.script
  free : turn.script.thread.holdList = .none
  runs : ∃ entries, turn.script.Runs turn.before.config.maxRunawayCycles entries turn.ran
    turn.outcome

end ScriptTurn

namespace Scheduler

/-- The turns that the scripts of a batch have. -/
def turnsOf (patience now : Nat) : List Pid → Scheduler → List ScriptTurn
  | [], _ => []
  | pid :: rest, s =>
    match s.get? pid with
    | none => turnsOf patience now rest s
    | some ex =>
      if ex.thread.holdList ≠ .none then turnsOf patience now rest s
      else
        match ex.runSlice now (s.config.sliceFor ex.thread.priority) s.config.maxRunawayCycles
          patience with
        | none => []
        | some slice =>
          let turn : ScriptTurn := ⟨s, ex, slice.value.1, slice.value.2⟩
          turn :: turnsOf patience now rest turn.after

/-- The turns of a pass. -/
def turns (s : Scheduler) (patience now : Nat) : List ScriptTurn :=
  let s := s.pumpExternal.value.2
  turnsOf patience now s.ready { s with ready := [] }

end Scheduler

/-- Turns one after the other lead from one state to another one. -/
inductive TakeTurns : List ScriptTurn → Scheduler → Scheduler → Prop
  | nothing (s : Scheduler) : TakeTurns [] s s
  | turn {turn : ScriptTurn} {turns : List ScriptTurn} {s' : Scheduler} (valid : turn.Valid)
      (rest : TakeTurns turns turn.after s') : TakeTurns (turn :: turns) turn.before s'

/-! ### What a turn does -/

namespace Scheduler

variable {s : Scheduler} {parent : Pid} {gone : Executor}

/-- The parent that becomes ready when a script is removed waits for that script. -/
theorem childOf?_of_heir? (heir : s.heir? gone = some parent) :
    gone.parent = some parent ∧ s.childOf? parent = some gone.pid := by
  obtain ⟨isParent, able⟩ := Option.filter_eq_some_iff.mp heir
  refine ⟨isParent, ?_⟩
  unfold isHeir at able
  cases found : s.get? parent with
  | none =>
    rw [found] at able
    exact absurd able (by simp)
  | some ex =>
    rw [found] at able
    rw [childOf?_of_get? found]
    simp at able
    exact able.1

/-- A list holds a number as often as without another one. -/
theorem count_filter_ne {pid gone : Pid} {pids : List Pid} (ne : pid ≠ gone) :
    (pids.filter fun other => other ≠ gone).count pid = pids.count pid :=
  List.count_filter (by simpa using ne)

variable {s' : Scheduler} {pid : Pid}

/-- When a script leaves, whoever does not wait for it stays as often in the queue. -/
theorem Linked.count_ready_departed (h : Linked s) (departs : Departs s gone s')
    (ne : pid ≠ gone.pid) (apart : s.childOf? pid ≠ some gone.pid) :
    s'.ready.count pid = s.ready.count pid := by
  rw [departs.ready (h.fatherless departs)]
  cases heir : s.heir? gone with
  | none => exact count_filter_ne ne
  | some parent =>
    have other : pid ≠ parent := by
      rintro rfl
      exact apart (childOf?_of_heir? heir).2
    dsimp only
    rw [List.count_append, count_filter_ne other, count_filter_ne ne, List.count_singleton,
      if_neg (by simpa using other.symm), Nat.add_zero]

/-- When a script leaves, whoever does not wait for it stays in its hold list. -/
theorem holdList?_departed (departs : Departs s gone s') (ne : pid ≠ gone.pid)
    (apart : s.childOf? pid ≠ some gone.pid) : s'.holdList? pid = s.holdList? pid := by
  have left := departs.get?_of_ne ne
  cases found : s.get? pid with
  | none =>
    rw [found] at left
    exact holdList?_congr (left.trans found.symm)
  | some ex =>
    rw [found] at left
    rw [childOf?_of_get? found] at apart
    rw [holdList?_of_get? left, holdList?_of_get? found, Executor.thread_bereft,
      if_neg fun waits => apart waits.2]

/-- When a script leaves for which an awake parent waits, the parent stays awake. -/
theorem Linked.awake_departed (h : Linked s) (departs : Departs s gone s')
    (ne : pid ≠ gone.pid) (link : s.childOf? pid = some gone.pid)
    (awake : s.holdList? pid = some .none) : s'.holdList? pid = some .none := by
  have left := departs.get?_of_ne ne
  obtain ⟨ex, found, list⟩ := Option.map_eq_some_iff.mp awake
  rw [found] at left
  have own : ex.pid = pid := pid_of_get? found
  have child : ex.child = some gone.pid := (childOf?_of_get? found).symm.trans link
  have isParent : gone.parent = some ex.pid := own ▸ h.parent_of_childOf? departs link
  rw [holdList?_of_get? left, Executor.thread_bereft, if_pos ⟨isParent, child⟩]
  change some ex.thread.revive.freed.holdList = some .none
  unfold Thread.freed
  split
  · exact congrArg some list
  · rfl

end Scheduler

namespace ScriptTurn.Valid

variable {turn : ScriptTurn} {pid : Pid}

/-- A slice keeps the links, the number and the hold list of its script. -/
theorem carries (valid : turn.Valid) : Executor.Carries turn.script turn.ran := by
  obtain ⟨_, runs⟩ := valid.runs
  obtain ⟨_, slice⟩ := runs.slice
  exact slice.carries

/-- In a turn the script changes, or it leaves. -/
theorem departs (valid : turn.Valid) : Alters turn.pid turn.before turn.after ∨
    ∃ gone, gone.pid = turn.pid ∧ gone.kin = turn.script.kin ∧
      Departs turn.before gone turn.after := by
  obtain ⟨_, runs⟩ := valid.runs
  obtain ⟨_, slice⟩ := runs.slice
  rcases Departs.turn valid.found slice with alters | ⟨gone, number, departs⟩
  · exact .inl alters
  · refine .inr ⟨gone, number, ?_, departs⟩
    have known := departs.live
    unfold kin? at known
    rw [number, valid.found] at known
    exact (Option.some.inj known).symm

/-- After the slice, before it is placed, the script is live and in no hold list. -/
theorem stored (valid : turn.Valid) :
    (turn.before.store turn.ran).get? turn.ran.pid = some turn.ran ∧
      turn.ran.thread.holdList = .none := by
  have number : turn.ran.pid = turn.pid := valid.carries.pid
  refine ⟨?_, valid.carries.holdList.trans valid.free⟩
  rw [number]
  exact get?_store valid.found number

/-- After the slice, before it is placed, the queue is tidy. -/
theorem tidy_store (valid : turn.Valid) (tidy : turn.before.Tidy) :
    (turn.before.store turn.ran).Tidy :=
  tidy.store valid.found valid.carries.pid fun free => valid.carries.holdList.trans free

/-- A turn keeps the queue tidy just when it is steady. -/
theorem tidy_iff (valid : turn.Valid) (tidy : turn.before.Tidy) :
    turn.after.Tidy ↔ turn.Steady := by
  obtain ⟨found, free⟩ := valid.stored
  have number : turn.ran.pid = turn.pid := valid.carries.pid
  have settled : turn.after.Tidy ↔ (turn.ran.pid ∈ turn.before.ready →
      turn.outcome ≠ .preempted ∧ turn.outcome ≠ .halted) :=
    (valid.tidy_store tidy).settle_iff found free
  rwa [number] at settled

/-- A parent whose child leaves loses its child and stays awake if it is; every other script but
the one that has the turn stays as often in the queue, in its hold list and with its child. -/
theorem others (valid : turn.Valid) (linked : Linked turn.before) (ne : pid ≠ turn.pid) :
    (turn.after.ready.count pid = turn.before.ready.count pid ∧
      turn.after.holdList? pid = turn.before.holdList? pid ∧
      turn.after.childOf? pid = turn.before.childOf? pid) ∨
    (turn.before.childOf? pid = some turn.pid ∧ turn.after.childOf? pid = none ∧
      (turn.before.holdList? pid = some .none → turn.after.holdList? pid = some .none)) := by
  rcases valid.departs with alters | ⟨gone, number, -, departs⟩
  · have same := alters.others pid ne
    have queue := congrArg (List.count pid) alters.ready
    rw [count_filter_ne ne, count_filter_ne ne] at queue
    exact .inl ⟨queue, holdList?_congr same, by unfold childOf? kin?; rw [same]⟩
  · rw [← number] at ne ⊢
    have child := linked.childOf?_departed departs pid
    rw [if_neg ne] at child
    by_cases link : turn.before.childOf? pid = some gone.pid
    · rw [link] at child
      exact .inr ⟨link, by simpa [Option.filter] using child,
        linked.awake_departed departs ne link⟩
    · refine .inl ⟨linked.count_ready_departed departs ne link,
        holdList?_departed departs ne link, ?_⟩
      rw [child]
      cases isChild : turn.before.childOf? pid with
      | none => rfl
      | some other =>
        have kept : other ≠ gone.pid := fun same => link (isChild.trans (congrArg some same))
        simp [Option.filter, kept]

/-- A preempted script goes to the end of the queue. -/
theorem after_of_preempted (out : turn.outcome = .preempted) :
    turn.after = (turn.before.store turn.ran).enqueue turn.ran.pid := by
  unfold ScriptTurn.after
  rw [out]
  rfl

/-- A script that halts is parked for the debugger. -/
theorem after_of_halted (out : turn.outcome = .halted) :
    turn.after = (turn.before.store turn.ran).parkDebugger turn.ran.pid := by
  unfold ScriptTurn.after
  rw [out]
  rfl

/-- A script that is neither preempted nor halts leaves the queue, and the parent that becomes ready
goes to its end. -/
theorem ready_of_leaves (valid : turn.Valid) (linked : Linked turn.before)
    (tidy : turn.before.Tidy) (leaves : turn.outcome ≠ .preempted ∧ turn.outcome ≠ .halted) :
    turn.after.ready =
      (turn.before.ready.filter fun other => other ≠ turn.pid ∧ other ∉ turn.queues) ++
        turn.queues := by
  obtain ⟨found, free⟩ := valid.stored
  have number : turn.ran.pid = turn.pid := valid.carries.pid
  have settled := (valid.tidy_store tidy).settle_of_leaves found free leaves
  have unqueued : turn.outcome.isPreempted = false := by
    cases out : turn.outcome with
    | preempted => exact absurd out leaves.1
    | _ => rfl
  rcases valid.departs with alters | ⟨gone, same, kin, departs⟩
  · have live : (turn.after.get? turn.pid).isSome = true := by
      rw [alters.isSome_get?, valid.found]
      rfl
    have absent : turn.pid ∉ turn.after.ready := number ▸ settled.2
    have queues : turn.queues = [] := by
      unfold ScriptTurn.queues heir?
      rw [unqueued, if_pos live]
      rfl
    rw [queues, List.append_nil, ← filter_ne_of_not_mem absent, alters.ready]
    simp
  · have heir : turn.before.heir? gone = turn.before.heir? turn.script := by
      have parents : gone.parent = turn.script.parent := congrArg Prod.fst kin
      unfold Scheduler.heir?
      rw [parents, same]
      rfl
    have queues : turn.queues = (turn.before.heir? gone).toList := by
      have dead : turn.after.get? turn.pid = none := same ▸ departs.get?_self
      unfold ScriptTurn.queues heir?
      rw [unqueued, dead, heir]
      rfl
    rw [queues, departs.ready (linked.fatherless departs), same]
    cases turn.before.heir? gone with
    | none => simp
    | some parent =>
      dsimp only
      rw [List.filter_filter]
      refine congrArg (· ++ [parent]) (List.filter_congr ?_)
      intro other _
      simp [and_comm]

/-- What a steady turn does to the queue: the script leaves it, and the scripts that the turn makes
ready go to its end. -/
theorem ready (valid : turn.Valid) (linked : Linked turn.before) (tidy : turn.before.Tidy)
    (steady : turn.Steady) :
    turn.after.ready =
      (turn.before.ready.filter fun other => other ≠ turn.pid ∧ other ∉ turn.queues) ++
        turn.queues := by
  -- a script that is preempted or halts stays live, and the others leave the queue
  by_cases leaves : turn.outcome ≠ .preempted ∧ turn.outcome ≠ .halted
  · exact valid.ready_of_leaves linked tidy leaves
  obtain ⟨found, free⟩ := valid.stored
  have number : turn.ran.pid = turn.pid := valid.carries.pid
  have absent : turn.pid ∉ turn.before.ready := fun mem => leaves (steady mem)
  have kept : ∀ pids : List Pid, (∀ other ∈ pids, other = turn.pid) →
      (turn.before.ready.filter fun other => other ≠ turn.pid ∧ other ∉ pids) =
        turn.before.ready := by
    intro pids own
    refine List.filter_eq_self.mpr ?_
    intro other mem
    have ne : other ≠ turn.pid := fun same => absent (same ▸ mem)
    have apart : other ∉ pids := fun mem => ne (own other mem)
    simp [ne, apart]
  cases out : turn.outcome with
  | preempted =>
    have queues : turn.queues = [turn.pid] := by
      unfold ScriptTurn.queues
      rw [out]
      rfl
    rw [queues, kept _ fun other mem => List.mem_singleton.mp mem, after_of_preempted out, number]
    rfl
  | halted =>
    have live : (turn.after.get? turn.pid).isSome = true := by
      rw [after_of_halted out, ← number, get?_parkDebugger_self, found]
      rfl
    have queues : turn.queues = [] := by
      unfold ScriptTurn.queues heir?
      rw [out, if_pos live]
      rfl
    rw [queues, kept _ fun other mem => absurd mem List.not_mem_nil, after_of_halted out,
      List.append_nil]
    rfl
  | _ => exact absurd ⟨by simp [out], by simp [out]⟩ leaves

end ScriptTurn.Valid

/-! ### Scripts whose turn is still to come -/

/-- During a pass the scripts whose turn is still to come are live and in no hold list. Those that
have been made ready again have lost their child. -/
structure Underway (away : List Pid) (s : Scheduler) : Prop where
  linked : Linked s
  nodup : away.Nodup
  free : ∀ pid ∈ away, s.holdList? pid = some .none
  childless : ∀ pid ∈ away, pid ∈ s.ready → s.childOf? pid = none

/-- After a turn the scripts whose turn is still to come are as before. -/
theorem Underway.turn {turn : ScriptTurn} {away : List Pid}
    (h : Underway (turn.pid :: away) turn.before) (valid : turn.Valid) :
    Underway away turn.after := by
  obtain ⟨new, nodup⟩ := List.nodup_cons.mp h.nodup
  have linked : Linked turn.after := by
    rcases valid.departs with alters | ⟨gone, -, -, departs⟩
    · exact h.linked.altered alters
    · exact h.linked.departed departs
  refine ⟨linked, nodup, ?_, ?_⟩
  · intro pid mem
    have ne : pid ≠ turn.pid := fun same => new (same ▸ mem)
    have free := h.free pid (List.mem_cons_of_mem _ mem)
    rcases valid.others h.linked ne with ⟨-, list, -⟩ | ⟨-, -, awake⟩
    · exact list.trans free
    · exact awake free
  · intro pid mem queued
    have ne : pid ≠ turn.pid := fun same => new (same ▸ mem)
    rcases valid.others h.linked ne with ⟨count, -, child⟩ | ⟨-, childless, -⟩
    · rw [child]
      refine h.childless pid (List.mem_cons_of_mem _ mem) ?_
      rw [← List.count_pos_iff] at queued ⊢
      rwa [count] at queued
    · exact childless

/-- A pass is made of turns. -/
theorem turns_of_runBatch {patience now : Nat} (batch : List Pid) :
    ∀ {s : Scheduler} {ran : Logged Scheduler}, runBatch patience now batch s = some ran →
      TakeTurns (turnsOf patience now batch s) s ran.value := by
  induction batch with
  | nil =>
    intro s ran runs
    obtain rfl := Option.some.inj runs
    exact .nothing s
  | cons pid rest ih =>
    intro s ran runs
    unfold runBatch at runs
    unfold turnsOf
    cases found : s.get? pid with
    | none =>
      rw [found] at runs
      exact ih runs
    | some ex =>
      have number : ex.pid = pid := pid_of_get? found
      rw [found] at runs
      dsimp only at runs ⊢
      split at runs
      · next held =>
        rw [if_pos held]
        exact ih runs
      · next free =>
        rw [if_neg free]
        unfold runOne at runs
        cases sliced : ex.runSlice now (s.config.sliceFor ex.thread.priority)
          s.config.maxRunawayCycles patience with
        | none =>
          rw [sliced] at runs
          exact absurd runs (by simp)
        | some slice =>
          rw [sliced] at runs
          obtain ⟨after, others, rfl⟩ := Option.map_eq_some_iff.mp runs
          let turn : ScriptTurn := ⟨s, ex, slice.value.1, slice.value.2⟩
          have valid : turn.Valid := ⟨(congrArg turn.before.get? number).trans found,
            not_not.mp free, slice.entries, _, _, _, sliced⟩
          have taken := ih others
          exact .turn valid taken

/-- A pass is made of one turn of each script of its batch. -/
theorem takeTurns_of_runBatch {patience now : Nat} (batch : List Pid) :
    ∀ {s : Scheduler} {ran : Logged Scheduler}, Underway batch s →
      runBatch patience now batch s = some ran →
      (turnsOf patience now batch s).map ScriptTurn.pid = batch ∧
        TakeTurns (turnsOf patience now batch s) s ran.value := by
  induction batch with
  | nil => exact fun _ runs => ⟨rfl, turns_of_runBatch [] runs⟩
  | cons pid rest ih =>
    intro s ran underway runs
    have taken := turns_of_runBatch (pid :: rest) runs
    refine ⟨?_, taken⟩
    obtain ⟨ex, found, free⟩ := Option.map_eq_some_iff.mp (underway.free pid List.mem_cons_self)
    have number : ex.pid = pid := pid_of_get? found
    unfold runBatch at runs
    unfold turnsOf at taken ⊢
    rw [found] at runs taken ⊢
    dsimp only at runs taken ⊢
    rw [if_neg (by simp [free])] at runs taken ⊢
    unfold runOne at runs
    cases sliced : ex.runSlice now (s.config.sliceFor ex.thread.priority)
      s.config.maxRunawayCycles patience with
    | none =>
      rw [sliced] at runs
      exact absurd runs (by simp)
    | some slice =>
      rw [sliced] at runs taken
      obtain ⟨after, others, rfl⟩ := Option.map_eq_some_iff.mp runs
      let turn : ScriptTurn := ⟨s, ex, slice.value.1, slice.value.2⟩
      -- nobody of the batch loses the turn, which is what a pass that is underway says
      have started : Underway (turn.pid :: rest) turn.before := by
        rw [← number] at underway
        exact underway
      cases taken with
      | turn valid =>
        obtain ⟨pids, -⟩ := ih (started.turn valid) others
        exact congrArg₂ List.cons number pids

/-! ### Spoiled queues -/

/-- A script without a child is queued twice, or it is queued although it is in a hold list. -/
structure Spoiled (pid : Pid) (s : Scheduler) : Prop where
  childless : s.childOf? pid = none
  queue : 2 ≤ s.ready.count pid ∨ pid ∈ s.ready ∧ s.holdList? pid ≠ some .none

namespace Spoiled

variable {turn : ScriptTurn} {pid : Pid} {s : Scheduler}

/-- A spoiled queue is not tidy. -/
theorem not_tidy (h : Spoiled pid s) : ¬ s.Tidy := by
  intro tidy
  rcases h.queue with twice | ⟨queued, held⟩
  · have once := List.nodup_iff_count_le_one.mp tidy.nodup pid
    omega
  · exact held (tidy.free pid queued)

/-- The turns of other scripts do not help. -/
theorem after (h : Spoiled pid turn.before) (valid : turn.Valid) (linked : Linked turn.before)
    (ne : pid ≠ turn.pid) : Spoiled pid turn.after := by
  rcases valid.others linked ne with ⟨count, list, child⟩ | ⟨child, -, -⟩
  · refine ⟨child.trans h.childless, ?_⟩
    rw [← List.count_pos_iff, count, list, List.count_pos_iff]
    exact h.queue
  · rw [h.childless] at child
    exact absurd child (by simp)

/-- A turn that is not steady spoils the queue. -/
theorem of_not_steady {away : List Pid} (underway : Underway (turn.pid :: away) turn.before)
    (valid : turn.Valid) (unsteady : ¬ turn.Steady) : Spoiled turn.pid turn.after := by
  obtain ⟨queued, stays⟩ := Classical.not_imp.mp unsteady
  obtain ⟨found, free⟩ := valid.stored
  have number : turn.ran.pid = turn.pid := valid.carries.pid
  have childless : turn.ran.child = none := by
    rw [valid.carries.child, ← childOf?_of_get? valid.found]
    exact underway.childless turn.pid List.mem_cons_self queued
  rw [← number] at queued ⊢
  cases out : turn.outcome with
  | preempted =>
    rw [ScriptTurn.Valid.after_of_preempted out]
    refine ⟨(childOf?_of_get? found).trans childless, .inl ?_⟩
    change 2 ≤ (turn.before.ready ++ [turn.ran.pid]).count turn.ran.pid
    have once := List.count_pos_iff.mpr queued
    rw [List.count_append, List.count_singleton_self]
    omega
  | halted =>
    rw [ScriptTurn.Valid.after_of_halted out]
    have parked := get?_parkDebugger_self (turn.before.store turn.ran) turn.ran.pid
    rw [found] at parked
    refine ⟨(childOf?_of_get? parked).trans childless, .inr ⟨queued, ?_⟩⟩
    rw [holdList?_of_get? parked]
    simp [Executor.mapThread]
  | _ => exact absurd ⟨by simp [out], by simp [out]⟩ stays

end Spoiled

/-! ### Whole passes -/

/-- The scripts that turns put into the queue, except for those whose own turn is still to come. -/
def queued : List ScriptTurn → List Pid
  | [] => []
  | turn :: rest =>
    (turn.queues.filter fun pid => pid ∉ rest.map ScriptTurn.pid) ++ queued rest

/-- The scripts that are preempted in their turns. -/
def preempted (turns : List ScriptTurn) : List Pid :=
  (turns.filter fun turn => turn.outcome.isPreempted).map ScriptTurn.pid

/-- The scripts that are preempted are queued in the order of their turns. -/
theorem preempted_sublist (turns : List ScriptTurn) :
    (preempted turns).Sublist (turns.flatMap ScriptTurn.queues) := by
  induction turns with
  | nil => exact List.Sublist.refl _
  | cons turn rest ih =>
    rw [List.flatMap_cons]
    unfold preempted at ih ⊢
    by_cases out : turn.outcome.isPreempted = true
    · have queues : turn.queues = [turn.pid] := by
        unfold ScriptTurn.queues
        rw [if_pos out]
      rw [List.filter_cons, if_pos out, List.map_cons, queues]
      exact ih.cons_cons turn.pid
    · rw [List.filter_cons, if_neg out]
      exact ih.trans (List.sublist_append_right _ _)

/-- If only the last occurrence of each number counts, numbers that come again later may be
struck. -/
theorem dedup_filter_append {struck kept : List Pid} (later : ∀ pid ∈ struck, pid ∈ kept)
    (pids : List Pid) :
    ((pids.filter fun pid => pid ∉ struck) ++ kept).dedup = (pids ++ kept).dedup := by
  induction pids with
  | nil => rfl
  | cons pid rest ih =>
    by_cases mem : pid ∈ struck
    · have again : pid ∈ rest ++ kept := List.mem_append_right _ (later pid mem)
      rw [List.filter_cons_of_neg (by simpa using mem), List.cons_append,
        List.dedup_cons_of_mem again, ih]
    · rw [List.filter_cons_of_pos (by simpa using mem), List.cons_append, List.cons_append]
      by_cases again : pid ∈ rest ++ kept
      · have still : pid ∈ (rest.filter fun pid => pid ∉ struck) ++ kept := by
          rcases List.mem_append.mp again with first | last
          · exact List.mem_append_left _ (List.mem_filter.mpr ⟨first, by simpa using mem⟩)
          · exact List.mem_append_right _ last
        rw [List.dedup_cons_of_mem again, List.dedup_cons_of_mem still, ih]
      · have still : pid ∉ (rest.filter fun pid => pid ∉ struck) ++ kept := by
          intro found
          rcases List.mem_append.mp found with first | last
          · exact again (List.mem_append_left _ (List.mem_filter.mp first).1)
          · exact again (List.mem_append_right _ last)
        rw [List.dedup_cons_of_notMem again, List.dedup_cons_of_notMem still, ih]

namespace TakeTurns

variable {turns : List ScriptTurn} {s s' : Scheduler} {pid : Pid}

/-- A queue that is spoiled for a script that has had its turn remains spoiled. -/
theorem spoiled (taken : TakeTurns turns s s') (underway : Underway (turns.map ScriptTurn.pid) s)
    (h : Spoiled pid s) (past : pid ∉ turns.map ScriptTurn.pid) : Spoiled pid s' := by
  induction taken with
  | nothing => exact h
  | turn valid _ ih =>
    rw [List.map_cons, List.mem_cons, not_or] at past
    exact ih (underway.turn valid) (h.after valid underway.linked past.1) past.2

/-- Turns keep the queue tidy just when they are steady. -/
theorem tidy_iff (taken : TakeTurns turns s s') (underway : Underway (turns.map ScriptTurn.pid) s)
    (tidy : s.Tidy) : s'.Tidy ↔ ∀ turn ∈ turns, turn.Steady := by
  induction taken with
  | nothing => exact iff_of_true tidy fun _ mem => absurd mem List.not_mem_nil
  | @turn turn rest s' valid taken ih =>
    have others := underway.turn valid
    rw [List.forall_mem_cons]
    by_cases steady : turn.Steady
    · rw [ih others ((valid.tidy_iff tidy).mpr steady)]
      exact ⟨fun all => ⟨steady, all⟩, fun all => all.2⟩
    · have past : turn.pid ∉ rest.map ScriptTurn.pid := (List.nodup_cons.mp underway.nodup).1
      have spoiled := taken.spoiled others (.of_not_steady underway valid steady) past
      exact iff_of_false spoiled.not_tidy fun all => steady all.1

/-- The queue after steady turns: whoever has been queued last comes last. -/
theorem ready_eq (taken : TakeTurns turns s s') (underway : Underway (turns.map ScriptTurn.pid) s)
    (tidy : s.Tidy) (steady : ∀ turn ∈ turns, turn.Steady) :
    s'.ready =
      ((s.ready.filter fun pid => pid ∉ turns.map ScriptTurn.pid) ++ queued turns).dedup := by
  induction taken with
  | nothing => simp [queued, tidy.nodup.dedup]
  | @turn turn rest s' valid taken ih =>
    obtain ⟨first, others⟩ := List.forall_mem_cons.mp steady
    let later := turn.queues.filter fun pid => pid ∉ rest.map ScriptTurn.pid
    have left : ((turn.before.ready.filter fun other =>
          other ≠ turn.pid ∧ other ∉ turn.queues).filter
            fun pid => pid ∉ rest.map ScriptTurn.pid) =
        (turn.before.ready.filter fun pid => pid ∉ (turn :: rest).map ScriptTurn.pid).filter
          fun pid => pid ∉ later := by
      rw [List.filter_filter, List.filter_filter]
      refine List.filter_congr ?_
      intro other _
      have struck : other ∈ later ↔ other ∈ turn.queues ∧ other ∉ rest.map ScriptTurn.pid := by
        unfold later
        rw [List.mem_filter, decide_eq_true_iff]
      rw [← Bool.decide_and, ← Bool.decide_and, decide_eq_decide, struck, List.map_cons,
        List.mem_cons]
      tauto
    rw [ih (underway.turn valid) ((valid.tidy_iff tidy).mpr first) others,
      valid.ready underway.linked tidy first, List.filter_append, left, List.append_assoc]
    exact dedup_filter_append (fun pid mem => List.mem_append_left _ mem) _

/-- The queue after calm turns: the scripts that the turns make ready come last, in their order. -/
theorem calm (taken : TakeTurns turns s s') (underway : Underway (turns.map ScriptTurn.pid) s)
    (tidy : s.Tidy) (apart : ∀ pid ∈ turns.map ScriptTurn.pid, pid ∉ s.ready)
    (calm : ∀ turn ∈ turns, turn.Calm) :
    s'.Tidy ∧ s'.ready = s.ready ++ turns.flatMap ScriptTurn.queues := by
  induction taken with
  | nothing => exact ⟨tidy, by simp⟩
  | @turn turn rest s' valid taken ih =>
    obtain ⟨first, others⟩ := List.forall_mem_cons.mp calm
    have absent : turn.pid ∉ turn.before.ready := apart turn.pid List.mem_cons_self
    have steady : turn.Steady := fun mem => absurd mem absent
    -- whoever is made ready has had its turn or was in a hold list
    have new : ∀ pid ∈ turn.queues, pid = turn.pid ∨ turn.before.holdList? pid ≠ some .none := by
      intro pid mem
      unfold ScriptTurn.queues at mem
      split at mem
      · exact .inl (List.mem_singleton.mp mem)
      · exact .inr (first pid (Option.mem_toList.mp mem))
    have ready : turn.after.ready = turn.before.ready ++ turn.queues := by
      rw [valid.ready underway.linked tidy steady]
      refine congrArg (· ++ turn.queues) (List.filter_eq_self.mpr ?_)
      intro other mem
      have ne : other ≠ turn.pid := fun same => absent (same ▸ mem)
      have old : other ∉ turn.queues := by
        intro made
        rcases new other made with same | held
        · exact ne same
        · exact held (tidy.free other mem)
      simp [ne, old]
    have still : ∀ pid ∈ rest.map ScriptTurn.pid, pid ∉ turn.after.ready := by
      intro pid mem queued
      rw [ready] at queued
      rcases List.mem_append.mp queued with old | made
      · exact apart pid (List.mem_cons_of_mem _ mem) old
      · rcases new pid made with same | held
        · exact (List.nodup_cons.mp underway.nodup).1 (same ▸ mem)
        · exact held (underway.free pid (List.mem_cons_of_mem _ mem))
    obtain ⟨tidied, queue⟩ := ih (underway.turn valid) ((valid.tidy_iff tidy).mpr steady) still
      others
    refine ⟨tidied, ?_⟩
    rw [queue, ready, List.flatMap_cons, List.append_assoc]

end TakeTurns

/-- What a pass from the state `s` to the state `s'` does with its turns. -/
structure OneSliceEach (s : Scheduler) (turns : List ScriptTurn) (s' : Scheduler) : Prop where
  /-- The pass is made of the turns. -/
  taken : TakeTurns turns { s.pumpExternal.value.2 with ready := [] } s'
  /-- Each script that is ready once the settled engine calls have been applied has one turn, in the
  order of the queue, and no other script has a turn. -/
  once : turns.map ScriptTurn.pid = s.pumpExternal.value.2.ready
  nodup : (turns.map ScriptTurn.pid).Nodup
  /-- Steady passes alone leave a tidy queue. -/
  tidy_iff : s'.Tidy ↔ ∀ turn ∈ turns, turn.Steady
  /-- After a steady pass whoever has been queued last comes last. -/
  queue : (∀ turn ∈ turns, turn.Steady) → s'.ready = (queued turns).dedup
  /-- A calm pass is steady and queues in the order of the turns. -/
  calm : (∀ turn ∈ turns, turn.Calm) → (∀ turn ∈ turns, turn.Steady) ∧
    s'.ready = turns.flatMap ScriptTurn.queues ∧ (preempted turns).Sublist s'.ready

section Passes

variable {config : SchedulerConfig} {engine : Option Engine} {s : Scheduler} {patience now : Nat}
  {ran : Logged Scheduler}

/-- A pass from a reachable state with a tidy queue. -/
theorem Reachable.oneSliceEach (reached : Reachable config engine s) (tidy : s.Tidy)
    (passed : s.runReady patience now = some ran) :
    OneSliceEach s (s.turns patience now) ran.value := by
  let pumped := s.pumpExternal.value.2
  let start : Scheduler := { pumped with ready := [] }
  have pump : s.perform 0 .pumpExternal = some (answering .count s.pumpExternal) := rfl
  have linked : Linked pumped := (reached.perform pump).linked
  have pumped_tidy : pumped.Tidy := tidy.pumpExternal
  have underway : Underway pumped.ready start :=
    ⟨linked.of_kin? fun _ => rfl, pumped_tidy.nodup, pumped_tidy.free,
      fun _ _ queued => absurd queued List.not_mem_nil⟩
  have start_tidy : start.Tidy := ⟨List.nodup_nil, fun _ mem => absurd mem List.not_mem_nil⟩
  obtain ⟨after, batch, rfl⟩ := Option.map_eq_some_iff.mp passed
  obtain ⟨once, taken⟩ := takeTurns_of_runBatch pumped.ready underway batch
  have underway' : Underway ((s.turns patience now).map ScriptTurn.pid) start :=
    once.symm ▸ underway
  have tidy_iff := taken.tidy_iff underway' start_tidy
  refine ⟨taken, once, underway'.nodup, tidy_iff, ?_, ?_⟩
  · intro steady
    exact taken.ready_eq underway' start_tidy steady
  · intro calm
    obtain ⟨tidied, queue⟩ := taken.calm underway' start_tidy (fun _ _ => List.not_mem_nil) calm
    rw [List.nil_append] at queue
    exact ⟨tidy_iff.mp tidied, queue, queue ▸ preempted_sublist _⟩

end Passes

/-- The states that operations lead to from a scheduler without scripts if in every pass no script
that has been made ready before its turn is preempted or halts. -/
inductive SteadilyReachable (config : SchedulerConfig) (engine : Option Engine) : Scheduler → Prop
  | empty : SteadilyReachable config engine (.empty config engine)
  | perform {s : Scheduler} {patience : Nat} {op : Operation} {ran : Logged (Answer × Scheduler)}
      (before : SteadilyReachable config engine s) (performed : s.perform patience op = some ran)
      (steady : ∀ now, op = .runReady now → ∀ turn ∈ s.turns patience now, turn.Steady) :
      SteadilyReachable config engine ran.value.2

namespace SteadilyReachable

variable {config : SchedulerConfig} {engine : Option Engine} {s : Scheduler} {patience now : Nat}
  {ran : Logged Scheduler}

/-- A steadily reachable state is reachable. -/
theorem reachable (reached : SteadilyReachable config engine s) : Reachable config engine s := by
  induction reached with
  | empty => exact .empty
  | perform _ performed _ ih => exact ih.perform performed

/-- Operations without a pass lead to a steadily reachable state. -/
theorem performAll {ops : List Operation} {s' : Scheduler}
    (reached : SteadilyReachable config engine s) (noPass : ∀ op ∈ ops, ∀ now, op ≠ .runReady now)
    (performed : performAll patience ops s = some s') : SteadilyReachable config engine s' := by
  induction ops generalizing s with
  | nil => exact Option.some.inj performed ▸ reached
  | cons op rest ih =>
    obtain ⟨ran, first, others⟩ := Option.bind_eq_some_iff.mp performed
    obtain ⟨passless, noPass⟩ := List.forall_mem_cons.mp noPass
    exact ih (reached.perform first fun now eq => absurd eq (passless now)) noPass others

/-- In every steadily reachable state the queue is tidy. -/
theorem tidy (reached : SteadilyReachable config engine s) : s.Tidy := by
  induction reached with
  | empty => exact .empty config engine
  | @perform s patience op ran before performed steady ih =>
    by_cases passes : ∃ now, op = .runReady now
    · obtain ⟨now, rfl⟩ := passes
      obtain ⟨after, passed, rfl⟩ := Option.map_eq_some_iff.mp performed
      have each := before.reachable.oneSliceEach ih passed
      exact each.tidy_iff.mpr (steady now rfl)
    · exact ih.perform before.reachable.numbered (fun now eq => passes ⟨now, eq⟩) performed

/-- In every steadily reachable state the ready queue holds no script twice and only live scripts
that are in no hold list, and in a pass each script that is ready runs one slice, in the order of
the queue. The queue remains so just when the pass is steady, and scripts that are preempted in a
calm pass keep their order. -/
theorem passes (reached : SteadilyReachable config engine s)
    (passed : s.runReady patience now = some ran) :
    s.Tidy ∧ OneSliceEach s (s.turns patience now) ran.value :=
  ⟨reached.tidy, reached.reachable.oneSliceEach reached.tidy passed⟩

end SteadilyReachable

/-- Two scripts are launched. -/
def pairRun : List Operation :=
  [.start (.bytecode "first" [.sleep 100, .ret]), .start (.bytecode "second" [.ret])]

/-- Two scripts that have been launched run one slice each in the next pass. -/
theorem passes_pair : ∃ s ran, performAll 1 pairRun (.empty {} none) = some s ∧
    s.runReady 1 0 = some ran ∧ (s.turns 1 0).map ScriptTurn.pid = [⟨1⟩, ⟨2⟩] ∧ s.Tidy ∧
      OneSliceEach s (s.turns 1 0) ran.value := by
  have performed : performAll 1 pairRun (.empty {} none) = some _ := rfl
  refine ⟨_, _, performed, rfl, rfl, ?_⟩
  exact SteadilyReachable.passes (SteadilyReachable.empty.performAll (by simp [pairRun]) performed)
    rfl

/-- A script that waits for an event launches a child and gets the event before the child runs. -/
def doublingRun : List Operation :=
  [.start (.bytecode "parent" [.waitForEvent none, .jump 1]), .runReady 0,
    .runScript ⟨1⟩ (.bytecode "child" [.ret]), .signal ⟨1⟩ (.long 7), .runReady 1]

/-- After the child has left and the parent has been preempted in the same pass, the parent is
queued twice, and it runs two slices in the next pass. -/
theorem not_tidy_doubling : ∃ s, performAll 1 doublingRun (.empty {} none) = some s ∧
    s.ready = [⟨1⟩, ⟨1⟩] ∧ ¬ s.Tidy ∧ (s.turns 1 2).map ScriptTurn.pid = [⟨1⟩, ⟨1⟩] := by
  have performed : performAll 1 doublingRun (.empty {} none) = some _ := rfl
  refine ⟨_, performed, rfl, ?_, rfl⟩
  intro tidy
  exact absurd tidy.nodup (by decide)

end ScriptScheduler
