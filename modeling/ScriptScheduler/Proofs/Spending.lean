import Mathlib.Algebra.Group.Prod
import Mathlib.Algebra.GroupWithZero.Nat
import ScriptScheduler.Proofs.Events
import ScriptScheduler.Proofs.Idling
import ScriptScheduler.Proofs.Wakeups

/-!
# What scripts spend

A script spends instructions, which it runs in its turns, and wakings, which it owes to the clock.
Whatever happens between two states, a script that is not live stays so and is not recorded again;
a live one stays live without a record and has spent more, or it exits with one record of all that
it has spent (`Spends`). Amounts add up, so what an operation does to a script follows from what its
parts do.
-/

namespace ScriptScheduler

open Scheduler

/-- What a script has spent: the instructions that it has run, and how often the clock has woken
it. -/
def Executor.spent (ex : Executor) : Nat × Nat := (ex.instrCycles, ex.sleepCycles)

/-- Whoever loses its parent or its child has spent as much as before. -/
theorem Executor.spent_bereft (ex gone : Executor) : (ex.bereft gone).spent = ex.spent := by
  unfold bereft resumed
  dsimp only
  split <;> split <;> rfl

/-- Without a turn, and unless it is woken by the clock, a script spends nothing. -/
theorem Executor.ChangeBy.spent {gone : Pid → Prop} {wrapped : Prop} {may : Act → Prop}
    {a b : Executor} (change : ChangeBy gone wrapped may a b) (turnless : ¬ may (.turn a.pid))
    (untimed : ¬ may .expire) : b.spent = a.spent := by
  have instrs := (change.tallies turnless).instrCycles
  refine Prod.ext instrs ?_
  change b.sleepCycles = a.sleepCycles
  cases change with
  | preempted _ _ allowed | slept _ _ _ allowed | stopped _ _ allowed | called _ _ _ allowed =>
    exact absurd allowed turnless
  | timedOut _ allowed => exact absurd allowed untimed
  | answered =>
    unfold Executor.answered
    split <;> rfl
  | requested _ _ wake =>
    have same := (a.carries_suspend wake).sleepCycles
    unfold openResultSlot
    split <;> exact same
  | @awaited _ child =>
    exact (({ a with child := some child }.push .sentinel).carries_suspend Clock.never).sleepCycles
  | _ => rfl

/-- The editing of a script costs it nothing. -/
theorem Edit.spent_apply (edit : Edit) (ex : Executor) : (edit.apply ex).spent = ex.spent := by
  cases edit <;> rfl

/-- What a script had spent when it exited. -/
def ScriptExit.spent (exit : ScriptExit) : Nat × Nat := (exit.instrCycles, exit.sleepCycles)

/-- Between the states `s` and `s'` the script `pid` spends an amount and exits at most once. -/
inductive Spends (pid : Pid) (s s' : Scheduler) : Nat × Nat → Prop
  /-- It is not live. -/
  | absent (dead : s.get? pid = none) (still : s'.get? pid = none)
      (records : s'.recordsOf pid = s.recordsOf pid) : Spends pid s s' 0
  /-- It stays live. -/
  | lives {ex ex' : Executor} {amount : Nat × Nat} (found : s.get? pid = some ex)
      (live : s'.get? pid = some ex') (records : s'.recordsOf pid = s.recordsOf pid)
      (more : ex'.spent = ex.spent + amount) : Spends pid s s' amount
  /-- It exits. -/
  | exits {ex : Executor} {exit : ScriptExit} {amount : Nat × Nat} (found : s.get? pid = some ex)
      (dead : s'.get? pid = none) (records : s'.recordsOf pid = s.recordsOf pid ++ [exit])
      (more : exit.spent = ex.spent + amount) : Spends pid s s' amount

namespace Spends

variable {s s₁ s₂ : Scheduler} {pid : Pid} {ex : Executor} {first second : Nat × Nat}

/-- What is spent in one part and in the next one. -/
theorem trans (h₁ : Spends pid s s₁ first) (h₂ : Spends pid s₁ s₂ second) :
    Spends pid s s₂ (first + second) := by
  cases h₁ with
  | absent dead still records =>
    cases h₂ with
    | absent _ later more => exact .absent dead later (more.trans records)
    | lives found => exact absurd (found.symm.trans still) (by simp)
    | exits found => exact absurd (found.symm.trans still) (by simp)
  | lives found live records more =>
    cases h₂ with
    | absent gone => exact absurd (live.symm.trans gone) (by simp)
    | lives found' live' records' more' =>
      obtain rfl := Option.some.inj (found'.symm.trans live)
      exact .lives found live' (records'.trans records) (by rw [more', more, add_assoc])
    | exits found' dead records' more' =>
      obtain rfl := Option.some.inj (found'.symm.trans live)
      exact .exits found dead (records ▸ records') (by rw [more', more, add_assoc])
  | exits found dead records more =>
    cases h₂ with
    | absent _ still records' =>
      rw [add_zero]
      exact .exits found still (records'.trans records) more
    | lives found' => exact absurd (found'.symm.trans dead) (by simp)
    | exits found' => exact absurd (found'.symm.trans dead) (by simp)

/-- Whoever spends nothing and is not recorded. -/
theorem nothing (spent : (s₁.get? pid).map Executor.spent = (s.get? pid).map Executor.spent)
    (records : s₁.recordsOf pid = s.recordsOf pid) : Spends pid s s₁ 0 := by
  cases found : s.get? pid with
  | none =>
    rw [found] at spent
    exact .absent found (Option.map_eq_none_iff.mp spent) records
  | some ex =>
    rw [found] at spent
    obtain ⟨ex', live, same⟩ := Option.map_eq_some_iff.mp spent
    exact .lives found live records (same.trans (add_zero _).symm)

/-- Whoever stays as it is. -/
theorem of_get? (same : s₁.get? pid = s.get? pid) (records : s₁.recordsOf pid = s.recordsOf pid) :
    Spends pid s s₁ 0 := nothing (by rw [same]) records

/-- Nothing happens. -/
theorem refl (s : Scheduler) (pid : Pid) : Spends pid s s 0 := of_get? rfl rfl

/-- Only threads are changed. -/
theorem of_rethreads (h : Rethreads s s₁) (aside : s₁.aside = s.aside) : Spends pid s s₁ 0 := by
  refine nothing (h.view (fun _ _ => rfl) pid) ?_
  unfold recordsOf
  rw [exits_of_aside aside]

/-- A script that is stored anew, with what it has spent since. -/
theorem store (new : Executor) (found : s.get? new.pid = some ex)
    (more : new.spent = ex.spent + first) :
    Spends pid s (s.store new) (if new.pid = pid then first else 0) := by
  split
  · next same =>
    subst same
    exact .lives found (get?_store_self found) rfl more
  · next ne => exact of_get? (get?_store_of_ne (Ne.symm ne)) rfl

/-- A script that is stored anew and has spent nothing. -/
theorem restore (new : Executor) (found : s.get? new.pid = some ex) (same : new.spent = ex.spent) :
    Spends pid s (s.store new) 0 := by
  have stored : Spends pid s (s.store new) (if new.pid = pid then 0 else 0) :=
    store new found (same.trans (add_zero _).symm)
  rwa [ite_self] at stored

/-! ### Departures -/

/-- A script that is retired exits; whomever it leaves stays live. -/
theorem retire (gone : Executor) (found : s.get? gone.pid = some ex)
    (same : gone.spent = ex.spent) (reason : ExitReason) :
    Spends pid s (s.retire gone reason).value.2 0 := by
  have exits := exits_retire s gone reason
  by_cases own : gone.pid = pid
  · subst own
    have records : (s.retire gone reason).value.2.recordsOf gone.pid =
        s.recordsOf gone.pid ++ [exitOf gone reason] := by
      unfold recordsOf
      rw [exits, List.filter_append]
      simp [exitOf]
    have spent : (exitOf gone reason).spent = ex.spent + 0 := same.trans (add_zero _).symm
    exact .exits found (Evolves.get?_retire_self s gone reason) records spent
  · refine nothing ?_ ?_
    · rw [get?_retire s gone reason (Ne.symm own), Option.map_map]
      congr 1
      funext ex
      exact ex.spent_bereft gone
    · unfold recordsOf
      rw [exits, List.filter_append]
      simp [exitOf, own]

/-- An engine script whose call is done exits. -/
theorem completeExternal (done : Pid) (value : Val) :
    Spends pid s (s.completeExternal done value).value.2 0 := by
  cases found : s.get? done with
  | none =>
    rw [completeExternal_of_not_live found]
    exact .refl s pid
  | some ex =>
    obtain rfl : ex.pid = done := pid_of_get? found
    let last : Executor := ex.finishEngine value
    let t : Scheduler := { s.store last with external := s.external.erase ex.pid }
    have stored : Spends pid s t 0 :=
      (restore last found rfl).trans (of_get? rfl rfl : Spends pid (s.store last) t 0)
    have live : t.get? last.pid = some last := get?_store_self (s := s) found
    have retired : Spends pid t _ 0 :=
      retire last live rfl (if value.isError then .faulted else .finished)
    unfold Scheduler.completeExternal
    rw [found]
    exact stored.trans retired

/-- The scripts of settled calls exit one after the other. -/
theorem completeEach (settled : List Completion) :
    ∀ s : Scheduler, Spends pid s (Scheduler.completeEach settled s).value 0 := by
  induction settled with
  | nil => exact fun s => .refl s pid
  | cons done rest ih =>
    intro s
    have first : Spends pid s (s.completeExternal done.pid done.value).value.2 0 :=
      completeExternal done.pid done.value
    exact first.trans (ih _)

/-- The scripts of settled calls exit. -/
theorem pumpExternal : Spends pid s s.pumpExternal.value.2 0 := by
  have taken : Spends pid s { s with calls := s.calls.filter fun call => call.settlement.isNone } 0 :=
    of_get? rfl rfl
  exact taken.trans (completeEach _ _)

/-- A script that is killed exits. -/
theorem kill {killed : Pid} {ran : Logged (ScriptExit × Scheduler)}
    (eq : s.kill killed = .ok ran) : Spends pid s ran.value.2 0 := by
  obtain ⟨ex, found, rfl⟩ := kill_ok eq
  obtain rfl : ex.pid = killed := pid_of_get? found
  exact retire { ex with result := some (.fail ErrorCode.aborted "script killed") } found rfl
    .killed

/-- Scripts that are shut down exit one after the other. -/
theorem shutdownEach (pids : List Pid) :
    ∀ s : Scheduler, Spends pid s (Scheduler.shutdownEach pids s).value 0 := by
  induction pids with
  | nil => exact fun s => .refl s pid
  | cons next rest ih =>
    intro s
    unfold Scheduler.shutdownEach
    cases found : s.get? next with
    | none => exact ih s
    | some ex =>
      obtain rfl : ex.pid = next := pid_of_get? found
      let last : Executor :=
        { ex with result := some (.fail ErrorCode.aborted "scheduler shut down") }
      have retired : Spends pid s (s.retire last .shutdown).value.2 0 :=
        retire last found rfl .shutdown
      exact retired.trans (ih _)

/-- All scripts are shut down. -/
theorem shutdown : Spends pid s s.shutdown.value 0 := by
  unfold Scheduler.shutdown
  split
  · exact .refl s pid
  · exact shutdownEach _ s

/-! ### Turns -/

/-- A script that calls the engine exits if its call is done, and else stays live. -/
theorem invoke {function : FunctionRef} {id : RequestId} (found : s.get? ex.pid = some ex) :
    Spends pid s (s.invoke ex function id).value.2 0 := by
  let clear : Executor := { ex with stack := [] }
  have cleared : Spends pid s (s.store clear) 0 := restore clear found rfl
  rcases invoke_state s ex function id with ⟨value, eq⟩ | ⟨value, eq⟩ | ⟨settlement, eq⟩
  · rw [eq]
    exact completeExternal ex.pid value
  · rw [eq]
    exact cleared.trans (completeExternal ex.pid value)
  · rw [eq]
    let waiting : Executor := clear.mapThread fun t => t.setOutstanding (some id)
    have live : (s.store clear).get? clear.pid = some clear := get?_store_self found
    have stored : Spends pid (s.store clear) ((s.store clear).store waiting) 0 :=
      restore waiting live rfl
    have pending : Spends pid ((s.store clear).store waiting)
        ((s.store clear).defer clear id settlement) 0 := of_get? rfl rfl
    exact (cleared.trans stored).trans pending

/-- A script that goes to the engine spends nothing. -/
theorem runExternal (called : Pid) : Spends pid s (s.runExternal called).value.2 0 := by
  let counted : Scheduler :=
    { s.parkExternal called with issued := (s.parkExternal called).issued + 1 }
  have parked : Spends pid s (s.parkExternal called) 0 :=
    of_rethreads rethreads_parkExternal aside_parkExternal
  have numbered : Spends pid s counted 0 :=
    parked.trans (of_get? rfl rfl : Spends pid (s.parkExternal called) counted 0)
  unfold Scheduler.runExternal
  dsimp only
  split
  · exact numbered
  · next ex found =>
    obtain rfl : ex.pid = called := pid_of_get? found
    split
    · exact numbered
    · exact numbered.trans (invoke found : Spends pid counted _ 0)

/-- A script that is placed or leaves after its slice spends no more. -/
theorem settle {ran : Executor} (found : s.get? ran.pid = some ran) (outcome : SliceOutcome) :
    Spends pid s (s.settle ran outcome).value.2 0 := by
  have after := settle_state s ran outcome
  cases outcome with
  | preempted => exact after ▸ of_get? rfl rfl
  | blocked => exact after ▸ of_rethreads rethreads_hold aside_hold
  | halted => exact after ▸ of_rethreads rethreads_parkDebugger aside_parkDebugger
  | finished => exact after ▸ retire ran found rfl .finished
  | faulted | runaway =>
    obtain ⟨result, reason, eq⟩ := after
    rw [eq]
    exact retire { ran with result := some result } found rfl reason
  | external => exact after ▸ runExternal ran.pid

end Spends

/-! ### Operations in which nobody leaves -/

/-- Between the states `s` and `s'` no script leaves and no exit is recorded. -/
structure Stays (s s' : Scheduler) : Prop where
  live : ∀ pid, (s.get? pid).isSome = true → (s'.get? pid).isSome = true
  exits : s'.exits = s.exits

namespace Stays

variable {s s₁ s₂ : Scheduler} {pid : Pid} {ex : Executor}

/-- The scripts stay as they are. -/
theorem of_get? (scripts : ∀ pid, s₁.get? pid = s.get? pid) (exits : s₁.exits = s.exits) :
    Stays s s₁ :=
  ⟨fun pid live => scripts pid ▸ live, exits⟩

/-- Nothing happens. -/
theorem refl (s : Scheduler) : Stays s s := of_get? (fun _ => rfl) rfl

/-- Nobody leaves in one part, nor in the next one. -/
theorem trans (h₁ : Stays s s₁) (h₂ : Stays s₁ s₂) : Stays s s₂ where
  live pid live := h₂.live pid (h₁.live pid live)
  exits := h₂.exits.trans h₁.exits

/-- A single script changes. -/
theorem of_alters (alters : Alters pid s s₁) (calm : Calm s s₁) : Stays s s₁ where
  live other live := (alters.isSome_get? other).trans live
  exits := calm.exits

/-- A script is launched. -/
theorem enroll {program : Program} {options : Options} (numbers : s.Numbered)
    (prepared : s.prepare program options = .ok ex) : Stays s (s.enroll ex).value where
  live pid live := by
    have new : s.get? ex.pid = none := pid_of_prepare prepared ▸ numbers.get?_nextPid
    by_cases own : pid = ex.pid
    · rw [own, new] at live
      exact absurd live (by decide)
    · rwa [get?_enroll_of_ne own]
  exits := rfl

/-- A script is changed. -/
theorem modify {f : Executor → Executor} (keeps : ∀ ex, ex.pid = pid → (f ex).pid = pid) :
    Stays s (s.modify pid f) :=
  ⟨fun other live => (isSome_get?_modify keeps other).trans live, rfl⟩

/-- A script waits for its child. -/
theorem awaitChild {parent child : Pid} : Stays s (s.awaitChild parent child) := by
  have linked : Stays s (s.modify child fun ex => { ex with parent := some parent }) :=
    modify fun _ same => same
  have asleep : Stays (s.modify child fun ex => { ex with parent := some parent })
      ((s.modify child fun ex => { ex with parent := some parent }).modify parent fun ex =>
        ({ ex with child := some child }.push .sentinel).suspend Clock.never) :=
    modify fun _ same => (Executor.carries_suspend _ _).pid.trans same
  exact (linked.trans asleep).trans (of_alters .hold .hold)

/-- A request is answered or aborted. -/
theorem resolve {request : Request} {value : Option Val} :
    Stays s (s.resolve request value).value :=
  of_alters (.resolve value) .resolve

/-- A request is aborted, if it is pending. -/
theorem abortRequest {id : RequestId} : Stays s (s.abortRequest id).value.2 := by
  unfold Scheduler.abortRequest
  split
  · exact refl s
  · exact resolve

/-- Requests are aborted one after the other. -/
theorem abortEach (ids : List RequestId) :
    ∀ s : Scheduler, Stays s (Scheduler.abortEach ids s).value.2 := by
  induction ids with
  | nil => exact refl
  | cons id rest ih => exact fun s => abortRequest.trans (ih _)

/-- A request is answered, if it is pending. -/
theorem respond {id : RequestId} {response : Val} : Stays s (s.respond id response).value.2 := by
  unfold Scheduler.respond
  split
  · exact refl s
  · exact resolve

/-- An entity answers, if it is asked. -/
theorem respondToEntity {entity : EntityId} {kind : RequestKind} {hint : Option RequestId}
    {response : Val} : Stays s (s.respondToEntity entity kind hint response).value.2 := by
  unfold Scheduler.respondToEntity
  split
  · exact refl s
  · exact respond

/-- The requests of a script are aborted. -/
theorem abortAll : Stays s (s.abortAll pid).value.2 := by
  unfold Scheduler.abortAll
  split
  · exact refl s
  · exact abortEach _ s

/-- The requests to an entity are aborted. -/
theorem entityDisconnected {entity : EntityId} :
    Stays s (s.entityDisconnected entity).value.2 := by
  unfold Scheduler.entityDisconnected
  split
  · exact refl s
  · exact abortEach _ s

end Stays

section Moves

variable {s : Scheduler} {pid : Pid}

/-- Without a turn, and unless it is woken by the clock, a script that is not launched spends nothing
as long as nobody leaves. -/
theorem Spends.of_moves {may : Act → Prop} {s' : Scheduler} {entries : List Entry}
    (stays : Stays s s') (moves : MovesBy may ⟨s, [], []⟩ entries ⟨s', [], []⟩)
    (sound : Moment.Sound ⟨s, [], []⟩)
    (unlaunched : s.nextPid.number ≤ pid.number → s'.nextPid.number ≤ pid.number)
    (turnless : ¬ may (.turn pid)) (untimed : ¬ may .expire) : Spends pid s s' 0 := by
  have records : s'.recordsOf pid = s.recordsOf pid := by
    unfold recordsOf
    rw [stays.exits]
  cases live : s'.get? pid with
  | none =>
    refine .absent ?_ live records
    cases found : s.get? pid with
    | none => rfl
    | some ex =>
      have stayed := stays.live pid (Option.isSome_of_eq_some found)
      rw [live] at stayed
      exact absurd stayed (by decide)
  | some ex' =>
    have old : pid.number < s.nextPid.number := by
      have numbers : s'.Numbered := (moves.sound sound).numbers
      exact Nat.lt_of_not_le fun new => Nat.not_lt_of_le (unlaunched new) (numbers.lt_nextPid live)
    obtain ⟨ex, found, same⟩ : ∃ ex, s.get? pid = some ex ∧ ex'.spent = ex.spent := by
      refine moves.scripts (P := fun ex' => ∃ ex, s.get? pid = some ex ∧ ex'.spent = ex.spent) sound
        ?_ ?_ (fun ex found => ⟨ex, found, rfl⟩) ex' live
      · exact fun new => absurd old (Nat.not_lt_of_le new)
      · rintro gone a b rfl change ⟨ex, found, same⟩
        exact ⟨ex, found, (change.spent turnless untimed).trans same⟩
    exact .lives found live records (same.trans (add_zero _).symm)

end Moves

/-! ### Instructions -/

namespace Executor

variable {ex ran : Executor} {now : Nat} {limit : Option Nat}

/-- The look-around after an instruction does not run another one. -/
theorem Cycled.instrCycles {step : Step} {out : CycleOutcome} (h : Cycled now step ex ran out) :
    ran.instrCycles = ex.instrCycles := by
  have same := (ex.tallies_applyStep now step).1.instrCycles
  cases h with
  | ends applied => rwa [applied] at same
  | blocks applied => rwa [applied] at same
  | goesOn applied _ counted =>
    rw [applied] at same
    rcases counted with rfl | rfl <;> exact same
  | runaway applied => rwa [applied] at same

/-- On a path a script runs one instruction after the other and is not woken. -/
theorem Path.spent {course : List (Executor × Executor)} (path : Path now limit ex course ran) :
    ran.spent = ex.spent + (course.length, 0) := by
  induction path with
  | done => rfl
  | @step ex mid ran machine out rest bytecode cycle _ ih =>
    have instrs : mid.instrCycles = ex.instrCycles + 1 := by
      have step := cycled ex machine now limit
      rw [cycle] at step
      exact step.instrCycles
    have sleeps := (carries_cycle bytecode cycle).sleepCycles
    rw [ih]
    refine Prod.ext ?_ sleeps
    change mid.instrCycles + rest.length = ex.instrCycles + (rest.length + 1)
    omega

end Executor

/-- The course of a turn is a path from the script before its slice to the script after it. -/
theorem Operation.path_of_mem_turns {op : Operation} {s : Scheduler} {patience : Nat}
    {turn : ScriptTurn} (mem : turn ∈ op.turns s patience) : ∃ now,
      Executor.Path now turn.before.config.maxRunawayCycles turn.script (op.course patience turn)
        turn.ran := by
  cases op with
  | runReady now =>
    obtain ⟨entries, sliced⟩ := runSlice_of_mem_turnsOf mem
    exact ⟨now, Executor.path_of_runCycles sliced⟩
  | runToCompletion now program =>
    unfold Operation.turns at mem
    dsimp only at mem
    split at mem
    · exact absurd mem List.not_mem_nil
    · split at mem
      · exact absurd mem List.not_mem_nil
      · next slice sliced =>
        obtain rfl := List.mem_singleton.mp mem
        exact ⟨now, Executor.path_of_runCycles sliced⟩
  | _ => exact absurd mem List.not_mem_nil

section Turns

variable {s s' : Scheduler} {pid : Pid} {turn : ScriptTurn} {turns : List ScriptTurn}

/-- In a turn the script that has it spends the instructions that it runs, and no other script
spends anything. -/
theorem ScriptTurn.Valid.spends {count : Nat} (valid : turn.Valid)
    (more : turn.ran.spent = turn.script.spent + (count, 0)) :
    Spends pid turn.before turn.after (if turn.pid = pid then count else 0, 0) := by
  have number : turn.ran.pid = turn.pid := valid.carries.pid
  have found : turn.before.get? turn.ran.pid = some turn.script := number ▸ valid.found
  have ran : Spends pid turn.before (turn.before.store turn.ran) _ := .store turn.ran found more
  have settled : Spends pid (turn.before.store turn.ran) turn.after 0 :=
    .settle valid.stored.1 turn.outcome
  have total := ran.trans settled
  rw [number, add_zero] at total
  split
  · next own => rwa [if_pos own] at total
  · next other => rwa [if_neg other] at total

/-- How many instructions a script runs in turns. -/
def instructions (pid : Pid) (length : ScriptTurn → Nat) (turns : List ScriptTurn) : Nat :=
  (turns.map fun turn => if turn.pid = pid then length turn else 0).sum

/-- In turns one after the other a script spends the instructions that it runs in its own. -/
theorem TakeTurns.spends (taken : TakeTurns turns s s') (length : ScriptTurn → Nat)
    (more : ∀ turn ∈ turns, turn.ran.spent = turn.script.spent + (length turn, 0)) :
    Spends pid s s' (instructions pid length turns, 0) := by
  induction taken with
  | nothing s => exact .refl s pid
  | turn valid _ ih =>
    obtain ⟨first, others⟩ := List.forall_mem_cons.mp more
    exact (valid.spends first).trans (ih others)

end Turns

/-! ### Wakings -/

/-- The scripts that are woken by the clock, the first one first, in at most `count` rounds. -/
def Scheduler.woken (now : Nat) : Nat → Scheduler → List Pid
  | 0, _ => []
  | count + 1, s =>
    match s.timeouts with
    | [] => []
    | (key, pid) :: rest =>
      if now < key.wake then []
      else pid :: woken now count ({ s with timeouts := rest }.wake pid).value

/-- Every script spends as many wakings as it is woken. -/
theorem Spends.wakeDue {pid : Pid} (now count : Nat) : ∀ {s : Scheduler},
    Moment.Sound ⟨s, [], []⟩ →
      Spends pid s (Scheduler.wakeDue now count s).value (0, (s.woken now count).count pid) := by
  -- each round wakes the first sleeper, which costs that script one waking and the others nothing
  induction count with
  | zero => exact fun _ => .refl _ pid
  | succ count ih =>
    intro s sound
    unfold Scheduler.wakeDue Scheduler.woken
    cases first : s.timeouts with
    | nil => exact .refl s pid
    | cons entry rest =>
      obtain ⟨key, sleeper⟩ := entry
      by_cases early : now < key.wake
      · simp only [if_pos early]
        exact .refl s pid
      · simp only [if_neg early, Logged.bind_value]
        have due : key.wake ≤ now := Nat.le_of_not_lt early
        obtain ⟨ex, found, -⟩ := sound.placed.sleeper_of_first first
        have taken : Indexed { s with timeouts := rest } := sound.indexed.congr rfl fun _ => rfl
        obtain ⟨self, others⟩ := Evolves.wake_get? taken found
        have later := ih (timeouts_wake sound first due found).1
        have calm : Calm { s with timeouts := rest }
            ({ s with timeouts := rest }.wake sleeper).value := .wake
        have records : ({ s with timeouts := rest }.wake sleeper).value.recordsOf pid =
            s.recordsOf pid := by
          unfold recordsOf
          rw [calm.exits]
        by_cases own : sleeper = pid
        · subst own
          have round : Spends sleeper s _ (0, 1) := .lives found self records rfl
          rw [List.count_cons_self, Nat.add_comm]
          exact round.trans later
        · have round : Spends pid s _ 0 := .of_get? (others pid (Ne.symm own)) records
          rw [List.count_cons_of_ne own]
          have total := round.trans later
          rwa [zero_add] at total

end ScriptScheduler
