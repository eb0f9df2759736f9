import ScriptScheduler.Proofs.Outings
import ScriptScheduler.Proofs.Roused

/-!
# Straight runs

A bytecode program that is run straight to its end is not held up on its way: no instruction blocks
or halts its script, so whatever ends the run also ends the script (`Executor.Plays.decides`). If
runaway cycles are limited the run comes to an end within the allowance of the script, whatever the
program does (`Executor.Accounted.runsOut`). The script is never queued, asks for nothing and
belongs to nobody, so its removal leaves the scheduler as it was before, but for the number and the
record of the script (`Reachable.runsApart`).
-/

namespace ScriptScheduler

open Scheduler

namespace Executor

variable {ex mid ran : Executor} {machine : Machine} {step now : Nat} {limit : Option Nat}
  {solo : Solo} {outcome : SliceOutcome} {patience left : Nat} {told : Array Entry}
  {entries : List Entry}

/-! ### The end of a straight run -/

/-- A slice with room for more than one instruction is not used up with the next one. -/
theorem not_usedUp (critical : Bool) (room : 1 < left) : ¬ (!critical && left ≤ 1) = true := by
  have more : ¬ left ≤ 1 := Nat.not_le_of_lt room
  simp [more]

/-- A script that is run straight to its end and is not preempted ends with its slice. -/
theorem Plays.decides (h : ex.Plays step limit solo) (awake : ex.isBlocked = false)
    (straight : solo.straight = true) (long : patience < left)
    (runs : runCycles now limit patience left told ex = some ⟨(ran, outcome), entries⟩) :
    ∃ ending, ran.verdict? outcome = some ending := by
  induction patience generalizing ex solo left told with
  | zero => exact absurd runs (by simp [runCycles])
  | succ patience ih =>
    cases round_of_runCycles runs with
    | idle => exact ⟨_, rfl⟩
    | external engine => exact absurd (h.isEngine.symm.trans engine) (by decide)
    | ends runtime runnable cycle =>
      have fares := h.cycle awake runtime runnable cycle
      generalize ended : solo.ending? step limit = ending? at fares
      cases fares with
      | heldUp suspendable =>
        have goes : Solo.Goes step limit solo (solo.next step) := ⟨ended, rfl⟩
        have along : (solo.next step).straight = true := goes.straight.trans straight
        exact absurd (along.symm.trans suspendable) (by decide)
      | ends verdict => exact ⟨_, verdict⟩
    | usedUp _ _ _ last => exact absurd last (not_usedUp _ (by omega))
    | goesOn runtime runnable cycle _ rest =>
      obtain ⟨goes, free, plays⟩ := h.goes awake runtime runnable cycle
      exact ih plays free (goes.straight.trans straight) (by omega) rest

/-! ### Patience -/

/-- A run that is not cut short by its length is the same for whoever waits longer. -/
theorem runCycles_patient {more longer : Nat} {done : Logged (Executor × SliceOutcome)}
    (runs : runCycles now limit patience left told ex = some done) (long : patience < left)
    (enough : patience ≤ more) (room : more < longer) :
    runCycles now limit more longer told ex = some done := by
  induction patience generalizing ex left told more longer with
  | zero => exact absurd runs (by simp [runCycles])
  | succ patience ih =>
    obtain ⟨more, rfl⟩ : ∃ rest, more = rest + 1 := ⟨more - 1, by omega⟩
    unfold runCycles at runs ⊢
    cases runtime : ex.runtime with
    | unbound | engine => rwa [runtime] at runs
    | bytecode machine =>
      rw [runtime] at runs
      dsimp only at runs ⊢
      split
      · next runnable =>
        rw [if_pos runnable] at runs
        cases cycle : (ex.cycle machine now limit).value with
        | mk mid out =>
          rw [cycle] at runs
          cases out with
          | ends outcome => exact runs
          | goesOn =>
            dsimp only at runs ⊢
            rw [if_neg (not_usedUp _ (by omega))] at runs ⊢
            exact ih runs (by omega) (by omega) (by omega)
      · next done =>
        rwa [if_neg done] at runs

/-! ### The allowance -/

/-- An instruction after which a script goes on has been counted. -/
theorem instrCycles_goesOn (cycle : (ex.cycle machine now limit).value = (mid, .goesOn)) :
    mid.instrCycles = ex.instrCycles + 1 := by
  have more := ex.advances_exec machine now
  have step := cycled ex machine now limit
  rw [cycle] at step
  cases step with
  | goesOn applied _ counted =>
    rw [applied] at more
    rcases counted with rfl | rfl
    · exact more.instrCycles
    · exact more.instrCycles

/-- A script with a limit that is not critical does not run beyond its allowance. -/
theorem Accounted.runsOut {limit slept rested : Nat} (h : ex.Accounted limit slept rested)
    (uncritical : ex.thread.critical = false)
    (enough : rested + allowance ex.runawayStep limit ≤ ex.instrCycles + patience) :
    ∃ done, runCycles now (some limit) patience left told ex = some done := by
  induction patience generalizing ex left told with
  | zero => exact absurd h.lt_allowance (Nat.not_lt_of_le enough)
  | succ patience ih =>
    unfold runCycles
    cases ex.runtime with
    | unbound => exact ⟨_, rfl⟩
    | engine function finished => exact ⟨_, rfl⟩
    | bytecode machine =>
      dsimp only
      split
      · split
        · exact ⟨_, rfl⟩
        · next mid goesOn =>
          have after : mid.Accounted limit slept rested := h.cycle uncritical goesOn
          have counted := instrCycles_goesOn goesOn
          obtain ⟨-, steps, critical⟩ := continues_cycle goesOn
          split
          · exact ⟨_, rfl⟩
          · refine ih after (critical.trans uncritical) ?_
            rw [steps]
            omega
      · exact ⟨_, rfl⟩

end Executor

namespace Scheduler

variable {s : Scheduler} {pid : Pid} {ex ran : Executor} {f : Executor → Executor}

/-! ### A script that leaves no trace -/

/-- A script that is in no hold list leaves the ready queue only. -/
theorem detach_of_free (found : s.get? pid = some ex) (free : ex.thread.holdList = .none) :
    s.detach pid = { s.modify pid fun ex => ex.mapThread Thread.detached with
      ready := s.ready.filter fun other => other ≠ pid } := by
  unfold detach leaveHoldList
  rw [found]
  dsimp only
  rw [free]
  rfl

/-- A new script that is forgotten has used up its number. -/
theorem Numbered.erase_enroll (numbers : s.Numbered) (new : ex.pid = s.nextPid) :
    (s.enroll ex).value.erase ex.pid = { s with nextPid := ⟨s.nextPid.number + 1⟩ } := by
  have others : s.executors.filter (fun other => other.pid ≠ ex.pid) = s.executors := by
    refine List.filter_eq_self.mpr ?_
    intro other live
    have less := numbers.below other live
    rw [← new] at less
    exact decide_eq_true fun same => Nat.lt_irrefl _ (same ▸ less)
  have same : (s.executors ++ [ex]).filter (fun other => other.pid ≠ ex.pid) = s.executors := by
    rw [List.filter_append, others]
    simp
  exact congrArg
    (fun executors => { s with executors := executors, nextPid := ⟨s.nextPid.number + 1⟩ }) same

/-- A new script that has run and is removed has used up its number and leaves no other trace, if it
has no requests and belongs to nobody. -/
theorem remove_new {gone : Executor} (numbers : s.Numbered) (unready : s.nextPid ∉ s.ready)
    (uncalled : ∀ call ∈ s.calls, call.pid ≠ s.nextPid) (new : ex.pid = s.nextPid)
    (free : ran.thread.holdList = .none) (number : ran.pid = ex.pid) (own : gone.pid = ran.pid)
    (unasked : gone.requests = .empty) (fatherless : gone.parent = none)
    (childless : gone.child = none) :
    (((s.enroll ex).value.store ran).remove gone).value.2 =
      { s with nextPid := ⟨s.nextPid.number + 1⟩ } := by
  let stored : Scheduler := (s.enroll ex).value.store ran
  have new' : ran.pid = s.nextPid := number.trans new
  have found : stored.get? ran.pid = some ran :=
    get?_store_self (number ▸ get?_enroll_self (new ▸ numbers.get?_nextPid))
  have ready : s.ready.filter (fun other => other ≠ ran.pid) = s.ready :=
    filter_ne_of_not_mem (new' ▸ unready)
  have calls : s.calls.filter (fun call => call.pid ≠ ran.pid) = s.calls :=
    List.filter_eq_self.mpr fun call mem => decide_eq_true (new' ▸ uncalled call mem)
  have erased : (stored.modify ran.pid fun ex => ex.mapThread Thread.detached).erase ran.pid =
      { s with nextPid := ⟨s.nextPid.number + 1⟩ } := by
    rw [erase_modify (f := fun ex => ex.mapThread Thread.detached) fun _ same => same]
    change ((s.enroll ex).value.modify ran.pid fun _ => ran).erase ran.pid = _
    rw [erase_modify (f := fun _ => ran) fun _ _ => rfl, number]
    exact numbers.erase_enroll new
  have left : (stored.detach ran.pid).erase ran.pid =
      { s with nextPid := ⟨s.nextPid.number + 1⟩ } := by
    rw [detach_of_free found free]
    change { (stored.modify ran.pid fun ex => ex.mapThread Thread.detached).erase ran.pid with
      ready := s.ready.filter fun other => other ≠ ran.pid } = _
    rw [erased, ready]
  rw [remove_state, own, left, unasked, childless]
  unfold notifyParent
  rw [fatherless]
  exact congrArg
    (fun calls => { s with calls := calls, nextPid := ⟨s.nextPid.number + 1⟩ }) calls

/-- If a script without requests is retired, nobody but the log is told. -/
theorem told_retire (s : Scheduler) (unasked : ex.requests = .empty) (reason : ExitReason) :
    Told (s.retire ex reason).entries := by
  have removed : (s.remove ex).entries = [] := by
    rw [remove_entries, unasked]
    rfl
  unfold retire
  simp only [Logged.bind_entries]
  rw [removed]
  split
  · exact .tellAll [_]
  · exact .nil

/-- A script that its slice has ended is retired, with its own result or with one that tells of its
failure. -/
theorem settle_retires (s : Scheduler) {outcome : SliceOutcome} {ending : Ending}
    (verdict : ran.verdict? outcome = some ending) :
    ∃ result reason, (s.settle ran outcome).value =
      (some (exitOf { ran with result := result } reason),
        (s.retire { ran with result := result } reason).value.2) := by
  have retired : ∀ last reason, (some (s.retire last reason).value.1,
      (s.retire last reason).value.2) =
        (some (exitOf last reason), (s.retire last reason).value.2) := by
    intro last reason
    rw [retire_exit]
  cases outcome with
  | finished => exact ⟨ran.result, .finished, retired ran _⟩
  | faulted | runaway => exact ⟨_, _, retired _ _⟩
  | preempted | blocked | halted | external => exact absurd verdict (by simp [Executor.verdict?])

/-- If its slice has ended a script without requests, nobody but the log is told. -/
theorem told_settle (s : Scheduler) {outcome : SliceOutcome} {ending : Ending}
    (verdict : ran.verdict? outcome = some ending) (unasked : ran.requests = .empty) :
    Told (s.settle ran outcome).entries := by
  have retired : ∀ result reason, Told (s.retire { ran with result := result } reason).entries := by
    intro result reason
    have unasked : { ran with result := result }.requests = .empty := unasked
    exact told_retire s unasked reason
  cases outcome with
  | finished => exact (retired _ _).append .nil
  | faulted | runaway => exact (Told.tellAll [_]).append ((retired _ _).append .nil)
  | preempted | blocked | halted | external => exact absurd verdict (by simp [Executor.verdict?])

/-! ### Programs that are run straight to their end -/

/-- The state after a program has been run to its end: its script has used up a number and has left
a record. -/
def completed (s : Scheduler) (exit : ScriptExit) : Scheduler :=
  { s with nextPid := ⟨s.nextPid.number + 1⟩, exits := s.exits ++ [exit] }

/-- A program has been run to its end and has left the scheduler alone: it returns the result that
is in its record, nothing else in the state is different, and nobody but the log has been told. -/
structure LeavesAlone (s : Scheduler) (program : Program) (exit : ScriptExit)
    (ran : Logged (Val × Scheduler)) : Prop where
  returns : ran.value.1 = exit.result
  state : ran.value.2 = s.completed exit
  pid : exit.pid = s.nextPid
  scriptname : exit.scriptname = program.scriptname
  sleepless : exit.sleepCycles = 0
  told : Told ran.entries

/-- A program whose script has run to its end and has been retired. -/
theorem runToCompletion_of_runs {patience now : Nat} {program : Program} {outcome : SliceOutcome}
    {entries : List Entry} {exit : ScriptExit} {after : Scheduler}
    (prepared : s.prepare program (completionOptions s.config) = .ok ex)
    (runs : ex.runToEnd now s.config.maxRunawayCycles patience = some ⟨(ran, outcome), entries⟩)
    (settled : (((s.enroll ex).value.store ran).settle ran outcome).value = (some exit, after)) :
    s.runToCompletion patience now program = .ok (some ⟨(exit.result, after),
      (s.enroll ex).entries ++ (entries ++
        ((((s.enroll ex).value.store ran).settle ran outcome).entries ++ []))⟩) := by
  unfold runToCompletion
  rw [prepared]
  dsimp only
  rw [runs]
  refine congrArg (fun returned => Except.ok (some (Logged.mk returned _))) ?_
  simp only [Logged.bind_value, Logged.pure_value]
  rw [settled]

/-- The script of a program that returns has run to its end. -/
theorem runs_of_runToCompletion {patience now : Nat} {program : Program}
    {done : Logged (Val × Scheduler)}
    (prepared : s.prepare program (completionOptions s.config) = .ok ex)
    (returned : s.runToCompletion patience now program = .ok (some done)) :
    ∃ ran outcome entries,
      ex.runToEnd now s.config.maxRunawayCycles patience = some ⟨(ran, outcome), entries⟩ := by
  unfold runToCompletion at returned
  rw [prepared] at returned
  obtain ⟨slice, runs, -⟩ := Option.map_eq_some_iff.mp (Except.ok.inj returned)
  exact ⟨_, _, _, runs⟩

/-- A program that returns, returns the same to whoever waits longer. -/
theorem runToCompletion_patient {patience more now : Nat} {program : Program}
    {ran : Logged (Val × Scheduler)}
    (runs : s.runToCompletion patience now program = .ok (some ran)) (enough : patience ≤ more) :
    s.runToCompletion more now program = .ok (some ran) := by
  unfold runToCompletion at runs ⊢
  split at runs
  · exact absurd runs (by simp)
  · next ex prepared =>
    obtain ⟨slice, sliced, rfl⟩ := Option.map_eq_some_iff.mp (Except.ok.inj runs)
    have longer : ex.runToEnd now s.config.maxRunawayCycles more = some slice :=
      Executor.runCycles_patient sliced (Nat.lt_succ_self _) enough (Nat.lt_succ_self _)
    dsimp only
    rw [longer]
    rfl

end Scheduler

section StraightRuns

variable {config : SchedulerConfig} {engine : Option Engine} {s : Scheduler} {program : Program}
  {ex ran : Executor} {outcome : SliceOutcome} {entries : List Entry} {patience now : Nat}

/-- The run of a new script of a bytecode program ends the script. -/
theorem verdict_of_runToEnd {limit : Option Nat} (type : program.type = .bytecode)
    (prepared : s.prepare program (completionOptions s.config) = .ok ex)
    (runs : ex.runToEnd now limit patience = some ⟨(ran, outcome), entries⟩) :
    ∃ ending, ran.verdict? outcome = some ending := by
  obtain ⟨-, machine, -, rfl⟩ := (prepare_bytecode type).mp prepared
  have plays : Executor.Plays _ _ limit (.begin machine (completionOptions s.config)) :=
    Executor.plays_ofMachine s.nextPid program machine (.inl rfl)
  exact plays.decides rfl rfl (Nat.lt_succ_self patience) runs

/-- A new script of a bytecode program that has run to its end leaves the scheduler alone. -/
theorem Reachable.leavesAlone (reached : Reachable config engine s)
    (type : program.type = .bytecode)
    (prepared : s.prepare program (completionOptions s.config) = .ok ex)
    (runs : ex.runToEnd now s.config.maxRunawayCycles patience = some ⟨(ran, outcome), entries⟩) :
    ∃ exit done, s.runToCompletion patience now program = .ok (some done) ∧
      s.LeavesAlone program exit done ∧ exit.instrCycles = ran.instrCycles := by
  obtain ⟨ending, verdict⟩ := verdict_of_runToEnd type prepared runs
  obtain ⟨-, machine, -, rfl⟩ := (prepare_bytecode type).mp prepared
  let ex : Executor := .ofMachine s.nextPid program (completionOptions s.config) machine
  have carries : ex.Carries ran := (Executor.slice_of_runCycles runs).carries
  let stored : Scheduler := (s.enroll ex).value.store ran
  obtain ⟨result, reason, settled⟩ := settle_retires stored verdict
  let last : Executor := { ran with result := result }
  have numbers := reached.numbered
  have unready : s.nextPid ∉ s.ready := reached.roused.not_mem_of_not_live numbers.get?_nextPid
  have uncalled : ∀ call ∈ s.calls, call.pid ≠ s.nextPid := by
    intro call mem own
    have known := reached.staffed.known call.pid
      (List.mem_append_left _ (List.mem_map_of_mem mem))
    exact absurd (own ▸ known) (Nat.lt_irrefl _)
  have removed : (stored.remove last).value.2 = { s with nextPid := ⟨s.nextPid.number + 1⟩ } :=
    remove_new numbers unready uncalled rfl carries.holdList carries.pid rfl carries.requests
      carries.parent carries.child
  have after : (stored.retire last reason).value.2 = s.completed (exitOf last reason) := by
    rw [retire_state, removed, Departs.exitOf_remove]
    rfl
  have scriptname : ran.scriptname = program.scriptname := by
    unfold Executor.scriptname
    rw [carries.program]
    rfl
  refine ⟨exitOf last reason, _, runToCompletion_of_runs prepared runs settled, ?_, rfl⟩
  exact
    { returns := rfl
      state := after
      pid := carries.pid
      scriptname := scriptname
      sleepless := carries.sleepCycles
      told := (Told.tellAll [_]).append ((Executor.told_of_runCycles .nil runs).append
        ((told_settle stored verdict carries.requests).append .nil)) }

/-- If runaway cycles are limited, a new script has run to its end when it has used up its
allowance, and it has run no more than that. -/
theorem runToEnd_within (type : program.type = .bytecode)
    (prepared : s.prepare program (completionOptions s.config) = .ok ex) (now limit : Nat)
    (enough : Executor.allowance (max 1 s.config.runawayScriptThreshold) limit ≤ patience) :
    ∃ ran outcome entries,
      ex.runToEnd now (some limit) patience = some ⟨(ran, outcome), entries⟩ ∧
        ran.instrCycles ≤ Executor.allowance (max 1 s.config.runawayScriptThreshold) limit := by
  obtain ⟨-, machine, -, rfl⟩ := (prepare_bytecode type).mp prepared
  let options : Options := completionOptions s.config
  let ex : Executor := .ofMachine s.nextPid program options machine
  have accounted : ex.Accounted limit 0 0 :=
    Executor.Launched.accounted ⟨s, program, options, ex, none, prepared, rfl⟩ limit
  have room : 0 + Executor.allowance ex.runawayStep limit ≤ ex.instrCycles + patience := by
    change 0 + Executor.allowance (max 1 s.config.runawayScriptThreshold) limit ≤ 0 + patience
    omega
  obtain ⟨⟨⟨ran, outcome⟩, entries⟩, runs⟩ := accounted.runsOut rfl room
  refine ⟨ran, outcome, entries, runs, ?_⟩
  obtain ⟨ending, verdict⟩ := verdict_of_runToEnd type prepared runs
  have slice := Executor.slice_of_runCycles runs
  have settles := slice.settles rfl rfl accounted
  have step : ran.runawayStep = max 1 s.config.runawayScriptThreshold := slice.continues.runawayStep
  rw [← step]
  cases outcome with
  | finished | faulted => exact settles.trans_eq (Nat.zero_add _)
  | runaway => exact settles.2.trans_eq (Nat.zero_add _)
  | preempted | blocked | halted | external => exact absurd verdict (by simp [Executor.verdict?])

/-- In a reachable state a bytecode program that is not refused leaves the scheduler alone whenever
it is run to its end and returns. If runaway cycles are limited it does return, whatever it does,
and has run no more instructions than it is allowed; whoever waits longer gets the same. -/
theorem Reachable.runsApart (reached : Reachable config engine s)
    (type : program.type = .bytecode)
    (accepted : ∀ refusal, s.runToCompletion patience now program ≠ .error refusal) :
    (∀ patience ran, s.runToCompletion patience now program = .ok (some ran) →
      ∃ exit, s.LeavesAlone program exit ran) ∧
    ∀ limit, s.config.maxRunawayCycles = some limit →
      ∃ exit ran, s.LeavesAlone program exit ran ∧
        exit.instrCycles ≤ Executor.allowance (max 1 s.config.runawayScriptThreshold) limit ∧
        ∀ patience, Executor.allowance (max 1 s.config.runawayScriptThreshold) limit ≤ patience →
          s.runToCompletion patience now program = .ok (some ran) := by
  obtain ⟨ex, prepared⟩ : ∃ ex, s.prepare program (completionOptions s.config) = .ok ex := by
    unfold runToCompletion at accepted
    split at accepted
    · exact absurd rfl (accepted _)
    · next ex prepared => exact ⟨ex, prepared⟩
  constructor
  · intro patience ran returned
    obtain ⟨last, outcome, entries, runs⟩ := runs_of_runToCompletion prepared returned
    obtain ⟨exit, done, again, alone, -⟩ := reached.leavesAlone type prepared runs
    obtain rfl : done = ran := Option.some.inj (Except.ok.inj (again.symm.trans returned))
    exact ⟨exit, alone⟩
  · intro limit limited
    obtain ⟨last, outcome, entries, runs, within⟩ :=
      runToEnd_within type prepared now limit (Nat.le_refl _)
    obtain ⟨exit, ran, returned, alone, counted⟩ :=
      reached.leavesAlone type prepared (limited ▸ runs)
    exact ⟨exit, ran, alone, counted ▸ within, fun _ => runToCompletion_patient returned⟩

end StraightRuns

/-- A sleeper, a script that waits for an event and a ready script. -/
def bystandersRun : List Operation :=
  [.start (.bytecode "sleeper" [.sleep 5, .ret]), .start (.bytecode "waiter" [.waitForEvent none]),
    .runReady 0, .start (.bytecode "ready" [.ret])]

/-- A program that would sleep, wait and halt without an end. -/
def restless : Program :=
  .bytecode "restless" [.sleep 10, .waitForEvent none, .breakpoint, .jump 0]

/-- A program without an end that is run beside other scripts returns after no more instructions
than the limit says, since a threshold of zero counts as one. -/
theorem runsApart_restless : ∃ s, Scheduler.performAll 9 bystandersRun
      (.empty { runawayScriptThreshold := 0, maxRunawayCycles := some 5 } none) = some s ∧
    s.ready = [⟨3⟩] ∧ s.timeouts.length = 1 ∧ s.untimed = [⟨2⟩] ∧
    (∀ refusal, s.runToCompletion 9 0 restless ≠ .error refusal) ∧
    ∃ exit ran, s.LeavesAlone restless exit ran ∧ exit.instrCycles ≤ 5 ∧
      s.runToCompletion 5 0 restless = .ok (some ran) := by
  have performed : Scheduler.performAll 9 bystandersRun
      (.empty { runawayScriptThreshold := 0, maxRunawayCycles := some 5 } none) = some _ := rfl
  have reached := Reachable.empty.performAll performed
  refine ⟨_, performed, rfl, rfl, rfl, nofun, ?_⟩
  have apart := reached.runsApart (show restless.type = .bytecode from rfl)
    (show ∀ refusal, runToCompletion _ 9 0 restless ≠ .error refusal from nofun)
  obtain ⟨exit, ran, alone, within, returns⟩ := apart.2 5 rfl
  exact ⟨exit, ran, alone, within, returns 5 (by decide)⟩

end ScriptScheduler
