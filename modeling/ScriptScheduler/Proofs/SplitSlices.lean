import ScriptScheduler.Proofs.ServerLoop
import ScriptScheduler.Proofs.StraightRuns

/-!
# Slices in parts

The length of a slice only says when a script that is not critical is interrupted: a slice in two
parts, the second of which follows if the script was preempted in the first, leads to the same
script, the same outcome and the same record as the whole slice (`runCycles_add`). Within its slice
such a script runs at least one instruction if it has any left, and it is preempted only with the
last instruction of the slice (`Keeps`). A critical script is neither preempted nor terminated as a
runaway.
-/

namespace ScriptScheduler

namespace Executor

variable {ex mid ran : Executor} {machine : Machine} {now patience left : Nat}
  {limit : Option Nat} {outcome : SliceOutcome} {told : Array Entry} {entries : List Entry}

/-! ### Rounds -/

/-- A script that has nothing left to run is finished. -/
theorem runCycles_done (done : ex.runnable = false) (bytecode : ex.isEngine = false) :
    runCycles now limit (patience + 1) left told ex = some ⟨(ex, .finished), told.toList⟩ := by
  unfold runCycles
  unfold runnable at done
  unfold isEngine at bytecode
  cases runtime : ex.runtime with
  | unbound => rfl
  | engine => simp [runtime] at bytecode
  | bytecode machine =>
    rw [runtime] at done
    dsimp only at done ⊢
    rw [done]
    rfl

/-- A script stays as it is, or it has an instruction to run. -/
theorem stays_or_runs (ex : Executor) (now : Nat) (limit : Option Nat) :
    (∃ outcome, outcome ≠ .preempted ∧ ∀ patience left told,
      runCycles now limit (patience + 1) left told ex = some ⟨(ex, outcome), told.toList⟩) ∨
    ∃ machine, ex.runtime = .bytecode machine ∧ machine.runnable = true := by
  cases runtime : ex.runtime with
  | unbound =>
    refine .inl ⟨.finished, by simp, fun patience left told => ?_⟩
    exact runCycles_done (by simp [runnable, runtime]) (by simp [isEngine, runtime])
  | engine =>
    refine .inl ⟨.external, by simp, fun patience left told => ?_⟩
    unfold runCycles
    rw [runtime]
  | bytecode machine =>
    cases runnable : machine.runnable with
    | true => exact .inr ⟨machine, rfl, runnable⟩
    | false =>
      refine .inl ⟨.finished, by simp, fun patience left told => ?_⟩
      exact runCycles_done (by simp [Executor.runnable, runtime, runnable])
        (by simp [isEngine, runtime])

/-- An instruction that ends its slice. -/
theorem runCycles_of_ends (runtime : ex.runtime = .bytecode machine)
    (runnable : machine.runnable = true)
    (cycle : (ex.cycle machine now limit).value = (ran, .ends outcome)) :
    runCycles now limit (patience + 1) left told ex =
      some ⟨(ran, outcome), (told ++ (ex.cycle machine now limit).entries).toList⟩ := by
  unfold runCycles
  rw [runtime]
  dsimp only
  rw [if_pos runnable, cycle]

/-- An instruction after which its script goes on, if the slice is not used up. -/
theorem runCycles_of_goesOn (runtime : ex.runtime = .bytecode machine)
    (runnable : machine.runnable = true)
    (cycle : (ex.cycle machine now limit).value = (mid, .goesOn)) :
    runCycles now limit (patience + 1) left told ex =
      if !mid.thread.critical && left ≤ 1 then
        some ⟨(mid, if mid.runnable then .preempted else .finished),
          (told ++ (ex.cycle machine now limit).entries).toList⟩
      else runCycles now limit patience (left - 1) (told ++ (ex.cycle machine now limit).entries)
        mid := by
  conv => lhs; unfold runCycles
  rw [runtime]
  dsimp only
  rw [if_pos runnable, cycle]

/-- What was recorded before a slice is followed by what the slice records. -/
theorem runCycles_told :
    runCycles now limit patience left told ex =
      (runCycles now limit patience left #[] ex).map fun ran =>
        ⟨ran.value, told.toList ++ ran.entries⟩ := by
  induction patience generalizing ex left told with
  | zero => rfl
  | succ patience ih =>
    rcases ex.stays_or_runs now limit with ⟨outcome, -, stays⟩ | ⟨machine, runtime, runnable⟩
    · simp [stays]
    · cases cycle : (ex.cycle machine now limit).value with
      | mk mid out =>
        cases out with
        | ends outcome =>
          rw [runCycles_of_ends runtime runnable cycle, runCycles_of_ends runtime runnable cycle]
          simp
        | goesOn =>
          rw [runCycles_of_goesOn runtime runnable cycle,
            runCycles_of_goesOn runtime runnable cycle]
          split
          · simp
          · rw [ih, @ih mid (left - 1) (#[] ++ _), Option.map_map]
            simp [Function.comp_def]

/-! ### Slices in two parts -/

/-- A slice that is followed by another one if the script was preempted. -/
def followedBy (next : Executor → Option (Logged (Executor × SliceOutcome)))
    (first : Logged (Executor × SliceOutcome)) : Option (Logged (Executor × SliceOutcome)) :=
  match first.value with
  | (mid, .preempted) => (next mid).map fun rest => ⟨rest.value, first.entries ++ rest.entries⟩
  | _ => some first

/-- A slice in two parts: the second part follows if the script was preempted in the first one. -/
def runParts (ex : Executor) (now first second : Nat) (limit : Option Nat) (patience : Nat) :
    Option (Logged (Executor × SliceOutcome)) :=
  (ex.runSlice now first limit patience).bind
    (followedBy fun mid => mid.runSlice now second limit patience)

/-- A slice that ends otherwise is not followed by another one. -/
theorem followedBy_of_ne {next : Executor → Option (Logged (Executor × SliceOutcome))}
    (ne : outcome ≠ .preempted) :
    followedBy next ⟨(ran, outcome), entries⟩ = some ⟨(ran, outcome), entries⟩ := by
  cases outcome <;> first | rfl | exact absurd rfl ne

/-- What follows a slice is a matter of the script after it. -/
theorem followedBy_congr {next other : Executor → Option (Logged (Executor × SliceOutcome))}
    (same : next ran = other ran) :
    followedBy next ⟨(ran, outcome), entries⟩ = followedBy other ⟨(ran, outcome), entries⟩ := by
  cases outcome <;> first | rfl | exact congrArg (Option.map _) same

/-- An instruction does not preempt its script. -/
theorem not_preempted_cycle (cycle : (ex.cycle machine now limit).value = (ran, .ends outcome)) :
    outcome ≠ .preempted := by
  have step := cycled ex machine now limit
  rw [cycle] at step
  cases step with
  | ends applied =>
    rcases ends_applyStep applied with ⟨rfl, -⟩ | ⟨rfl | ⟨cause, rfl⟩, -⟩ <;> simp
  | blocks => simp
  | runaway => simp

/-- A script that is not critical runs in a slice what it runs in two parts of the slice. -/
theorem runCycles_add {first second : Nat} (uncritical : ex.thread.critical = false)
    (some : 1 ≤ first) (more : 1 ≤ second) :
    runCycles now limit (first + second + 1) (first + second) told ex =
      (runCycles now limit (first + 1) first told ex).bind
        (followedBy fun mid => runCycles now limit (second + 1) second #[] mid) := by
  -- the first part is spent instruction by instruction, and then the second is what remains
  induction first generalizing ex told with
  | zero => exact absurd some (by decide)
  | succ first ih =>
    rcases ex.stays_or_runs now limit with ⟨outcome, ne, stays⟩ | ⟨machine, runtime, runnable⟩
    · rw [stays, stays, Option.bind_some, followedBy_of_ne ne]
    · cases cycle : (ex.cycle machine now limit).value with
      | mk mid out =>
        cases out with
        | ends outcome =>
          rw [runCycles_of_ends runtime runnable cycle, runCycles_of_ends runtime runnable cycle,
            Option.bind_some, followedBy_of_ne (not_preempted_cycle cycle)]
        | goesOn =>
          have free : mid.thread.critical = false :=
            (continues_cycle cycle).critical.trans uncritical
          rw [runCycles_of_goesOn runtime runnable cycle,
            runCycles_of_goesOn runtime runnable cycle, if_neg (not_usedUp _ (by omega)),
            Nat.add_sub_cancel, Nat.add_right_comm first 1 second, Nat.add_sub_cancel]
          by_cases last : first = 0
          · -- the whole slice goes on where its first part has been used up
            subst last
            rw [if_pos (by simp [free]), Option.bind_some, Nat.zero_add]
            cases going : mid.runnable with
            | true =>
              rw [if_pos rfl, runCycles_told]
              rfl
            | false =>
              have bytecode : mid.isEngine = false :=
                (carries_cycle runtime cycle).isEngine.trans (by simp [isEngine, runtime])
              rw [if_neg (by decide), followedBy_of_ne (by simp), runCycles_done going bytecode]
          · rw [if_neg (not_usedUp _ (by omega))]
            exact ih free (by omega)

/-! ### Within a slice -/

/-- A script keeps to its slice: it runs at least one instruction and no more than the slice has,
and if it is preempted it has used up the slice, could go on and is not blocked. -/
structure KeepsTo (slice : Nat) (ex ran : Executor) (outcome : SliceOutcome) : Prop where
  some : ex.instrCycles + 1 ≤ ran.instrCycles
  atMost : ran.instrCycles ≤ ex.instrCycles + slice
  preempted : outcome = .preempted →
    ran.instrCycles = ex.instrCycles + slice ∧ ran.runnable = true ∧ ran.isBlocked = false

/-- An instruction that ends a slice is counted. -/
theorem instrCycles_cycle {out : CycleOutcome}
    (cycle : (ex.cycle machine now limit).value = (ran, out)) :
    ran.instrCycles = ex.instrCycles + 1 := by
  have step := cycled ex machine now limit
  rw [cycle] at step
  exact step.instrCycles

/-- A script that is not critical and has an instruction to run keeps to its slice. -/
theorem keepsTo_of_runCycles {slice : Nat} (uncritical : ex.thread.critical = false)
    (runtime : ex.runtime = .bytecode machine) (runnable : machine.runnable = true)
    (room : 1 ≤ slice)
    (runs : runCycles now limit patience slice told ex = some ⟨(ran, outcome), entries⟩) :
    KeepsTo slice ex ran outcome := by
  -- an instruction is spent in each round, and the rest of the slice is one shorter
  induction patience generalizing ex machine slice told with
  | zero => exact absurd runs (by simp [runCycles])
  | succ patience ih =>
    cases round_of_runCycles runs with
    | idle done => exact absurd done (by simp [Executor.runnable, runtime, runnable])
    | external engine => exact absurd engine (by simp [isEngine, runtime])
    | ends _ _ cycle =>
      have counted := instrCycles_cycle cycle
      exact ⟨by omega, by omega, fun preempted => absurd preempted (not_preempted_cycle cycle)⟩
    | @usedUp machine _ _ _ cycle last =>
      have counted := instrCycles_cycle cycle
      have used : slice ≤ 1 := of_decide_eq_true (Bool.and_eq_true_iff.mp last).2
      have step := cycled ex machine now limit
      rw [cycle] at step
      refine ⟨by omega, by omega, fun preempted => ⟨by omega, ?_, step.goes_on.2⟩⟩
      by_contra stopped
      rw [if_neg stopped] at preempted
      exact absurd preempted (by simp)
    | @goesOn _ mid _ _ _ bytecode _ cycle left rest =>
      have counted := instrCycles_cycle cycle
      have free : mid.thread.critical = false :=
        (continues_cycle cycle).critical.trans uncritical
      have more : 1 < slice := by simpa [free] using left
      rcases mid.stays_or_runs now limit with ⟨last, ne, stays⟩ | ⟨machine, runtime, runnable⟩
      · -- the machine has come to its end before the slice
        cases patience with
        | zero => exact absurd rest (by simp [runCycles])
        | succ patience =>
          rw [stays] at rest
          obtain ⟨⟨rfl, rfl⟩, -⟩ := by simpa using rest
          exact ⟨by omega, by omega, fun preempted => absurd preempted ne⟩
      · obtain ⟨some, atMost, preempted⟩ := ih free runtime runnable (by omega) rest
        refine ⟨by omega, by omega, fun last => ?_⟩
        obtain ⟨used, going⟩ := preempted last
        exact ⟨by omega, going⟩

/-! ### Critical scripts -/

/-- A critical script is not terminated as a runaway. -/
theorem not_runaway_cycle (critical : ex.thread.critical = true)
    (cycle : (ex.cycle machine now limit).value = (ran, .ends outcome)) :
    outcome ≠ .runaway := by
  have more := ex.advances_exec machine now
  unfold Executor.cycle at cycle
  simp only [Logged.bind_value] at cycle
  split at cycle
  · next mid ended applied =>
    obtain rfl := CycleOutcome.ends.inj (Prod.mk.inj cycle).2
    rcases ends_applyStep applied with ⟨rfl, -⟩ | ⟨rfl | ⟨cause, rfl⟩, -⟩ <;> simp
  · next mid applied =>
    rw [applied] at more
    split at cycle
    · obtain rfl := CycleOutcome.ends.inj (Prod.mk.inj cycle).2
      simp
    · have within : mid.countRunaway.overLimit limit = false := by
        have still : mid.countRunaway.thread.critical = true := more.critical.trans critical
        unfold overLimit
        rw [still]
        split <;> rfl
      have goesOn : (mid.checkRunaway limit).value.2 = .goesOn := by
        unfold checkRunaway
        split
        · simp only [within]
          split <;> rfl
        · rfl
      rw [cycle] at goesOn
      exact absurd goesOn (by simp)

/-- A slice of a critical script ends neither by its length nor as a runaway. -/
theorem unstopped_of_runCycles (critical : ex.thread.critical = true)
    (runs : runCycles now limit patience left told ex = some ⟨(ran, outcome), entries⟩) :
    outcome ≠ .preempted ∧ outcome ≠ .runaway := by
  induction patience generalizing ex left told with
  | zero => exact absurd runs (by simp [runCycles])
  | succ patience ih =>
    cases round_of_runCycles runs with
    | idle => simp
    | external => simp
    | ends _ _ cycle => exact ⟨not_preempted_cycle cycle, not_runaway_cycle critical cycle⟩
    | usedUp _ _ cycle last =>
      have still : ran.thread.critical = true := (continues_cycle cycle).critical.trans critical
      simp [still] at last
    | goesOn _ _ cycle _ rest =>
      exact ih ((continues_cycle cycle).critical.trans critical) rest

/-! ### How slices compose -/

/-- The laws of the slices of a bytecode script. -/
structure SlicesCompose (ex : Executor) (now : Nat) (limit : Option Nat) : Prop where
  /-- If the script is not critical, a slice leads to the same script, the same outcome and the same
  record as its first part, followed by its second part if the script was preempted. -/
  parts : ex.thread.critical = false → ∀ first second patience, 1 ≤ first → 1 ≤ second →
    ex.runSlice now (first + second) limit patience = ex.runParts now first second limit patience
  /-- If it is not critical and has an instruction to run, a slice of it comes to an end and it
  keeps to the slice. -/
  keeps : ex.thread.critical = false → ex.runnable = true → ∀ slice patience, 1 ≤ slice →
    ∃ ran outcome entries, ex.runSlice now slice limit patience = some ⟨(ran, outcome), entries⟩ ∧
      KeepsTo slice ex ran outcome
  /-- If it is critical, a slice that comes to an end is neither preempted nor a runaway. -/
  critical : ex.thread.critical = true → ∀ slice patience ran outcome entries,
    ex.runSlice now slice limit patience = some ⟨(ran, outcome), entries⟩ →
      outcome ≠ .preempted ∧ outcome ≠ .runaway

/-- The slices of a bytecode script compose, whatever state it is in. -/
theorem slicesCompose (runtime : ex.runtime = .bytecode machine) (now : Nat)
    (limit : Option Nat) : ex.SlicesCompose now limit := by
  constructor
  case parts =>
    intro uncritical first second patience some more
    have cut : ∀ {ex : Executor} slice, ex.thread.critical = false →
        ex.runSlice now slice limit patience = runCycles now limit (slice + 1) slice #[] ex := by
      intro ex slice uncritical
      unfold runSlice
      rw [uncritical]
      rfl
    obtain ⟨⟨⟨mid, outcome⟩, entries⟩, ends⟩ : ∃ ran, runCycles now limit (first + 1) first #[] ex =
        .some ran := runCycles_ends uncritical (Nat.lt_succ_self first)
    unfold runParts
    rw [cut _ uncritical, cut _ uncritical, runCycles_add uncritical some more, ends,
      Option.bind_some, Option.bind_some]
    have free : mid.thread.critical = false :=
      (slice_of_runCycles ends).continues.critical.trans uncritical
    exact followedBy_congr (cut _ free).symm
  case keeps =>
    intro uncritical runnable slice patience room
    obtain ⟨⟨⟨ran, outcome⟩, entries⟩, ends⟩ := runSlice_ends now slice limit uncritical
    have going : machine.runnable = true := by
      unfold Executor.runnable at runnable
      rwa [runtime] at runnable
    exact ⟨ran, outcome, entries, ends patience,
      keepsTo_of_runCycles uncritical runtime going room (ends patience)⟩
  case critical =>
    intro critical slice patience ran outcome entries runs
    exact unstopped_of_runCycles critical runs

/-- A script that runs in a circle. -/
def circling : Executor :=
  { Executor.new ⟨1⟩ (Options.ofConfig {}) with
    runtime := .bytecode ⟨[.push .sentinel, .pop, .jump 0], 0, false⟩ }

/-- A slice of three instructions of a script that runs in a circle is a slice of one instruction
and one of two; the script is preempted after it. -/
theorem slicesCompose_circling : ∃ machine ran, circling.runtime = .bytecode machine ∧
    circling.runSlice 0 (1 + 2) none 0 = some ran ∧ ran.value.2 = .preempted ∧
    circling.SlicesCompose 0 none := by
  have runtime : circling.runtime = .bytecode _ := rfl
  have ran : circling.runSlice 0 (1 + 2) none 0 = some _ := rfl
  refine ⟨_, _, runtime, ran, rfl, ?_⟩
  exact slicesCompose runtime 0 none

end Executor

end ScriptScheduler
