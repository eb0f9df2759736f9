import ScriptScheduler.Proofs.Coherence

/-!
# Counting cycles

A script counts its instructions, and at every so many of them it counts another step of runaway
cycles and is terminated if these have reached the limit. `Accounted` says how these numbers are
related to two others: how many instructions the script had run when it last blocked in a slice, and
how many when it last rested, that is, when it was last blocked or halted. From the former it
follows how many instructions a script has run at least when it is terminated, from the latter how
many it can run at most without a rest.
-/

namespace ScriptScheduler

namespace Executor

/-! ### The allowance -/

/-- How many instructions a script may run without a rest: the limit in whole steps, and at least
one step. -/
def allowance (step limit : Nat) : Nat := step * max 1 ((limit + step - 1) / step)

/-- Whoever has counted whole steps below the limit is allowed another step. -/
theorem add_le_allowance {step limit cycles : Nat} (pos : 0 < step) (whole : step ∣ cycles)
    (below : cycles = 0 ∨ cycles < limit) : cycles + step ≤ allowance step limit := by
  obtain ⟨steps, rfl⟩ := whole
  have more : steps + 1 ≤ max 1 ((limit + step - 1) / step) := by
    rcases below with none | less
    · have none : steps = 0 := (Nat.mul_eq_zero.mp none).resolve_left (Nat.ne_of_gt pos)
      rw [none]
      exact Nat.le_max_left _ _
    · refine Nat.le_trans ((Nat.le_div_iff_mul_le pos).mpr ?_) (Nat.le_max_right _ _)
      rw [Nat.succ_mul, Nat.mul_comm steps]
      omega
  calc step * steps + step = step * (steps + 1) := rfl
    _ ≤ allowance step limit := Nat.mul_le_mul_left step more

/-! ### The counters of a script -/

variable {ex a b mid ran : Executor} {machine : Machine} {now : Nat} {outcome : SliceOutcome}
  {gone : Pid → Prop} {wrapped : Prop} {may : Act → Prop}

/-- Two scripts with the same counters. -/
structure Tallies (a b : Executor) : Prop where
  instrCycles : b.instrCycles = a.instrCycles
  runawayCycles : b.runawayCycles = a.runawayCycles
  warnOnCycle : b.warnOnCycle = a.warnOnCycle
  runawayStep : b.runawayStep = a.runawayStep

/-- A script has its own counters. -/
theorem Tallies.refl (ex : Executor) : Tallies ex ex := ⟨rfl, rfl, rfl, rfl⟩

/-- Scripts with the same counters as a third one. -/
theorem Tallies.trans (h₁ : Tallies a mid) (h₂ : Tallies mid b) : Tallies a b where
  instrCycles := h₂.instrCycles.trans h₁.instrCycles
  runawayCycles := h₂.runawayCycles.trans h₁.runawayCycles
  warnOnCycle := h₂.warnOnCycle.trans h₁.warnOnCycle
  runawayStep := h₂.runawayStep.trans h₁.runawayStep

/-- A suspended script has run as much as before, and is as critical. -/
theorem tallies_suspend (ex : Executor) (wake : Nat) :
    Tallies ex (ex.suspend wake) ∧ (ex.suspend wake).thread.critical = ex.thread.critical := by
  unfold suspend
  split
  · exact ⟨.refl ex, rfl⟩
  · exact ⟨⟨rfl, rfl, rfl, rfl⟩, rfl⟩

/-- What an instruction asks for leaves the counters alone. -/
theorem tallies_applyStep (ex : Executor) (now : Nat) (step : Step) :
    Tallies ex (ex.applyStep now step).1 ∧
      (ex.applyStep now step).1.thread.critical = ex.thread.critical := by
  cases step with
  | proceed | exit | fault => exact ⟨⟨rfl, rfl, rfl, rfl⟩, rfl⟩
  | sleep ms => exact ex.tallies_suspend _
  | halt =>
    unfold applyStep
    dsimp only
    split <;> exact ⟨⟨rfl, rfl, rfl, rfl⟩, rfl⟩
  | waitForEvent timeout =>
    unfold applyStep
    dsimp only
    split
    · next event thread taken =>
      refine ⟨⟨rfl, rfl, rfl, rfl⟩, ?_⟩
      obtain ⟨capacity, rest, -, rfl⟩ := Thread.nextEvent_some taken
      rfl
    · have waits : ∀ wake,
          Tallies ex ((ex.suspend wake).mapThread fun t => { t with waitType := .event }) ∧
            (ex.suspend wake).thread.critical = ex.thread.critical :=
        fun wake => ⟨{ (ex.tallies_suspend wake).1 with }, (ex.tallies_suspend wake).2⟩
      split
      · exact ⟨.refl ex, rfl⟩
      · exact waits _

/-- Without a turn a script keeps its counters. -/
theorem ChangeBy.tallies (change : ChangeBy gone wrapped may a b) (turnless : ¬ may (.turn a.pid)) :
    Tallies a b := by
  cases change with
  | preempted _ _ allowed => exact absurd allowed turnless
  | slept _ _ _ allowed => exact absurd allowed turnless
  | stopped _ _ allowed => exact absurd allowed turnless
  | called _ _ _ allowed => exact absurd allowed turnless
  | answered =>
    unfold Executor.answered
    split <;> exact ⟨rfl, rfl, rfl, rfl⟩
  | requested _ _ wake =>
    have same := (a.tallies_suspend wake).1
    unfold openResultSlot
    split <;> exact { same with }
  | @awaited _ child =>
    have same := (({ a with child := some child }.push .sentinel).tallies_suspend Clock.never).1
    exact { same with }
  | _ => exact ⟨rfl, rfl, rfl, rfl⟩

/-- Only in a turn, by a request or by the launch of a child does a script get blocked. -/
theorem ChangeBy.blocks (change : ChangeBy gone wrapped may a b) (coherent : a.Coherent)
    (bytecode : a.isEngine = false) (turnless : ¬ may (.turn a.pid)) (silent : ¬ may (.ask a.pid))
    (alone : ¬ may (.adopt a.pid)) (blocked : b.isBlocked = true) : a.isBlocked = true := by
  have idle : a.thread.outstanding = none := coherent.outstanding fun managed =>
    absurd (bytecode.symm.trans (coherent.managed managed)) (by decide)
  -- whatever else reaches the script leaves it as it is or revives it
  have revived : a.thread.revive.isBlocked = false := Thread.isBlocked_revive idle
  cases change with
  | preempted _ _ allowed => exact absurd allowed turnless
  | slept _ _ _ allowed => exact absurd allowed turnless
  | stopped _ _ allowed => exact absurd allowed turnless
  | called _ _ _ allowed => exact absurd allowed turnless
  | @queued event thread _ posted =>
    obtain ⟨capacity, events, inbox, rfl⟩ := Thread.post_ok posted
    simpa [isBlocked, Thread.isBlocked, inbox] using blocked
  | woken =>
    change a.thread.revive.freed.isBlocked = true at blocked
    rw [Thread.freed_isBlocked, revived] at blocked
    exact absurd blocked (by decide)
  | @answered kind id _ value =>
    have same : ({ a with requests := a.requests.remove kind id }.answered value).thread =
        a.thread.revive := by
      unfold Executor.answered
      split <;> rfl
    change Thread.isBlocked (Thread.freed _) = true at blocked
    rw [same, Thread.freed_isBlocked, revived] at blocked
    exact absurd blocked (by decide)
  | timedOut =>
    change a.thread.revive.isBlocked = true at blocked
    rw [revived] at blocked
    exact absurd blocked (by decide)
  | resumed =>
    change a.thread.revive.freed.isBlocked = true at blocked
    rw [Thread.freed_isBlocked, revived] at blocked
    exact absurd blocked (by decide)
  | orphaned => exact blocked
  | halted => exact blocked
  | releasedBlocked _ was => exact was
  | released => exact blocked
  | requested _ _ _ _ allowed => exact absurd allowed silent
  | takenBack _ _ allowed => exact absurd allowed silent
  | awaited _ _ _ allowed => exact absurd allowed alone

/-- Edits leave the counters alone. -/
theorem tallies_edit (edit : Edit) (ex : Executor) : Tallies ex (edit.apply ex) := by
  cases edit <;> exact ⟨rfl, rfl, rfl, rfl⟩

/-! ### Accounts -/

/-- The accounts of a script with a limit: it had run `slept` instructions when it last blocked in a
slice, and `rested` instructions when it last rested. -/
structure Accounted (ex : Executor) (limit slept rested : Nat) : Prop where
  /-- Runaway cycles are counted in whole steps. -/
  whole : ex.runawayStep ∣ ex.runawayCycles
  /-- They have not reached the limit. -/
  below : ex.runawayCycles = 0 ∨ ex.runawayCycles < limit
  /-- They have been run since the script blocked. -/
  counted : slept + ex.runawayCycles ≤ ex.instrCycles
  /-- The next step is counted after a whole step. -/
  next : slept + ex.runawayCycles + ex.runawayStep ≤ ex.warnOnCycle ∨ ex.runawayStep = 1
  since : rested ≤ ex.instrCycles
  /-- The next step is counted in time. -/
  due : ex.warnOnCycle ≤ rested + ex.runawayCycles + ex.runawayStep
  within : ex.instrCycles < rested + ex.runawayCycles + ex.runawayStep ∨ ex.instrCycles = rested
  /-- The next step is counted within a step from now. -/
  ahead : ex.warnOnCycle ≤ ex.instrCycles + ex.runawayStep

variable {limit slept rested : Nat}

/-- A step is positive. -/
theorem runawayStep_pos (ex : Executor) : 0 < ex.runawayStep :=
  Nat.lt_of_lt_of_le Nat.zero_lt_one (Nat.le_max_left _ _)

namespace Accounted

/-- Accounts are about counters only. -/
theorem congr (h : a.Accounted limit slept rested) (same : Tallies a b) :
    b.Accounted limit slept rested := by
  obtain ⟨instrs, runaway, warn, step⟩ := same
  constructor
  · rw [step, runaway]; exact h.whole
  · rw [runaway]; exact h.below
  · rw [runaway, instrs]; exact h.counted
  · rw [runaway, step, warn]; exact h.next
  · rw [instrs]; exact h.since
  · rw [runaway, step, warn]; exact h.due
  · rw [instrs, runaway, step]; exact h.within
  · rw [warn, instrs, step]; exact h.ahead

/-- A script that rests has rested. -/
theorem rest (h : ex.Accounted limit slept rested) : ex.Accounted limit slept ex.instrCycles :=
  { h with
    since := Nat.le_refl _
    due := by
      have since := h.since
      have due := h.due
      omega
    within := .inr rfl }

/-- After the next instruction the script has not run more than it is allowed. -/
theorem lt_allowance (h : ex.Accounted limit slept rested) :
    ex.instrCycles < rested + allowance ex.runawayStep limit := by
  have within := h.within
  have pos := ex.runawayStep_pos
  have allowed := add_le_allowance pos h.whole h.below
  omega

end Accounted

/-- A launched script has not run yet, and it is not blocked. -/
theorem Launched.fresh (launched : ex.Launched) :
    ex.instrCycles = 0 ∧ ex.isBlocked = false := by
  obtain ⟨s, program, options, new, parent, prepared, rfl⟩ := launched
  obtain ⟨runtime, thread, bound, rfl⟩ := Scheduler.prepare_eq prepared
  rcases Scheduler.bindRuntime_cases bound with ⟨-, _, -, rfl⟩ | ⟨-, _, -, rfl⟩
  · exact ⟨rfl, rfl⟩
  · exact ⟨rfl, rfl⟩

/-- A launched script is accounted for from its start. -/
theorem Launched.accounted (launched : ex.Launched) (limit : Nat) : ex.Accounted limit 0 0 := by
  obtain ⟨s, program, options, new, parent, prepared, rfl⟩ := launched
  obtain ⟨runtime, thread, bound, rfl⟩ := Scheduler.prepare_eq prepared
  refine ⟨Nat.dvd_zero _, .inl rfl, Nat.le_refl _, ?_, Nat.le_refl _, ?_, ?_, ?_⟩
  · change 0 + 0 + max 1 options.runawayThreshold ≤ options.runawayThreshold ∨
      max 1 options.runawayThreshold = 1
    omega
  · change options.runawayThreshold ≤ 0 + 0 + max 1 options.runawayThreshold
    omega
  · change 0 < 0 + 0 + max 1 options.runawayThreshold ∨ 0 = 0
    omega
  · change options.runawayThreshold ≤ 0 + max 1 options.runawayThreshold
    omega

/-! ### Slices -/

/-- What is known of a script whose slice has ended. -/
def Settles (ran : Executor) (limit slept rested : Nat) : SliceOutcome → Prop
  | .preempted => ran.Accounted limit slept rested
  | .blocked => ran.Accounted limit ran.instrCycles ran.instrCycles
  | .halted => ran.Accounted limit slept ran.instrCycles
  | .finished | .faulted _ => ran.instrCycles ≤ rested + allowance ran.runawayStep limit
  | .runaway =>
    slept + limit ≤ ran.instrCycles ∧
      ran.instrCycles ≤ rested + allowance ran.runawayStep limit
  | .external => False

/-- What is known of a script after an instruction. -/
def Proceeds (ran : Executor) (limit slept rested : Nat) : CycleOutcome → Prop
  | .goesOn => ran.Accounted limit slept rested
  | .ends outcome => ran.Settles limit slept rested outcome

/-- Whether a number of runaway cycles has reached the limit, if there is one. -/
def exceeds (limit : Option Nat) (cycles : Nat) : Bool :=
  match limit with
  | some most => most ≤ cycles
  | none => false

/-- A critical script is not over the limit, which makes no difference where there is none. -/
theorem overLimit_eq {limit : Option Nat} (bounded : ex.thread.critical = false ∨ limit = none) :
    ex.overLimit limit = exceeds limit ex.runawayCycles := by
  cases limit with
  | none => rfl
  | some limit =>
    have uncritical : ex.thread.critical = false := bounded.resolve_right (by simp)
    change (!ex.thread.critical && _) = _
    rw [uncritical]
    rfl

/-- What becomes of a script in the check after an instruction. -/
theorem checkRunaway_value {limit : Option Nat}
    (bounded : ex.thread.critical = false ∨ limit = none) :
    (ex.checkRunaway limit).value =
      if ex.warnOnCycle ≤ ex.instrCycles then
        (ex.countRunaway,
          if exceeds limit (ex.runawayCycles + ex.runawayStep) then .ends .runaway else .goesOn)
      else (ex, .goesOn) := by
  have beyond : ex.countRunaway.overLimit limit =
      exceeds limit (ex.runawayCycles + ex.runawayStep) :=
    overLimit_eq bounded
  unfold checkRunaway runawayDue
  by_cases due : ex.warnOnCycle ≤ ex.instrCycles
  · rw [if_pos due, if_pos (decide_eq_true due)]
    simp only [beyond]
    split <;> rfl
  · rw [if_neg due, if_neg (by simpa using due)]
    rfl

/-- A script has run one more instruction and has not been looked after yet. -/
structure Advances (a b : Executor) : Prop where
  instrCycles : b.instrCycles = a.instrCycles + 1
  runawayCycles : b.runawayCycles = a.runawayCycles
  warnOnCycle : b.warnOnCycle = a.warnOnCycle
  runawayStep : b.runawayStep = a.runawayStep
  critical : b.thread.critical = a.thread.critical

/-- An instruction advances its script. -/
theorem advances_exec (ex : Executor) (machine : Machine) (now : Nat) :
    Advances ex ((ex.afterExec (machine.exec ex.stack)).applyStep now
      (machine.exec ex.stack).step).1 := by
  obtain ⟨⟨instrs, runaway, warn, step⟩, critical⟩ :=
    (ex.afterExec (machine.exec ex.stack)).tallies_applyStep now (machine.exec ex.stack).step
  exact ⟨instrs, runaway, warn, step, critical⟩

namespace Accounted

/-- After one more instruction a script has run no more than it is allowed. -/
theorem le_of_advances (h : ex.Accounted limit slept rested) (more : Advances ex mid) :
    mid.instrCycles ≤ rested + allowance mid.runawayStep limit := by
  rw [more.instrCycles, more.runawayStep]
  exact h.lt_allowance

/-- A script that halts with an instruction rests then. -/
theorem halts (h : ex.Accounted limit slept rested) (more : Advances ex mid) :
    mid.Accounted limit slept mid.instrCycles := by
  have counted := h.counted
  have next := h.next
  have since := h.since
  have due := h.due
  have ahead := h.ahead
  obtain ⟨instrs, runaway, warn, step, -⟩ := more
  refine ⟨?_, ?_, ?_, ?_, Nat.le_refl _, ?_, .inr rfl, ?_⟩
  · rw [step, runaway]; exact h.whole
  · rw [runaway]; exact h.below
  · omega
  · omega
  · omega
  · omega

/-- A script that blocks with an instruction is accounted for anew. -/
theorem blocks (limit : Nat) (mid : Executor) :
    mid.resetRunaway.Accounted limit mid.instrCycles mid.instrCycles :=
  ⟨Nat.dvd_zero _, .inl rfl, Nat.le_refl _, .inl (Nat.le_refl _), Nat.le_refl _, Nat.le_refl _,
    .inr rfl, Nat.le_refl _⟩

/-- A script that has run one more instruction and goes on, or is terminated. -/
theorem checked (h : ex.Accounted limit slept rested) (more : Advances ex mid)
    (uncritical : ex.thread.critical = false) :
    (mid.checkRunaway (some limit)).value.1.Proceeds limit slept rested
      (mid.checkRunaway (some limit)).value.2 := by
  have counted := h.counted
  have next := h.next
  have since := h.since
  have within := h.within
  have bound := h.due
  have ahead := h.ahead
  have allowed := h.le_of_advances more
  have whole := h.whole
  obtain ⟨instrs, runaway, warn, step, critical⟩ := more
  rw [checkRunaway_value (.inl (critical.trans uncritical))]
  by_cases due : mid.warnOnCycle ≤ mid.instrCycles
  · rw [if_pos due]
    split
    · next exceeded =>
      have beyond : limit ≤ mid.runawayCycles + mid.runawayStep := of_decide_eq_true exceeded
      refine ⟨?_, allowed⟩
      change slept + limit ≤ mid.instrCycles
      omega
    · next spared =>
      have under : ¬ limit ≤ mid.runawayCycles + mid.runawayStep := by simpa [exceeds] using spared
      have steps : mid.countRunaway.runawayStep = mid.runawayStep := rfl
      have cycles : mid.countRunaway.runawayCycles = mid.runawayCycles + mid.runawayStep := rfl
      have warned : mid.countRunaway.warnOnCycle = mid.warnOnCycle + mid.runawayStep := rfl
      have ran : mid.countRunaway.instrCycles = mid.instrCycles := rfl
      -- the window has been counted and the next one begins where this one ends
      have pos := mid.runawayStep_pos
      change mid.countRunaway.Accounted limit slept rested
      refine ⟨?_, ?_, ?_, ?_, ?_, ?_, ?_, ?_⟩
      · rw [steps, cycles, runaway, step]
        exact Nat.dvd_add whole (Nat.dvd_refl _)
      all_goals omega
  · rw [if_neg due]
    change mid.Accounted limit slept rested
    refine ⟨?_, ?_, ?_, ?_, ?_, ?_, ?_, ?_⟩
    · rw [step, runaway]; exact whole
    · rw [runaway]; exact h.below
    all_goals omega

end Accounted

/-- A script runs on with the steps that it had and is as critical as it was. -/
structure Continues (a b : Executor) : Prop where
  instrCycles : a.instrCycles ≤ b.instrCycles
  runawayStep : b.runawayStep = a.runawayStep
  critical : b.thread.critical = a.thread.critical

/-- A script runs on twice. -/
theorem Continues.trans (h₁ : Continues a mid) (h₂ : Continues mid b) : Continues a b where
  instrCycles := Nat.le_trans h₁.instrCycles h₂.instrCycles
  runawayStep := h₂.runawayStep.trans h₁.runawayStep
  critical := h₂.critical.trans h₁.critical

/-- With an instruction a script runs on. -/
theorem continues_cycle {limit : Option Nat} {out : CycleOutcome}
    (cycle : (ex.cycle machine now limit).value = (ran, out)) : Continues ex ran := by
  have more := ex.advances_exec machine now
  have step := cycled ex machine now limit
  rw [cycle] at step
  have kept : ∀ mid, ran = mid ∨ ran = mid.resetRunaway ∨ ran = mid.countRunaway →
      Advances ex mid → Continues ex ran := by
    rintro mid counted ⟨instrs, -, -, steps, critical⟩
    have grows : ex.instrCycles ≤ mid.instrCycles := instrs ▸ Nat.le_succ _
    rcases counted with rfl | rfl | rfl
    · exact ⟨grows, steps, critical⟩
    · exact ⟨grows, steps, critical⟩
    · exact ⟨grows, steps, critical⟩
  cases step with
  | ends applied => rw [applied] at more; exact kept _ (.inl rfl) more
  | blocks applied => rw [applied] at more; exact kept _ (.inr (.inl rfl)) more
  | goesOn applied _ counted =>
    rw [applied] at more
    exact kept _ (counted.imp_right .inr) more
  | runaway applied => rw [applied] at more; exact kept _ (.inr (.inr rfl)) more

/-- In a slice a script runs on. -/
theorem Slice.continues {limit : Option Nat} (slice : Slice now limit ex ran outcome) :
    Continues ex ran := by
  induction slice with
  | idle => exact ⟨Nat.le_refl _, rfl, rfl⟩
  | external => exact ⟨Nat.le_refl _, rfl, rfl⟩
  | ends _ _ cycle => exact continues_cycle cycle
  | usedUp _ _ cycle => exact continues_cycle cycle
  | goesOn _ _ cycle _ ih => exact (continues_cycle cycle).trans ih

/-- One instruction of a script that is not critical. -/
theorem Accounted.cycle {out : CycleOutcome} (h : ex.Accounted limit slept rested)
    (uncritical : ex.thread.critical = false)
    (cycle : (ex.cycle machine now (some limit)).value = (ran, out)) :
    ran.Proceeds limit slept rested out := by
  have more := ex.advances_exec machine now
  unfold Executor.cycle at cycle
  simp only [Logged.bind_value] at cycle
  split at cycle
  · next mid outcome applied =>
    rw [applied] at more
    obtain ⟨rfl, rfl⟩ := Prod.mk.inj cycle
    rcases ends_applyStep applied with ⟨rfl, -⟩ | ⟨rfl | ⟨cause, rfl⟩, -⟩
    · exact h.halts more
    · exact h.le_of_advances more
    · exact h.le_of_advances more
  · next mid applied =>
    rw [applied] at more
    split at cycle
    · obtain ⟨rfl, rfl⟩ := Prod.mk.inj cycle
      exact blocks limit mid
    · have checked := h.checked more uncritical
      rwa [cycle] at checked

/-- A slice of a bytecode script that is not critical. -/
theorem Slice.settles (slice : Slice now (some limit) ex ran outcome)
    (bytecode : ex.isEngine = false) (uncritical : ex.thread.critical = false)
    (h : ex.Accounted limit slept rested) : ran.Settles limit slept rested outcome := by
  induction slice with
  | idle => exact Nat.le_of_lt h.lt_allowance
  | external engine => exact absurd (bytecode.symm.trans engine) (by decide)
  | ends _ _ cycle => exact h.cycle uncritical cycle
  | usedUp _ _ cycle =>
    have after : Accounted _ limit slept rested := h.cycle uncritical cycle
    split
    · exact after
    · exact Nat.le_of_lt after.lt_allowance
  | goesOn runtime _ cycle _ ih =>
    refine ih ?_ ((continues_cycle cycle).critical.trans uncritical) (h.cycle uncritical cycle)
    exact (carries_cycle runtime cycle).isEngine.trans bytecode

/-- A script that halts with an instruction is as blocked as before. -/
theorem isBlocked_halted {step : Step} (applied : ex.applyStep now step = (ran, some .halted)) :
    ran.isBlocked = ex.isBlocked := by
  cases step with
  | proceed | sleep | exit | fault => exact absurd applied (by simp [applyStep])
  | waitForEvent timeout =>
    unfold applyStep at applied
    dsimp only at applied
    split at applied
    · exact absurd applied (by simp)
    · split at applied <;> exact absurd applied (by simp)
  | halt =>
    unfold applyStep at applied
    dsimp only at applied
    split at applied
    · exact absurd applied (by simp)
    · obtain ⟨rfl, -⟩ := Prod.mk.inj applied
      rfl

/-- A script that halts is not blocked. -/
theorem Slice.free_of_halted {limit : Option Nat} (slice : Slice now limit ex ran .halted)
    (free : ex.isBlocked = false) : ran.isBlocked = false := by
  generalize goal : SliceOutcome.halted = outcome at slice
  induction slice with
  | idle | external => exact absurd goal (by simp)
  | @ends ex ran machine outcome _ _ cycle =>
    subst goal
    have step := cycled ex machine now limit
    rw [cycle] at step
    cases step with
    | ends applied => exact (isBlocked_halted applied).trans free
  | usedUp => split at goal <;> exact absurd goal (by simp)
  | @goesOn ex mid ran machine outcome _ _ cycle _ ih =>
    have step := cycled ex machine now limit
    rw [cycle] at step
    exact ih step.goes_on.2 goal

end Executor

end ScriptScheduler
