import ScriptScheduler.Proofs.Moves

/-!
# Slices

A slice is a sequence of instructions that ends for one of a few reasons. `Slice` says how a slice
goes without the bounds on its length, and what a slice can change of a script is derived from
what one instruction can change.
-/

namespace ScriptScheduler

namespace Executor

variable {ex mid ran : Executor} {machine : Machine} {now : Nat} {limit : Option Nat}
  {outcome : SliceOutcome}

/-- A slice of a script: its instructions run one after the other until one ends the slice or the
script is preempted. -/
inductive Slice (now : Nat) (limit : Option Nat) : Executor → Executor → SliceOutcome → Prop
  /-- There is nothing left to run. -/
  | idle {ex : Executor} (done : ex.runnable = false) (bytecode : ex.isEngine = false) :
      Slice now limit ex ex .finished
  /-- The script runs on the engine. -/
  | external {ex : Executor} (engine : ex.isEngine = true) : Slice now limit ex ex .external
  /-- An instruction ends the slice. -/
  | ends {ex ran : Executor} {machine : Machine} {outcome : SliceOutcome}
      (bytecode : ex.runtime = .bytecode machine) (runnable : machine.runnable = true)
      (cycle : (ex.cycle machine now limit).value = (ran, .ends outcome)) :
      Slice now limit ex ran outcome
  /-- The slice is used up. -/
  | usedUp {ex ran : Executor} {machine : Machine} (bytecode : ex.runtime = .bytecode machine)
      (runnable : machine.runnable = true)
      (cycle : (ex.cycle machine now limit).value = (ran, .goesOn)) :
      Slice now limit ex ran (if ran.runnable then .preempted else .finished)
  /-- An instruction is followed by others. -/
  | goesOn {ex mid ran : Executor} {machine : Machine} {outcome : SliceOutcome}
      (bytecode : ex.runtime = .bytecode machine) (runnable : machine.runnable = true)
      (cycle : (ex.cycle machine now limit).value = (mid, .goesOn))
      (rest : Slice now limit mid ran outcome) : Slice now limit ex ran outcome

/-- The first round of what is run with bounds on the number of instructions: it ends there, or an
instruction is followed by others within the bounds that remain. -/
inductive Round (now : Nat) (limit : Option Nat) (patience left : Nat) (told : Array Entry)
    (ex : Executor) : Executor → SliceOutcome → List Entry → Prop
  | idle (done : ex.runnable = false) (bytecode : ex.isEngine = false) :
      Round now limit patience left told ex ex .finished told.toList
  | external (engine : ex.isEngine = true) :
      Round now limit patience left told ex ex .external told.toList
  | ends {machine : Machine} {ran : Executor} {outcome : SliceOutcome}
      (bytecode : ex.runtime = .bytecode machine) (runnable : machine.runnable = true)
      (cycle : (ex.cycle machine now limit).value = (ran, .ends outcome)) :
      Round now limit patience left told ex ran outcome
        (told ++ (ex.cycle machine now limit).entries).toList
  | usedUp {machine : Machine} {ran : Executor} (bytecode : ex.runtime = .bytecode machine)
      (runnable : machine.runnable = true)
      (cycle : (ex.cycle machine now limit).value = (ran, .goesOn))
      (last : (!ran.thread.critical && left ≤ 1) = true) :
      Round now limit patience left told ex ran (if ran.runnable then .preempted else .finished)
        (told ++ (ex.cycle machine now limit).entries).toList
  | goesOn {machine : Machine} {mid ran : Executor} {outcome : SliceOutcome} {entries : List Entry}
      (bytecode : ex.runtime = .bytecode machine) (runnable : machine.runnable = true)
      (cycle : (ex.cycle machine now limit).value = (mid, .goesOn))
      (more : ¬ (!mid.thread.critical && left ≤ 1) = true)
      (rest : runCycles now limit patience (left - 1)
        (told ++ (ex.cycle machine now limit).entries) mid = some ⟨(ran, outcome), entries⟩) :
      Round now limit patience left told ex ran outcome entries

/-- What is run with bounds has a first round. -/
theorem round_of_runCycles {told : Array Entry} {patience left : Nat} {entries : List Entry}
    (runs : runCycles now limit (patience + 1) left told ex = some ⟨(ran, outcome), entries⟩) :
    Round now limit patience left told ex ran outcome entries := by
  unfold runCycles at runs
  cases runtime : ex.runtime with
  | unbound =>
    rw [runtime] at runs
    obtain ⟨⟨rfl, rfl⟩, rfl⟩ := by simpa using runs
    exact .idle (by simp [Executor.runnable, runtime]) (by simp [isEngine, runtime])
  | engine function finished =>
    rw [runtime] at runs
    obtain ⟨⟨rfl, rfl⟩, rfl⟩ := by simpa using runs
    exact .external (by simp [isEngine, runtime])
  | bytecode machine =>
    rw [runtime] at runs
    dsimp only at runs
    split at runs
    · next runnable =>
      cases cycle : (ex.cycle machine now limit).value with
      | mk next out =>
        rw [cycle] at runs
        cases out with
        | ends outcome =>
          obtain ⟨same, rfl⟩ := Logged.mk.inj (Option.some.inj runs)
          obtain ⟨rfl, rfl⟩ := Prod.mk.inj same
          exact .ends runtime runnable cycle
        | goesOn =>
          dsimp only at runs
          split at runs
          · next last =>
            obtain ⟨same, rfl⟩ := Logged.mk.inj (Option.some.inj runs)
            obtain ⟨rfl, rfl⟩ := Prod.mk.inj same
            exact .usedUp runtime runnable cycle last
          · next more => exact .goesOn runtime runnable cycle more runs
    · next done =>
      obtain ⟨⟨rfl, rfl⟩, rfl⟩ := by simpa using runs
      exact .idle (by simpa [Executor.runnable, runtime] using done) (by simp [isEngine, runtime])

/-- What is run with bounds on the number of instructions is a slice. -/
theorem slice_of_runCycles {told : Array Entry} {patience left : Nat} {entries : List Entry}
    (runs : runCycles now limit patience left told ex = some ⟨(ran, outcome), entries⟩) :
    Slice now limit ex ran outcome := by
  induction patience generalizing left told ex with
  | zero => exact absurd runs (by simp [runCycles])
  | succ patience ih =>
    cases round_of_runCycles runs with
    | idle done bytecode => exact .idle done bytecode
    | external engine => exact .external engine
    | ends bytecode runnable cycle => exact .ends bytecode runnable cycle
    | usedUp bytecode runnable cycle => exact .usedUp bytecode runnable cycle
    | goesOn bytecode runnable cycle _ rest => exact .goesOn bytecode runnable cycle (ih rest)

/-- A script that runs has a slice. -/
theorem Runs.slice {entries : List Entry} (runs : ex.Runs limit entries ran outcome) :
    ∃ now, Slice now limit ex ran outcome := by
  obtain ⟨now, patience, left, eq⟩ := runs
  exact ⟨now, slice_of_runCycles eq⟩

/-! ### What a slice records -/

end Executor

/-- All of a record was told to the log. -/
def Told (entries : List Entry) : Prop :=
  ∀ entry ∈ entries, ∃ notice, entry = .effect (.notice notice)

namespace Told

variable {entries more : List Entry}

/-- In an empty record there is nothing else. -/
theorem nil : Told [] := List.forall_mem_nil _

/-- Records one after the other. -/
theorem append (h₁ : Told entries) (h₂ : Told more) : Told (entries ++ more) :=
  List.forall_mem_append.mpr ⟨h₁, h₂⟩

/-- Notices are told to the log. -/
theorem tellAll (notices : List Notice) : Told (Logged.tellAll notices).entries := by
  intro entry mem
  obtain ⟨notice, -, rfl⟩ := List.mem_map.mp mem
  exact ⟨notice, rfl⟩

end Told

namespace Executor

variable {ex mid ran : Executor} {machine : Machine} {now : Nat} {limit : Option Nat}
  {outcome : SliceOutcome}

/-- An instruction only tells the log what it prints and that the script has run for long. -/
theorem told_cycle (ex : Executor) (machine : Machine) (now : Nat) (limit : Option Nat) :
    Told (ex.cycle machine now limit).entries := by
  unfold cycle
  simp only [Logged.bind_entries]
  refine (Told.tellAll _).append ?_
  split
  · exact .nil
  · split
    · exact .nil
    · unfold checkRunaway
      split
      · dsimp only
        split
        · exact .tellAll [_]
        · exact .nil
      · exact .nil

/-- A slice only tells the log. -/
theorem told_of_runCycles {told : Array Entry} {patience left : Nat} {entries : List Entry}
    (before : Told told.toList)
    (runs : runCycles now limit patience left told ex = some ⟨(ran, outcome), entries⟩) :
    Told entries := by
  induction patience generalizing left told ex with
  | zero => exact absurd runs (by simp [runCycles])
  | succ patience ih =>
    have after : ∀ machine, Told (told ++ (ex.cycle machine now limit).entries).toList := by
      intro machine
      rw [Array.toList_appendList]
      exact before.append (told_cycle ex machine now limit)
    cases round_of_runCycles runs with
    | idle | external => exact before
    | ends | usedUp => exact after _
    | goesOn _ _ _ _ rest => exact ih (after _) rest

/-- A script that runs only tells the log. -/
theorem Runs.told {entries : List Entry} (runs : ex.Runs limit entries ran outcome) :
    Told entries := by
  obtain ⟨now, patience, left, eq⟩ := runs
  exact told_of_runCycles .nil eq

/-! ### What an instruction leaves alone -/

/-- What a script keeps while it runs: its number, its program, its options, its links, its
requests and its place. -/
structure Carries (ex ran : Executor) : Prop where
  pid : ran.pid = ex.pid
  program : ran.program = ex.program
  options : ran.options = ex.options
  parent : ran.parent = ex.parent
  child : ran.child = ex.child
  requests : ran.requests = ex.requests
  sleepCycles : ran.sleepCycles = ex.sleepCycles
  isEngine : ran.isEngine = ex.isEngine
  holdList : ran.thread.holdList = ex.thread.holdList
  timer : ran.thread.timer = ex.thread.timer
  outstanding : ran.thread.outstanding = ex.thread.outstanding

namespace Carries

/-- A script keeps what it has. -/
theorem refl (ex : Executor) : Carries ex ex :=
  ⟨rfl, rfl, rfl, rfl, rfl, rfl, rfl, rfl, rfl, rfl, rfl⟩

/-- What is kept twice is kept. -/
theorem trans (h₁ : Carries ex mid) (h₂ : Carries mid ran) : Carries ex ran where
  pid := h₂.pid.trans h₁.pid
  program := h₂.program.trans h₁.program
  options := h₂.options.trans h₁.options
  parent := h₂.parent.trans h₁.parent
  child := h₂.child.trans h₁.child
  requests := h₂.requests.trans h₁.requests
  sleepCycles := h₂.sleepCycles.trans h₁.sleepCycles
  isEngine := h₂.isEngine.trans h₁.isEngine
  holdList := h₂.holdList.trans h₁.holdList
  timer := h₂.timer.trans h₁.timer
  outstanding := h₂.outstanding.trans h₁.outstanding

end Carries

/-- The machine of a script replaces itself. -/
theorem carries_afterExec (bytecode : ex.runtime = .bytecode machine) (done : Executed) :
    Carries ex (ex.afterExec done) :=
  { Carries.refl ex with isEngine := by unfold isEngine afterExec; rw [bytecode] }

/-- The suspension of a script changes neither its place nor its inbox. -/
theorem carries_suspend (ex : Executor) (wake : Nat) : Carries ex (ex.suspend wake) := by
  unfold suspend
  split
  · exact .refl ex
  · exact { Carries.refl ex with }

/-- The next event comes out of the queue of a thread. -/
theorem nextEvent_keeps (t : Thread) :
    t.nextEvent.2.holdList = t.holdList ∧ t.nextEvent.2.timer = t.timer ∧
      t.nextEvent.2.outstanding = t.outstanding ∧ t.nextEvent.2.blocked = t.blocked := by
  unfold Thread.nextEvent
  split
  · next inbox => exact ⟨rfl, rfl, by simp [Thread.outstanding, inbox], rfl⟩
  · exact ⟨rfl, rfl, rfl, rfl⟩

/-- What an instruction asks for leaves the place of the script alone. -/
theorem carries_applyStep (ex : Executor) (now : Nat) (step : Step) :
    Carries ex (ex.applyStep now step).1 := by
  cases step with
  | proceed => exact .refl ex
  | sleep ms => exact carries_suspend ex _
  | waitForEvent timeout =>
    unfold applyStep
    dsimp only
    split
    · next event thread next =>
      obtain ⟨holdList, timer, outstanding, -⟩ := nextEvent_keeps ex.thread
      rw [next] at holdList timer outstanding
      exact { Carries.refl ex with holdList, timer, outstanding }
    · split
      · exact .refl ex
      · exact { carries_suspend ex _ with }
  | halt =>
    unfold applyStep
    dsimp only
    split
    · exact .refl ex
    · exact { Carries.refl ex with }
  | exit value => exact { Carries.refl ex with }
  | fault cause => exact .refl ex

/-! ### One instruction -/

/-- The ways in which one instruction can end: it ends the slice itself, it blocks the script, or
the script goes on unless it has run for too long. -/
inductive Cycled (now : Nat) (step : Step) (ex : Executor) : Executor → CycleOutcome → Prop
  | ends {ran : Executor} {outcome : SliceOutcome}
      (applied : ex.applyStep now step = (ran, some outcome)) :
      Cycled now step ex ran (.ends outcome)
  | blocks {mid : Executor} (applied : ex.applyStep now step = (mid, none))
      (blocked : mid.isBlocked = true) : Cycled now step ex mid.resetRunaway (.ends .blocked)
  | goesOn {mid ran : Executor} (applied : ex.applyStep now step = (mid, none))
      (free : mid.isBlocked = false) (counted : ran = mid ∨ ran = mid.countRunaway) :
      Cycled now step ex ran .goesOn
  | runaway {mid : Executor} (applied : ex.applyStep now step = (mid, none))
      (free : mid.isBlocked = false) : Cycled now step ex mid.countRunaway (.ends .runaway)

/-- What running one instruction does. -/
theorem cycled (ex : Executor) (machine : Machine) (now : Nat) (limit : Option Nat) :
    Cycled now (machine.exec ex.stack).step (ex.afterExec (machine.exec ex.stack))
      (ex.cycle machine now limit).value.1 (ex.cycle machine now limit).value.2 := by
  unfold cycle
  simp only [Logged.bind_value]
  split
  · next ran outcome applied => exact .ends applied
  · next mid applied =>
    split
    · next blocked => exact .blocks applied blocked
    · next free =>
      have free : mid.isBlocked = false := by simpa using free
      unfold checkRunaway
      split
      · simp only
        split
        · simp only [Logged.bind_value]
          split
          · exact .runaway applied free
          · exact .goesOn applied free (.inr rfl)
        · simp only [Logged.pure_value]
          split
          · exact .runaway applied free
          · exact .goesOn applied free (.inr rfl)
      · exact .goesOn applied free (.inl rfl)

/-- An instruction leaves the place of the script alone. -/
theorem Cycled.carries {step : Step} {out : CycleOutcome} (h : Cycled now step ex ran out) :
    Carries ex ran := by
  have kept := carries_applyStep ex now step
  cases h with
  | ends applied => rwa [applied] at kept
  | blocks applied => rw [applied] at kept; exact { kept with }
  | goesOn applied _ counted =>
    rw [applied] at kept
    rcases counted with rfl | rfl
    · exact kept
    · exact { kept with }
  | runaway applied => rw [applied] at kept; exact { kept with }

/-- A script that runs an instruction of its machine. -/
theorem carries_cycle {out : CycleOutcome} (bytecode : ex.runtime = .bytecode machine)
    (cycle : (ex.cycle machine now limit).value = (ran, out)) : Carries ex ran := by
  have step := (cycled ex machine now limit).carries
  rw [cycle] at step
  exact (carries_afterExec bytecode _).trans step

/-- A slice leaves the place of the script alone. -/
theorem Slice.carries (h : Slice now limit ex ran outcome) : Carries ex ran := by
  induction h with
  | idle => exact .refl _
  | external => exact .refl _
  | ends bytecode _ cycle => exact carries_cycle bytecode cycle
  | usedUp bytecode _ cycle => exact carries_cycle bytecode cycle
  | goesOn bytecode _ cycle _ ih => exact (carries_cycle bytecode cycle).trans ih

/-- The thread of a script after an instruction is the one that the step of the instruction left. -/
theorem Cycled.thread {step : Step} {out : CycleOutcome} (h : Cycled now step ex ran out) :
    ran.thread = (ex.applyStep now step).1.thread := by
  cases h with
  | ends applied => rw [applied]
  | blocks applied => rw [applied]; rfl
  | goesOn applied _ counted =>
    rw [applied]
    rcases counted with rfl | rfl
    · rfl
    · rfl
  | runaway applied => rw [applied]; rfl

/-- What every step of an instruction keeps of a thread, a slice keeps. -/
theorem Slice.keeps_thread {P : Thread → Prop} (h : Slice now limit ex ran outcome)
    (step : ∀ (ex : Executor) (step : Step), P ex.thread → P (ex.applyStep now step).1.thread)
    (start : P ex.thread) : P ran.thread := by
  have cycles : ∀ {ex ran : Executor} {machine : Machine} {out : CycleOutcome},
      (ex.cycle machine now limit).value = (ran, out) → P ex.thread → P ran.thread := by
    intro ex ran machine out cycle start
    have after := (cycled ex machine now limit).thread
    rw [cycle] at after
    rw [after]
    exact step _ _ start
  induction h with
  | idle => exact start
  | external => exact start
  | ends _ _ cycle => exact cycles cycle start
  | usedUp _ _ cycle => exact cycles cycle start
  | goesOn _ _ cycle _ ih => exact ih (cycles cycle start)

/-! ### How slices end -/

/-- How the way in which a slice ends shows in the script. -/
def Ends (ex ran : Executor) : SliceOutcome → Prop
  | .preempted => ran.halted = ex.halted ∧ ran.isBlocked = false
  | .blocked => ran.halted = ex.halted ∧ ran.isBlocked = true
  | .halted => ran.halted = true
  | .external => ran = ex ∧ ex.isEngine = true
  | .finished | .faulted _ | .runaway => ran.halted = ex.halted

/-- An instruction that does not end the slice does not mark the script as halted. -/
theorem halted_applyStep {step : Step} (applied : ex.applyStep now step = (ran, none)) :
    ran.halted = ex.halted := by
  have suspended : ∀ wake, (ex.suspend wake).halted = ex.halted := by
    intro wake
    unfold suspend
    split <;> rfl
  cases step with
  | proceed => obtain ⟨rfl, -⟩ := Prod.mk.inj applied; rfl
  | sleep ms => obtain ⟨rfl, -⟩ := Prod.mk.inj applied; exact suspended _
  | waitForEvent timeout =>
    unfold applyStep at applied
    dsimp only at applied
    split at applied
    · obtain ⟨rfl, -⟩ := Prod.mk.inj applied
      rfl
    · split at applied
      · obtain ⟨rfl, -⟩ := Prod.mk.inj applied
        rfl
      · obtain ⟨rfl, -⟩ := Prod.mk.inj applied
        exact suspended _
  | halt =>
    unfold applyStep at applied
    dsimp only at applied
    split at applied
    · obtain ⟨rfl, -⟩ := Prod.mk.inj applied
      rfl
    · exact absurd applied (by simp)
  | exit value => exact absurd applied (by simp [applyStep])
  | fault cause => exact absurd applied (by simp [applyStep])

/-- An instruction that ends the slice halts the script or ends it. -/
theorem ends_applyStep {step : Step} (applied : ex.applyStep now step = (ran, some outcome)) :
    outcome = .halted ∧ ran.halted = true ∨
      (outcome = .finished ∨ ∃ cause, outcome = .faulted cause) ∧ ran.halted = ex.halted := by
  cases step with
  | proceed => exact absurd applied (by simp [applyStep])
  | sleep ms => exact absurd applied (by simp [applyStep])
  | waitForEvent timeout =>
    unfold applyStep at applied
    dsimp only at applied
    split at applied
    · exact absurd applied (by simp)
    · split at applied <;> exact absurd applied (by simp)
  | halt =>
    unfold applyStep at applied
    dsimp only at applied
    split at applied
    · exact absurd applied (by simp)
    · obtain ⟨rfl, eq⟩ := Prod.mk.inj applied
      exact .inl ⟨(Option.some.inj eq).symm, rfl⟩
  | exit value =>
    obtain ⟨rfl, eq⟩ := Prod.mk.inj applied
    exact .inr ⟨.inl (Option.some.inj eq).symm, rfl⟩
  | fault cause =>
    obtain ⟨rfl, eq⟩ := Prod.mk.inj applied
    exact .inr ⟨.inr ⟨cause, (Option.some.inj eq).symm⟩, rfl⟩

/-- Except on the engine, how a slice ends has to do with the flags of the script only. -/
theorem Ends.of_flags (h : Ends mid ran outcome) (bytecode : mid.isEngine = false)
    (halted : mid.halted = ex.halted) : Ends ex ran outcome := by
  cases outcome with
  | external =>
    have engine : mid.isEngine = true := h.2
    exact absurd engine (by simp [bytecode])
  | preempted => exact ⟨h.1.trans halted, h.2⟩
  | blocked => exact ⟨h.1.trans halted, h.2⟩
  | halted => exact h
  | finished => exact Eq.trans h halted
  | faulted cause => exact Eq.trans h halted
  | runaway => exact Eq.trans h halted

/-- A slice that an instruction ends. -/
theorem Cycled.ends_slice {step : Step} (h : Cycled now step ex ran (.ends outcome)) :
    Ends ex ran outcome := by
  cases h with
  | ends applied =>
    rcases ends_applyStep applied with ⟨rfl, halted⟩ | ⟨rfl | ⟨cause, rfl⟩, halted⟩
    · exact halted
    · exact halted
    · exact halted
  | blocks applied blocked =>
    have halted := halted_applyStep applied
    exact ⟨halted, blocked⟩
  | runaway applied =>
    have halted := halted_applyStep applied
    exact halted

/-- A script that goes on is neither halted nor blocked by its instruction. -/
theorem Cycled.goes_on {step : Step} (h : Cycled now step ex ran .goesOn) :
    ran.halted = ex.halted ∧ ran.isBlocked = false := by
  cases h with
  | goesOn applied free counted =>
    have halted := halted_applyStep applied
    rcases counted with rfl | rfl
    · exact ⟨halted, free⟩
    · exact ⟨halted, free⟩

/-- How a slice ends. -/
theorem Slice.ended (h : Slice now limit ex ran outcome) : Ends ex ran outcome := by
  induction h with
  | idle => exact rfl
  | external engine => exact ⟨rfl, engine⟩
  | @ends ex ran machine outcome _ _ cycle =>
    have step := cycled ex machine now limit
    rw [cycle] at step
    exact step.ends_slice.of_flags rfl rfl
  | @usedUp ex ran machine _ _ cycle =>
    have step := cycled ex machine now limit
    rw [cycle] at step
    obtain ⟨halted, free⟩ := step.goes_on
    split
    · exact ⟨halted, free⟩
    · exact halted
  | @goesOn ex mid ran machine outcome bytecode _ cycle _ ih =>
    have step := cycled ex machine now limit
    rw [cycle] at step
    refine ih.of_flags ?_ step.goes_on.1
    rw [(carries_cycle bytecode cycle).isEngine]
    simp [isEngine, bytecode]

/-- Engine scripts only ever go to the engine, and they go there as they are. -/
theorem Slice.of_isEngine (h : Slice now limit ex ran outcome) (engine : ex.isEngine = true) :
    outcome = .external ∧ ran = ex := by
  cases h with
  | idle _ bytecode => exact absurd engine (by simp [bytecode])
  | external => exact ⟨rfl, rfl⟩
  | ends bytecode => exact absurd engine (by simp [isEngine, bytecode])
  | usedUp bytecode => exact absurd engine (by simp [isEngine, bytecode])
  | goesOn bytecode => exact absurd engine (by simp [isEngine, bytecode])

/-- Only engine scripts go to the engine. -/
theorem Slice.isEngine (h : Slice now limit ex ran .external) : ex.isEngine = true := by
  generalize goal : SliceOutcome.external = outcome at h
  induction h with
  | idle => exact absurd goal (by simp)
  | external engine => exact engine
  | @ends ex ran machine outcome _ _ cycle =>
    have step := cycled ex machine now limit
    rw [cycle, ← goal] at step
    cases step with
    | ends applied =>
      rcases ends_applyStep applied with ⟨eq, -⟩ | ⟨eq | ⟨cause, eq⟩, -⟩
      · exact absurd eq (by simp)
      · exact absurd eq (by simp)
      · exact absurd eq (by simp)
  | usedUp => split at goal <;> exact absurd goal (by simp)
  | goesOn bytecode _ cycle _ ih =>
    have engine := ih goal
    rw [(carries_cycle bytecode cycle).isEngine] at engine
    exact engine

end Executor

end ScriptScheduler
