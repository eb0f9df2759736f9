import ScriptScheduler.Proofs.Chains

/-!
# Accepted programs

A program becomes a script just if it is bytecode with a listing that is not empty and whose jumps
end at most just behind it, or if it is for the engine, there is one and the code names a module.
The machine of an accepted listing stays within it, whatever its stack holds before each
instruction, never fails for a jump, and does not run on after it has exited or failed
(`Machine.Safe`). The machines of all live scripts have come about in this way
(`Scheduler.launchesSafely`).
-/

namespace ScriptScheduler

/-! ### Listings -/

/-- The jumps of a listing end at most just behind it. -/
def JumpsWithin (listing : List Instr) : Prop :=
  ∀ target, .jump target ∈ listing ∨ .jumpIfFalse target ∈ listing → target.toNat ≤ listing.length

/-- A program that can become a script where there is an engine or none. -/
def Program.Acceptable (program : Program) (engine : Option Engine) : Prop :=
  (program.type = .bytecode ∧ ∃ listing, program.code = .instructions listing ∧ listing ≠ [] ∧
    JumpsWithin listing) ∨
  (program.type = .engine ∧ engine.isSome = true ∧ ∃ function, program.code = .function function ∧
    function.module ≠ "")

/-- The instructions that may jump. -/
theorem Instr.target?_eq_some {instr : Instr} {target : UInt64} :
    instr.target? = some target ↔ instr = .jump target ∨ instr = .jumpIfFalse target := by
  cases instr <;> simp [Instr.target?]

/-- Whether an instruction is the last one to run. -/
def Step.isLast : Step → Bool
  | .exit _ | .fault _ => true
  | _ => false

namespace Machine

variable {listing : List Instr} {m loaded : Machine} {program : Program}

/-- No instruction is found to jump too far just if none jumps too far. -/
theorem firstBadJump?_eq_none (size : Nat) (listing : List Instr) :
    ∀ index, firstBadJump? size index listing = none ↔
      ∀ instr ∈ listing, ∀ target, instr.target? = some target → target.toNat ≤ size := by
  induction listing with
  | nil => simp [firstBadJump?]
  | cons instr rest ih =>
    intro index
    unfold firstBadJump?
    rw [List.forall_mem_cons]
    cases jumps : instr.target? with
    | none => simp [ih]
    | some target =>
      dsimp only
      split
      · next far =>
        have not : ¬ target.toNat ≤ size := Nat.not_le_of_lt far
        simp [not]
      · next near => simp [ih, Nat.le_of_not_lt near]

/-- A machine is loaded just from a listing with its jumps within. -/
theorem load_eq_ok : load program = .ok loaded ↔
    ∃ listing, program.code = .instructions listing ∧ JumpsWithin listing ∧
      loaded = ⟨listing, 0, false⟩ := by
  unfold load
  cases program.code with
  | function => simp
  | instructions listing =>
    have within : firstBadJump? listing.length 0 listing = none ↔ JumpsWithin listing := by
      rw [firstBadJump?_eq_none]
      simp only [Instr.target?_eq_some]
      constructor
      · rintro h target (mem | mem)
        · exact h _ mem target (.inl rfl)
        · exact h _ mem target (.inr rfl)
      · rintro h instr mem target (rfl | rfl)
        · exact h target (.inl mem)
        · exact h target (.inr mem)
    dsimp only
    cases bad : firstBadJump? listing.length 0 listing with
    | none => simp [← within, bad, eq_comm]
    | some => simp [← within, bad]

/-! ### Runs of a machine -/

/-- A machine after instructions, each of them on a stack of any contents. -/
def after (m : Machine) : List (List Val) → Machine
  | [] => m
  | stack :: rest => (m.exec stack).machine.after rest

/-- A machine may run for a while and then go on. -/
theorem after_append (m : Machine) (offered more : List (List Val)) :
    m.after (offered ++ more) = (m.after offered).after more := by
  induction offered generalizing m with
  | nil => rfl
  | cons stack rest ih => exact ih _

/-- The reasons for which an instruction fails: it adds to the top of the stack and there is no
integer or the sum is out of range, or it is there to fail. -/
inductive FailsFor (m : Machine) (stack : List Val) : Fault → Prop
  | overflow {n amount : Int64} (instr : m.listing[m.pc.toNat]? = some (.incr amount))
      (top : stack.head? = some (.long n)) (far : signedWord? (n.toInt + amount.toInt) = none) :
      FailsFor m stack (.overflow n amount)
  | notIncrementable {amount : Int64} (instr : m.listing[m.pc.toNat]? = some (.incr amount))
      (top : ∀ n, stack.head? ≠ some (.long n)) : FailsFor m stack (.notIncrementable stack.head?)
  | raised {message : String} (instr : m.listing[m.pc.toNat]? = some (.fail message)) :
      FailsFor m stack (.raised message)

/-- A machine that keeps to a listing: its next instruction is there or just behind it. -/
structure Keeps (m : Machine) (listing : List Instr) : Prop where
  whole : m.listing = listing
  pc : m.pc.toNat ≤ listing.length

/-- A machine that has not run yet keeps to its listing. -/
theorem keeps_load (loads : load program = .ok loaded) :
    ∃ listing, program.code = .instructions listing ∧ JumpsWithin listing ∧
      loaded.Keeps listing := by
  obtain ⟨listing, code, within, rfl⟩ := load_eq_ok.mp loads
  exact ⟨listing, code, within, rfl, Nat.zero_le _⟩

namespace Keeps

variable {stack : List Val} {instr : Instr}

/-- A machine that stops keeps to its listing. -/
theorem stop (keeps : m.Keeps listing) : m.stop.Keeps listing := ⟨keeps.whole, keeps.pc⟩

/-- The next position is at most just behind the listing. -/
theorem next (keeps : m.Keeps listing) (here : m.listing[m.pc.toNat]? = some instr) :
    { m with pc := m.pc + 1 }.Keeps listing where
  whole := keeps.whole
  pc := by
    have inside : m.pc.toNat < listing.length := by
      rw [← keeps.whole]
      exact (List.getElem?_eq_some_iff.mp here).1
    have next : (m.pc + 1).toNat ≤ m.pc.toNat + 1 := by
      rw [UInt64.toNat_add]
      exact Nat.mod_le _ _
    exact Nat.le_trans next inside

/-- A jump within the listing succeeds. -/
theorem jumpTo (keeps : m.Keeps listing) {target : UInt64} (within : target.toNat ≤ listing.length) :
    m.jumpTo target = ({ m with pc := target }, .proceed) :=
  if_neg (Nat.not_lt_of_le (keeps.whole ▸ within))

/-- An addition leaves the machine within. -/
theorem increment (keeps : m.Keeps listing) (amount : Int64) (stack : List Val) :
    (m.increment amount stack).machine.Keeps listing := by
  unfold Machine.increment
  split
  · split
    · exact keeps
    · exact keeps.stop
  · exact keeps.stop

/-- An instruction of a listing with its jumps within leaves the machine within. -/
theorem execute (keeps : m.Keeps listing) (within : JumpsWithin listing) (mem : instr ∈ listing)
    (stack : List Val) : (m.execute stack instr).machine.Keeps listing := by
  have jumps : ∀ target, .jump target ∈ listing ∨ .jumpIfFalse target ∈ listing →
      (m.jumpTo target).1.Keeps listing := by
    intro target jump
    rw [keeps.jumpTo (within target jump)]
    exact ⟨keeps.whole, within target jump⟩
  cases instr with
  | incr amount => exact keeps.increment amount stack
  | jump target => exact jumps target (.inl mem)
  | jumpIfFalse target =>
    simp only [Machine.execute]
    split
    · exact keeps
    · exact jumps target (.inr mem)
  | fail | ret => exact keeps.stop
  | push | pop | dup | sleep | waitForEvent | print | breakpoint => exact keeps

/-- A machine keeps to a listing with its jumps within. -/
theorem exec (keeps : m.Keeps listing) (within : JumpsWithin listing) (stack : List Val) :
    (m.exec stack).machine.Keeps listing := by
  unfold Machine.exec
  split
  · exact keeps.stop
  · next instr here =>
    have mem : instr ∈ listing := keeps.whole ▸ List.mem_of_getElem? here
    exact (keeps.next here).execute within mem stack

/-- A machine keeps to a listing with its jumps within, however long it runs. -/
theorem after (keeps : m.Keeps listing) (within : JumpsWithin listing) (offered : List (List Val)) :
    (m.after offered).Keeps listing := by
  induction offered generalizing m with
  | nil => exact keeps
  | cons stack rest ih => exact ih (keeps.exec within stack)

end Keeps

/-- An addition fails just if there is no integer or the sum is out of range. -/
theorem increment_eq_fault {amount : Int64} {stack : List Val} {cause : Fault} :
    (m.increment amount stack).step = .fault cause ↔
      (∃ n, stack.head? = some (.long n) ∧ signedWord? (n.toInt + amount.toInt) = none ∧
        cause = .overflow n amount) ∨
      (∀ n, stack.head? ≠ some (.long n)) ∧ cause = .notIncrementable stack.head? := by
  unfold increment
  split
  · next n rest =>
    cases sum : signedWord? (n.toInt + amount.toInt) <;> simp [sum, eq_comm]
  · next other =>
    have top : ∀ n, stack.head? ≠ some (.long n) := by
      intro n top
      obtain ⟨rest, same⟩ := List.head?_eq_some_iff.mp top
      exact other n rest same
    simp [top, eq_comm]

/-- The reasons for which the instruction that is next fails. -/
theorem failsFor_iff {stack : List Val} {cause : Fault} {instr : Instr}
    (here : m.listing[m.pc.toNat]? = some instr) :
    m.FailsFor stack cause ↔
      (∃ amount, instr = .incr amount ∧ ((∃ n, stack.head? = some (.long n) ∧
          signedWord? (n.toInt + amount.toInt) = none ∧ cause = .overflow n amount) ∨
        (∀ n, stack.head? ≠ some (.long n)) ∧ cause = .notIncrementable stack.head?)) ∨
      ∃ message, instr = .fail message ∧ cause = .raised message := by
  constructor
  · intro fails
    cases fails with
    | overflow there top far =>
      exact .inl ⟨_, Option.some.inj (here.symm.trans there), .inl ⟨_, top, far, rfl⟩⟩
    | notIncrementable there top =>
      exact .inl ⟨_, Option.some.inj (here.symm.trans there), .inr ⟨top, rfl⟩⟩
    | raised there => exact .inr ⟨_, Option.some.inj (here.symm.trans there), rfl⟩
  · rintro (⟨amount, rfl, ⟨n, top, far, rfl⟩ | ⟨top, rfl⟩⟩ | ⟨message, rfl, rfl⟩)
    · exact .overflow here top far
    · exact .notIncrementable here top
    · exact .raised here

/-- A machine in a listing with its jumps within fails for the known reasons only. -/
theorem Keeps.exec_eq_fault (keeps : m.Keeps listing) (within : JumpsWithin listing)
    {stack : List Val} {cause : Fault} :
    (m.exec stack).step = .fault cause ↔ m.FailsFor stack cause := by
  unfold Machine.exec
  split
  · next behind =>
    refine ⟨fun exits => absurd exits (by simp), fun fails => ?_⟩
    cases fails with
    | overflow here | notIncrementable here | raised here =>
      exact absurd (behind.symm.trans here) (by simp)
  · next instr here =>
    have mem : instr ∈ listing := keeps.whole ▸ List.mem_of_getElem? here
    have jumps : ∀ target, .jump target ∈ listing ∨ .jumpIfFalse target ∈ listing →
        ({ m with pc := m.pc + 1 }.jumpTo target).2 = .proceed := fun target jump => by
      rw [(keeps.next here).jumpTo (within target jump)]
    rw [failsFor_iff here]
    cases instr with
    | incr amount =>
      change ({ m with pc := m.pc + 1 }.increment amount stack).step = .fault cause ↔ _
      simp [increment_eq_fault]
    | jump target => simp [Machine.execute, jumps target (.inl mem)]
    | jumpIfFalse target =>
      simp only [Machine.execute]
      split
      · simp
      · simp [jumps target (.inr mem)]
    | fail => simp [Machine.execute, eq_comm]
    | ret | push | pop | dup | sleep | waitForEvent | print | breakpoint => simp [Machine.execute]

/-- A jump stops the machine just if it fails. -/
theorem done_jumpTo (m : Machine) (target : UInt64) :
    (m.jumpTo target).1.done = (m.done || (m.jumpTo target).2.isLast) := by
  unfold jumpTo
  split <;> simp [stop, Step.isLast]

/-- An addition stops the machine just if it fails. -/
theorem done_increment (m : Machine) (amount : Int64) (stack : List Val) :
    (m.increment amount stack).machine.done =
      (m.done || (m.increment amount stack).step.isLast) := by
  unfold increment
  split
  · split <;> simp [stop, Step.isLast]
  · simp [stop, Step.isLast]

/-- An instruction stops the machine just if it is the last one to run. -/
theorem done_exec (m : Machine) (stack : List Val) :
    (m.exec stack).machine.done = (m.done || (m.exec stack).step.isLast) := by
  unfold exec
  split
  · simp [stop, Step.isLast]
  · next instr here =>
    cases instr with
    | incr amount => exact done_increment { m with pc := m.pc + 1 } amount stack
    | jump target => exact done_jumpTo { m with pc := m.pc + 1 } target
    | jumpIfFalse target =>
      simp only [execute]
      split
      · simp [Step.isLast]
      · exact done_jumpTo { m with pc := m.pc + 1 } target
    | fail | ret | push | pop | dup | sleep | waitForEvent | print | breakpoint =>
      simp [execute, stop, Step.isLast]

/-- A machine that has stopped does not go on. -/
theorem done_after (offered : List (List Val)) (done : m.done = true) :
    (m.after offered).done = true := by
  induction offered generalizing m with
  | nil => exact done
  | cons stack rest ih => exact ih (by rw [done_exec, done, Bool.true_or])

/-! ### Safe machines -/

/-- However long a machine runs on a listing, and whatever its stack holds before each instruction:
it does not leave the listing, it fails for the known reasons only, none of which is a jump, and
after it has exited or failed it has nothing left to run. -/
structure Safe (m : Machine) (listing : List Instr) : Prop where
  keeps : ∀ offered, (m.after offered).Keeps listing
  fails : ∀ offered stack cause,
    ((m.after offered).exec stack).step = .fault cause ↔ (m.after offered).FailsFor stack cause
  stops : ∀ offered stack more, ((m.after offered).exec stack).step.isLast = true →
    (((m.after offered).exec stack).machine.after more).runnable = false

/-- A machine that keeps to a listing with its jumps within is safe. -/
theorem Keeps.safe (keeps : m.Keeps listing) (within : JumpsWithin listing) : m.Safe listing where
  keeps offered := keeps.after within offered
  fails offered _ _ := (keeps.after within offered).exec_eq_fault within
  stops offered stack more last := by
    have done : ((m.after offered).exec stack).machine.done = true := by
      rw [done_exec, last, Bool.or_true]
    unfold runnable
    rw [done_after more done]
    rfl

end Machine

/-! ### Machines of programs -/

/-- A machine of a program: it was loaded from the program and has run since. -/
def Program.Drives (program : Program) (machine : Machine) : Prop :=
  ∃ loaded offered, Machine.load program = .ok loaded ∧ machine = loaded.after offered

section Drives

variable {program : Program} {machine : Machine}

/-- A machine of a program remains one when it runs an instruction. -/
theorem Program.Drives.exec (drives : program.Drives machine) (stack : List Val) :
    program.Drives (machine.exec stack).machine := by
  obtain ⟨loaded, offered, loads, rfl⟩ := drives
  exact ⟨loaded, offered ++ [stack], loads, (loaded.after_append offered [stack]).symm⟩

/-- A machine of a program keeps to the program's listing. -/
theorem Program.Drives.keeps (drives : program.Drives machine) :
    ∃ listing, program.code = .instructions listing ∧ JumpsWithin listing ∧
      machine.Keeps listing := by
  obtain ⟨loaded, offered, loads, rfl⟩ := drives
  obtain ⟨listing, code, within, keeps⟩ := Machine.keeps_load loads
  exact ⟨listing, code, within, keeps.after within offered⟩

end Drives

namespace Executor

variable {ex ran a b : Executor} {machine : Machine} {now : Nat} {limit : Option Nat}
  {outcome : SliceOutcome} {gone : Pid → Prop} {wrapped : Prop}

/-- The machine of a bytecode script is a machine of its program. -/
def OnCourse (ex : Executor) : Prop :=
  ∀ machine, ex.runtime = .bytecode machine → ∃ program, ex.program = some program ∧
    program.Drives machine

/-- What an instruction asks for leaves the machine alone. -/
theorem runtime_applyStep (ex : Executor) (now : Nat) (step : Step) :
    (ex.applyStep now step).1.runtime = ex.runtime := by
  have suspended : ∀ wake, (ex.suspend wake).runtime = ex.runtime := by
    intro wake
    unfold suspend
    split <;> rfl
  cases step with
  | proceed | exit | fault => rfl
  | sleep ms => exact suspended _
  | waitForEvent timeout =>
    unfold applyStep
    dsimp only
    split
    · rfl
    · split
      · rfl
      · exact suspended _
  | halt =>
    unfold applyStep
    dsimp only
    split <;> rfl

/-- What a machine asks for when a slice ends because of it. -/
theorem step_of_applyStep {step : Step} (applied : ex.applyStep now step = (ran, some outcome)) :
    (outcome = .finished → step.isLast = true) ∧
      ∀ cause, outcome = .faulted cause → step = .fault cause := by
  unfold applyStep at applied
  split at applied
  · simp at applied
  · simp at applied
  · split at applied
    · simp at applied
    · split at applied <;> simp at applied
  · split at applied
    · simp at applied
    · obtain ⟨-, rfl⟩ : _ ∧ SliceOutcome.halted = outcome := by simpa using applied
      simp
  · exact ⟨fun _ => rfl, fun cause faulted => by simp [faulted] at applied⟩
  · next cause =>
    obtain ⟨-, rfl⟩ : _ ∧ SliceOutcome.faulted cause = outcome := by simpa using applied
    simp

/-- A cycle runs one instruction of the machine. -/
theorem runtime_cycle {out : CycleOutcome}
    (cycle : (ex.cycle machine now limit).value = (ran, out)) :
    ran.runtime = .bytecode (machine.exec ex.stack).machine := by
  have cycled := cycled ex machine now limit
  rw [cycle] at cycled
  have same := (ex.afterExec (machine.exec ex.stack)).runtime_applyStep now
    (machine.exec ex.stack).step
  cases cycled with
  | ends applied | blocks applied | runaway applied => rwa [applied] at same
  | goesOn applied _ counted =>
    rw [applied] at same
    rcases counted with rfl | rfl <;> exact same

/-- What the machine asks for in the cycle with which a slice ends. -/
theorem step_of_cycle (cycle : (ex.cycle machine now limit).value = (ran, .ends outcome)) :
    (outcome = .finished → (machine.exec ex.stack).step.isLast = true) ∧
      ∀ cause, outcome = .faulted cause → (machine.exec ex.stack).step = .fault cause := by
  have cycled := cycled ex machine now limit
  rw [cycle] at cycled
  cases cycled with
  | ends applied => exact step_of_applyStep applied
  | blocks | runaway => simp

/-- A script remains on its course in a cycle. -/
theorem OnCourse.cycle (course : ex.OnCourse) {out : CycleOutcome}
    (bytecode : ex.runtime = .bytecode machine)
    (cycle : (ex.cycle machine now limit).value = (ran, out)) : ran.OnCourse := by
  obtain ⟨program, bound, drives⟩ := course machine bytecode
  intro next runs
  obtain rfl := Runtime.bytecode.inj ((runtime_cycle cycle).symm.trans runs)
  exact ⟨program, (carries_cycle bytecode cycle).program.trans bound, drives.exec ex.stack⟩

/-- How a slice ends: the script is on its course, it has not failed for a jump, and if it has
exited or failed it has nothing left to run. -/
structure EndsSafely (ran : Executor) (outcome : SliceOutcome) : Prop where
  course : ran.OnCourse
  jumps : ∀ target, outcome ≠ .faulted (.jumpOutOfRange target)
  stops : (outcome = .finished ∨ ∃ cause, outcome = .faulted cause) → ran.runnable = false

/-- A slice that ends with a cycle ends safely. -/
theorem OnCourse.ends (course : ex.OnCourse) (bytecode : ex.runtime = .bytecode machine)
    (cycle : (ex.cycle machine now limit).value = (ran, .ends outcome)) :
    ran.EndsSafely outcome := by
  obtain ⟨program, -, drives⟩ := course machine bytecode
  obtain ⟨listing, -, within, keeps⟩ := drives.keeps
  obtain ⟨exits, fails⟩ := step_of_cycle cycle
  constructor
  case course => exact course.cycle bytecode cycle
  case jumps =>
    rintro target rfl
    cases (keeps.exec_eq_fault within).mp (fails _ rfl)
  case stops =>
    intro ended
    have last : (machine.exec ex.stack).step.isLast = true := by
      rcases ended with finished | ⟨cause, faulted⟩
      · exact exits finished
      · rw [fails cause faulted]
        rfl
    have done : (machine.exec ex.stack).machine.done = true := by
      rw [machine.done_exec, last, Bool.or_true]
    unfold runnable
    rw [runtime_cycle cycle]
    dsimp only
    unfold Machine.runnable
    rw [done]
    rfl

/-- Slices end safely. -/
theorem Slice.endsSafely (slice : Slice now limit ex ran outcome) (course : ex.OnCourse) :
    ran.EndsSafely outcome := by
  induction slice with
  | idle done => exact ⟨course, by simp, fun _ => done⟩
  | external => exact ⟨course, by simp, by simp⟩
  | ends bytecode _ cycle => exact course.ends bytecode cycle
  | @usedUp ex ran machine bytecode _ cycle =>
    refine ⟨course.cycle bytecode cycle, ?_, ?_⟩
    · split <;> simp
    · split
      · simp
      · next idle => exact fun _ => Bool.eq_false_iff.mpr idle
  | goesOn bytecode _ cycle _ ih => exact ih (course.cycle bytecode cycle)

/-- The machine of a script changes in its turns only. -/
theorem Change.runtime (change : Change gone wrapped a b) :
    b.runtime = a.runtime ∨
      ∃ now limit ran outcome, Slice now limit a ran outcome ∧ b.runtime = ran.runtime := by
  have suspended : ∀ (ex : Executor) wake, (ex.suspend wake).runtime = ex.runtime := by
    intro ex wake
    unfold suspend
    split <;> rfl
  cases change with
  | preempted _ slice | slept _ slice | stopped _ slice => exact .inr ⟨_, _, _, _, slice, rfl⟩
  | answered _ value =>
    refine .inl ?_
    unfold Executor.answered
    split <;> rfl
  | requested _ _ wake =>
    refine .inl (Eq.trans ?_ (suspended a wake))
    change (a.suspend wake).openResultSlot.runtime = _
    unfold openResultSlot
    split <;> rfl
  | awaited _ child =>
    have same := suspended ({ a with child := some child }.push .sentinel) Clock.never
    exact .inl same
  | called | queued | woken | timedOut | resumed | orphaned | halted | releasedBlocked | released
  | takenBack => exact .inl rfl

/-- Scripts remain on their course in all changes. -/
theorem Change.onCourse (change : Change gone wrapped a b) (course : a.OnCourse) : b.OnCourse := by
  have program : b.program = a.program := change.program.1
  intro machine runs
  rw [program]
  rcases change.runtime with same | ⟨now, limit, ran, outcome, slice, same⟩
  · exact course machine (same ▸ runs)
  · obtain ⟨program, bound, drives⟩ := (slice.endsSafely course).course machine (same ▸ runs)
    exact ⟨program, slice.carries.program ▸ bound, drives⟩

end Executor

/-! ### Launches -/

namespace Scheduler

variable {s : Scheduler} {program : Program} {options : Options}

/-- A program has code just if its listing has instructions or its module has a name. -/
theorem hasCode_iff : program.hasCode = true ↔
    (∃ listing, program.code = .instructions listing ∧ listing ≠ []) ∨
      ∃ function, program.code = .function function ∧ function.module ≠ "" := by
  unfold Program.hasCode
  cases program.code <;> simp

/-- A runtime is bound to a program just if it is bytecode that can be loaded, or if it is for the
engine and names a function. -/
theorem bindRuntime_isOk : (∃ bound, Executor.bindRuntime options program = .ok bound) ↔
    (program.type = .bytecode ∧ ∃ machine, Machine.load program = .ok machine) ∨
      (program.type = .engine ∧ ∃ function, program.code = .function function) := by
  unfold Executor.bindRuntime
  cases type : program.type with
  | bytecode => cases load : Machine.load program <;> simp
  | engine =>
    unfold Program.function?
    cases code : program.code <;> simp
  | unknown => simp

/-- A script is prepared just for an acceptable program. -/
theorem prepare_isOk : (∃ ex, s.prepare program options = .ok ex) ↔ program.Acceptable s.engine := by
  have bound : (∃ ex, s.prepare program options = .ok ex) ↔ program.hasCode = true ∧
      ¬ (program.type = .engine ∧ s.engine.isNone = true) ∧
        ∃ bound, Executor.bindRuntime options program = .ok bound := by
    unfold prepare Executor.setProgram
    dsimp only [Executor.new]
    cases program.hasCode with
    | false => simp
    | true =>
      by_cases absent : program.type = .engine ∧ s.engine = none
      · simp [absent]
      · cases Executor.bindRuntime options program <;> simp [absent]
  rw [bound, hasCode_iff, bindRuntime_isOk]
  unfold Program.Acceptable
  simp only [Machine.load_eq_ok]
  cases type : program.type <;> cases code : program.code <;>
    simp [Option.isSome_iff_ne_none, and_comm]

/-- A script is launched just for an acceptable program. -/
theorem startScriptWith_isOk :
    (∃ ran, s.startScriptWith program options = .ok ran) ↔ program.Acceptable s.engine := by
  have prepares : (∃ ex, s.prepare program options = .ok ex) ↔ program.Acceptable s.engine :=
    s.prepare_isOk
  rw [← prepares]
  unfold startScriptWith
  cases s.prepare program options <;> simp

end Scheduler

open Scheduler

/-- A script that is launched is at the start of its course. -/
theorem Executor.Launched.onCourse {ex : Executor} (launched : ex.Launched) : ex.OnCourse := by
  obtain ⟨s, program, options, new, parent, prepared, rfl⟩ := launched
  obtain ⟨runtime, thread, bound, rfl⟩ := prepare_eq prepared
  intro machine runs
  obtain rfl : runtime = .bytecode machine := runs
  refine ⟨program, rfl, machine, [], ?_, rfl⟩
  unfold Executor.bindRuntime at bound
  split at bound
  · split at bound
    · next loads =>
      obtain ⟨rfl, -⟩ : _ = machine ∧ _ := by simpa using bound
      exact loads
    · exact absurd bound (by simp)
  · split at bound <;> exact absurd bound (by simp)
  · exact absurd bound (by simp)

/-- In every reachable state the scripts are on their course. -/
theorem Reachable.onCourse {config : SchedulerConfig} {engine : Option Engine} {s : Scheduler}
    (reached : Reachable config engine s) {pid : Pid} {ex : Executor}
    (found : s.get? pid = some ex) : ex.OnCourse := by
  refine reached.scripts (P := Executor.OnCourse) (fun unused => absurd trivial unused)
    (fun _ => Executor.Launched.onCourse) (fun _ _ _ => Executor.Change.onCourse) ?_ found
  intro ex edit course
  cases edit <;> exact course

/-! ### Programs and schedulers -/

/-- A scheduler launches exactly the acceptable programs. The machine of such a bytecode program is
safe, the scripts of the program have no other machines, and their slices end safely. -/
structure Scheduler.LaunchesSafely (s : Scheduler) (program : Program) : Prop where
  accepts : (∃ ran, s.startScript program = .ok ran) ↔ program.Acceptable s.engine
  acceptsWith : ∀ options,
    (∃ ran, s.startScriptWith program options = .ok ran) ↔ program.Acceptable s.engine
  safe : program.Acceptable s.engine → program.type = .bytecode →
    ∃ listing machine, program.code = .instructions listing ∧
      Machine.load program = .ok machine ∧ machine.Safe listing
  /-- Wherever a script of the program is live, its machine has come from the program. -/
  drives : ∀ config engine t, Reachable config engine t → ∀ pid ex machine, t.get? pid = some ex →
    ex.program = some program → ex.runtime = .bytecode machine → program.Drives machine
  slices : ∀ config engine t, Reachable config engine t → ∀ pid ex now limit ran outcome,
    t.get? pid = some ex → ex.Slice now limit ran outcome → ran.EndsSafely outcome

/-- All schedulers launch all programs safely. -/
theorem Scheduler.launchesSafely (s : Scheduler) (program : Program) :
    s.LaunchesSafely program := by
  constructor
  case accepts => exact startScriptWith_isOk
  case acceptsWith => exact fun options => startScriptWith_isOk
  case safe =>
    rintro (⟨-, listing, code, -, within⟩ | ⟨type, -⟩) bytecode
    · have loads := Machine.load_eq_ok.mpr ⟨listing, code, within, rfl⟩
      have keeps : Machine.Keeps ⟨listing, 0, false⟩ listing := ⟨rfl, Nat.zero_le _⟩
      exact ⟨listing, _, code, loads, keeps.safe within⟩
    · exact absurd (type.symm.trans bytecode) (by decide)
  case drives =>
    intro config engine t reached pid ex machine found bound runs
    obtain ⟨other, same, drives⟩ := reached.onCourse found machine runs
    obtain rfl := Option.some.inj (bound.symm.trans same)
    exact drives
  case slices =>
    intro config engine t reached pid ex now limit ran outcome found slice
    exact slice.endsSafely (reached.onCourse found)

/-- A jump to just behind the listing is accepted, one beyond is not, and a program for the engine
is not accepted where there is none. -/
theorem launchesSafely_skipping : ∃ ran,
    (Scheduler.empty {} none).startScript (.bytecode "skip" [.jumpIfFalse 2, .fail "unset"]) =
        .ok ran ∧
      (¬ ∃ ran, (Scheduler.empty {} none).startScript (.bytecode "leap" [.jumpIfFalse 2]) =
        .ok ran) ∧
      ¬ ∃ ran, (Scheduler.empty {} none).startScript (.engine "keeper" "shop") = .ok ran := by
  have legal := (Scheduler.empty {} none).launchesSafely
    (.bytecode "skip" [.jumpIfFalse 2, .fail "unset"])
  have beyond := (Scheduler.empty {} none).launchesSafely (.bytecode "leap" [.jumpIfFalse 2])
  have lost := (Scheduler.empty {} none).launchesSafely (.engine "keeper" "shop")
  obtain ⟨ran, started⟩ := legal.accepts.mpr
    (.inl ⟨rfl, _, rfl, List.cons_ne_nil _ _, by simp [JumpsWithin]⟩)
  refine ⟨ran, started, fun launched => ?_, fun launched => ?_⟩
  · rcases beyond.accepts.mp launched with ⟨-, listing, code, -, within⟩ | ⟨type, -⟩
    · obtain rfl := Code.instructions.inj code
      exact absurd (within 2 (.inr List.mem_cons_self)) (by decide)
    · exact absurd type (by decide)
  · rcases lost.accepts.mp launched with ⟨type, -⟩ | ⟨-, there, -⟩
    · exact absurd type (by decide)
    · exact absurd there (by decide)

end ScriptScheduler
