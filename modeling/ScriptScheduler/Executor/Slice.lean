import ScriptScheduler.Executor.Basic

/-!
# Slices

A script runs in slices. A slice ends when the script blocks, halts, exits or fails, when it has
run without blocking for too long, or when it has used up its instructions. A critical script is
not bound to the length of its slice; it keeps running until one of the other ends comes, which
may be never. A caller therefore says how many instructions of a critical script it waits for.
-/

namespace ScriptScheduler

/-- How a slice ended. -/
inductive SliceOutcome where
  | preempted
  | blocked
  | halted
  | finished
  | faulted (cause : Fault)
  | runaway
  /-- The script runs on the engine. -/
  | external

/-- Where a script stands after one instruction. -/
inductive CycleOutcome where
  | goesOn
  | ends (outcome : SliceOutcome)

namespace Executor

/-- How many cycles lie between two runaway warnings. -/
def runawayStep (ex : Executor) : Nat := max 1 ex.options.runawayThreshold

/-! ### One instruction -/

/-- Does what an instruction asks of its script. The second part is there if the slice ends with
it. -/
def applyStep (ex : Executor) (now : Nat) : Step → Executor × Option SliceOutcome
  | .proceed => (ex, none)
  | .sleep ms => (ex.suspend (Clock.wakeAfter now ms.toNat), none)
  | .waitForEvent timeout =>
    match ex.thread.nextEvent with
    | (some event, thread) => ({ ex with thread := thread }.setResultSlot event, none)
    | (none, _) =>
      if timeout = some 0 || ex.options.runToCompletion then (ex, none)
      else
        let wake := match timeout with
          | some ms => Clock.wakeAfter now ms.toNat
          | none => Clock.never
        ((ex.suspend wake).mapThread fun t => { t with waitType := .event }, none)
  | .halt =>
    if ex.options.runToCompletion then (ex, none)
    else ({ ex with halted := true }, some .halted)
  | .exit value => ({ ex with result := some value }, some .finished)
  | .fault cause => (ex, some (.faulted cause))

/-- Begins to count runaway cycles anew, because the script blocks. -/
def resetRunaway (ex : Executor) : Executor :=
  { ex with warnOnCycle := ex.instrCycles + ex.runawayStep, runawayCycles := 0 }

/-- Whether a runaway warning is due. -/
def runawayDue (ex : Executor) : Bool := ex.warnOnCycle ≤ ex.instrCycles

/-- Counts the cycles since the last warning. -/
def countRunaway (ex : Executor) : Executor :=
  { ex with
    runawayCycles := ex.runawayCycles + ex.runawayStep
    warnOnCycle := ex.warnOnCycle + ex.runawayStep }

/-- Whether the script has to be terminated for running too long. -/
def overLimit (ex : Executor) (limit : Option Nat) : Bool :=
  match limit with
  | some limit => !ex.thread.critical && limit ≤ ex.runawayCycles
  | none => false

/-- Looks after a script that has run an instruction without blocking. -/
def checkRunaway (ex : Executor) (limit : Option Nat) : Logged (Executor × CycleOutcome) :=
  if ex.runawayDue then do
    let ex := ex.countRunaway
    if ex.thread.warnOnRunaway then
      Logged.tell (.runawayWarning ex.pid ex.scriptname ex.runawayCycles)
    pure (ex, if ex.overLimit limit then .ends .runaway else .goesOn)
  else pure (ex, .goesOn)

/-- The script after its machine has run an instruction. -/
def afterExec (ex : Executor) (done : Executed) : Executor :=
  { ex with
    runtime := .bytecode done.machine
    stack := done.stack
    instrCycles := ex.instrCycles + 1 }

/-- Runs one instruction of `machine`, the machine of the script. -/
def cycle (ex : Executor) (machine : Machine) (now : Nat) (limit : Option Nat) :
    Logged (Executor × CycleOutcome) := do
  let done := machine.exec ex.stack
  Logged.tellAll (done.printed.toList.map .printed)
  match (ex.afterExec done).applyStep now done.step with
  | (ex, some outcome) => pure (ex, .ends outcome)
  | (ex, none) =>
    if ex.isBlocked then pure (ex.resetRunaway, .ends .blocked)
    else ex.checkRunaway limit

/-! ### A slice -/

/-- Runs a bytecode script, at most `left` instructions if it is not critical and at most
`patience` instructions in all. Without a result the script has used up the patience. The record
so far is in `told`. -/
def runCycles (now : Nat) (limit : Option Nat) : Nat → Nat → Array Entry → Executor →
    Option (Logged (Executor × SliceOutcome))
  | 0, _, _, _ => none
  | patience + 1, left, told, ex =>
    match ex.runtime with
    | .bytecode machine =>
      if machine.runnable then
        let ran := ex.cycle machine now limit
        let told := told ++ ran.entries
        match ran.value with
        | (ex, .ends outcome) => some ⟨(ex, outcome), told.toList⟩
        | (ex, .goesOn) =>
          if !ex.thread.critical && left ≤ 1 then
            some ⟨(ex, if ex.runnable then .preempted else .finished), told.toList⟩
          else runCycles now limit patience (left - 1) told ex
      else some ⟨(ex, .finished), told.toList⟩
    | .engine _ _ => some ⟨(ex, .external), told.toList⟩
    | .unbound => some ⟨(ex, .finished), told.toList⟩

/-- Runs a slice of a script. A script that is not critical needs no patience beyond the length
of its slice. -/
def runSlice (ex : Executor) (now slice : Nat) (limit : Option Nat) (patience : Nat) :
    Option (Logged (Executor × SliceOutcome)) :=
  runCycles now limit ((if ex.thread.critical then patience else slice) + 1) slice #[] ex

/-- Runs a script until its slice ends for another reason than its length. -/
def runToEnd (ex : Executor) (now : Nat) (limit : Option Nat) (patience : Nat) :
    Option (Logged (Executor × SliceOutcome)) :=
  runCycles now limit patience (patience + 1) #[] ex

end Executor

end ScriptScheduler
