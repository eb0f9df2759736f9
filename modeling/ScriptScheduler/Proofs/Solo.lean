import Mathlib.Logic.Relator
import ScriptScheduler.Proofs.Idling

/-!
# Bytecode scripts by themselves

A bytecode script that gets no events, makes no requests and has no child runs as if it were alone:
its machine, its stack, its counters and its runaway window after an instruction depend on those
before the instruction and on nothing else (`Solo.next`), and so does how it ends (`Solo.ending?`).
Passes cut the course of a script into slices, and clocks and debuggers hold it up in between, but
its course remains the same (`Executor.Plays.slice`). A script that may not be held up runs straight
to the end of its course (`Executor.Plays.runsOut`), and if runaway cycles are not limited it runs
the same instructions as if it were held up (`Solo.Abreast`).
-/

namespace ScriptScheduler

/-! ### The course of a script -/

/-- A bytecode script by itself: its machine and its stack, how many instructions it has run, how
often it has slept, and its runaway window. -/
structure Solo where
  /-- Whether it runs straight to its end, so that it neither sleeps nor waits nor halts. -/
  straight : Bool := false
  machine : Machine
  stack : List Val := []
  instrs : Nat := 0
  naps : Nat := 0
  /-- The instruction at which the next step of runaway cycles is counted. -/
  warnOn : Nat
  runaway : Nat := 0

/-- How a script ends. -/
structure Ending where
  reason : ExitReason
  result : Val
  instrs : Nat
  naps : Nat

/-- How a script has ended, as its record says. -/
def ScriptExit.ending (exit : ScriptExit) : Ending :=
  ⟨exit.reason, exit.result, exit.instrCycles, exit.sleepCycles⟩

/-- How a script goes on after an instruction. -/
inductive Pace where
  | goesOn
  | naps
  | halts
  | ends (reason : ExitReason) (result : Val)

/-- How a script that gets no events goes on after what an instruction asks of it. -/
def Step.pace (straight : Bool) : Step → Pace
  | .proceed => .goesOn
  | .sleep _ => if straight then .goesOn else .naps
  | .waitForEvent timeout => if timeout = some 0 || straight then .goesOn else .naps
  | .halt => if straight then .goesOn else .halts
  | .exit value => .ends .finished value
  | .fault cause => .ends .faulted (.error ⟨ErrorCode.fault, cause.message⟩)

namespace Solo

variable (step : Nat) (limit : Option Nat) (solo : Solo)

/-- How the script goes on after its next instruction. -/
def pace : Pace := (solo.machine.exec solo.stack).step.pace solo.straight

/-- The script after its machine has run the next instruction. -/
def ran : Solo :=
  { solo with
    machine := (solo.machine.exec solo.stack).machine
    stack := (solo.machine.exec solo.stack).stack
    instrs := solo.instrs + 1 }

/-- The script goes to sleep, and a new runaway window begins. -/
def asleep : Solo :=
  { solo with naps := solo.naps + 1, warnOn := solo.instrs + step, runaway := 0 }

/-- Another step of runaway cycles is counted. -/
def counted : Solo :=
  { solo with warnOn := solo.warnOn + step, runaway := solo.runaway + step }

/-- Another step of runaway cycles is counted if it is due. -/
def checked : Solo := if solo.warnOn ≤ solo.instrs then solo.counted step else solo

/-- Whether the next step of runaway cycles is due and is one too many. -/
def overdue : Bool :=
  solo.warnOn ≤ solo.instrs && Executor.exceeds limit (solo.runaway + step)

/-- The script after it has done what an instruction asks of it. -/
def onward : Pace → Solo
  | .goesOn => solo.checked step
  | .naps => solo.asleep step
  | .halts | .ends _ _ => solo

/-- How the script ends, if it ends with what an instruction asks of it. -/
def stops? : Pace → Option Ending
  | .goesOn =>
    if solo.overdue step limit then
      some ⟨.runaway, .error ⟨ErrorCode.runaway,
        "exceeded " ++ toString (solo.runaway + step) ++ " runaway cycles"⟩, solo.instrs, solo.naps⟩
    else none
  | .naps | .halts => none
  | .ends reason result => some ⟨reason, result, solo.instrs, solo.naps⟩

/-- The script after its next instruction. -/
def next : Solo := solo.ran.onward step solo.pace

/-- How the script ends, if it ends with its next instruction or has none. -/
def ending? : Option Ending :=
  if solo.machine.runnable then solo.ran.stops? step limit solo.pace
  else some ⟨.finished, .uninit, solo.instrs, solo.naps⟩

/-- A script that does not end goes on. -/
def Goes (a b : Solo) : Prop := a.ending? step limit = none ∧ b = a.next step

/-- A script goes on for some time. -/
abbrev Leads : Solo → Solo → Prop := Relation.ReflTransGen (Goes step limit)

variable {step limit} {a b c : Solo} {x y : Ending}

/-- A script goes on in one way only. -/
theorem rightUnique_goes : Relator.RightUnique (Goes step limit) := by
  rintro a b c ⟨-, rfl⟩ ⟨-, rfl⟩
  rfl

/-- A script that ends does not go on. -/
theorem Leads.eq_of_ends (leads : Leads step limit b c) (ends : b.ending? step limit = some x) :
    c = b := by
  rcases leads.cases_head with same | ⟨next, ⟨goesOn, -⟩, -⟩
  · exact same.symm
  · exact absurd (ends.symm.trans goesOn) (by simp)

/-- A script ends in one way only. -/
theorem Leads.ending_unique (toB : Leads step limit a b) (toC : Leads step limit a c)
    (endsB : b.ending? step limit = some x) (endsC : c.ending? step limit = some y) : x = y := by
  have same : b = c := by
    rcases toB.total_of_right_unique rightUnique_goes toC with onward | onward
    · exact (Leads.eq_of_ends onward endsB).symm
    · exact Leads.eq_of_ends onward endsC
  rw [same] at endsB
  exact Option.some.inj (endsB.symm.trans endsC)

/-- A step of the course changes neither whether it is straight nor the number of instructions that
have been run. -/
theorem onward_keeps (step : Nat) (solo : Solo) (pace : Pace) :
    (solo.onward step pace).straight = solo.straight ∧ (solo.onward step pace).machine = solo.machine ∧
      (solo.onward step pace).stack = solo.stack ∧ (solo.onward step pace).instrs = solo.instrs := by
  cases pace with
  | goesOn =>
    unfold onward checked
    dsimp only
    split <;> exact ⟨rfl, rfl, rfl, rfl⟩
  | naps | halts | ends => exact ⟨rfl, rfl, rfl, rfl⟩

/-- Whether a course is straight never changes. -/
theorem Goes.straight (goes : Goes step limit a b) : b.straight = a.straight := by
  obtain ⟨-, rfl⟩ := goes
  exact (onward_keeps step a.ran a.pace).1

/-- Instructions are run one by one. -/
theorem Goes.instrs (goes : Goes step limit a b) : b.instrs = a.instrs + 1 := by
  obtain ⟨-, rfl⟩ := goes
  exact (onward_keeps step a.ran a.pace).2.2.2

/-- A script that ends has run the next instruction or none. -/
theorem instrs_le_of_ends (ends : a.ending? step limit = some x) : a.instrs ≤ x.instrs := by
  unfold ending? at ends
  split at ends
  · unfold stops? at ends
    split at ends
    · split at ends
      · obtain rfl := Option.some.inj ends
        exact Nat.le_succ _
      · exact absurd ends (by simp)
    · exact absurd ends (by simp)
    · exact absurd ends (by simp)
    · obtain rfl := Option.some.inj ends
      exact Nat.le_succ _
  · obtain rfl := Option.some.inj ends
    exact Nat.le_refl _

/-- On the way to its end a script has run no more instructions than at its end. -/
theorem Leads.instrs_le (leads : Leads step limit a b) (ends : b.ending? step limit = some x) :
    a.instrs ≤ x.instrs := by
  induction leads using Relation.ReflTransGen.head_induction_on with
  | refl => exact instrs_le_of_ends ends
  | head goes _ ih => exact Nat.le_trans (goes.instrs ▸ Nat.le_succ _) ih

end Solo

/-! ### Without a limit -/

/-- Why a script ends and with what, if it ends. -/
def Pace.ends? : Pace → Option (ExitReason × Val)
  | .ends reason result => some (reason, result)
  | _ => none

/-- Whether a script runs straight to its end makes no difference to what ends it. -/
theorem Step.ends?_pace (asked : Step) (straight other : Bool) :
    (asked.pace straight).ends? = (asked.pace other).ends? := by
  have heldUp : ∀ held : Pace, held.ends? = none → ∀ goes : Bool,
      (if goes then Pace.goesOn else held).ends? = none := by
    intro held undecided goes
    cases goes with
    | false => exact undecided
    | true => rfl
  cases asked with
  | proceed | exit | fault => rfl
  | sleep | waitForEvent | halt => exact (heldUp _ rfl _).trans (heldUp _ rfl _).symm

/-- Why a script ends, with what, and after how many instructions. -/
def Ending.yield (ending : Ending) : ExitReason × Val × Nat :=
  (ending.reason, ending.result, ending.instrs)

namespace Solo

variable {step step' : Nat} {a b last : Solo}

/-- Two scripts that have run the same instructions, whatever has held them up meanwhile. -/
structure Abreast (a b : Solo) : Prop where
  machine : b.machine = a.machine
  stack : b.stack = a.stack
  instrs : b.instrs = a.instrs

/-- Without a limit only an instruction ends a script. -/
theorem stops?_unlimited (step : Nat) (solo : Solo) (pace : Pace) :
    (solo.stops? step none pace).map Ending.yield =
      pace.ends?.map fun why => (why.1, why.2, solo.instrs) := by
  have never : solo.overdue step none = false := Bool.and_false _
  cases pace with
  | goesOn => exact congrArg _ (if_neg (ne_true_of_eq_false never))
  | naps | halts | ends => rfl

namespace Abreast

/-- Scripts that are abreast stay so with the next instruction. -/
theorem ran (h : Abreast a b) : Abreast a.ran b.ran := by
  unfold Solo.ran
  rw [h.machine, h.stack, h.instrs]
  exact ⟨rfl, rfl, rfl⟩

/-- Scripts that are abreast stay so. -/
theorem next (h : Abreast a b) : Abreast (a.next step) (b.next step') := by
  obtain ⟨-, machine, stack, instrs⟩ := onward_keeps step a.ran a.pace
  obtain ⟨-, machine', stack', instrs'⟩ := onward_keeps step' b.ran b.pace
  exact ⟨machine'.trans (h.ran.machine.trans machine.symm),
    stack'.trans (h.ran.stack.trans stack.symm), instrs'.trans (h.ran.instrs.trans instrs.symm)⟩

/-- Without a limit scripts that are abreast end alike. -/
theorem ending? (h : Abreast a b) :
    (a.ending? step none).map Ending.yield = (b.ending? step' none).map Ending.yield := by
  unfold Solo.ending?
  rw [h.machine]
  split
  · have alike : a.pace.ends? = b.pace.ends? := by
      unfold pace
      rw [h.machine, h.stack]
      exact Step.ends?_pace _ _ _
    rw [stops?_unlimited, stops?_unlimited, alike, h.ran.instrs]
  · rw [h.instrs]
    rfl

/-- Without a limit a script gets as far as another one that has started abreast of it. -/
theorem leads (h : Abreast a b) (leads : Leads step none a last) :
    ∃ last', Leads step' none b last' ∧ Abreast last last' := by
  induction leads with
  | refl => exact ⟨b, .refl, h⟩
  | @tail last next _ goes ih =>
    obtain ⟨mid, sofar, abreast⟩ := ih
    obtain ⟨goesOn, rfl⟩ := goes
    have alike : (last.ending? step none).map Ending.yield =
        (mid.ending? step' none).map Ending.yield := abreast.ending?
    rw [goesOn] at alike
    exact ⟨mid.next step', sofar.tail ⟨Option.map_eq_none_iff.mp alike.symm, rfl⟩, abreast.next⟩

/-- Without a limit a script ends alike with another one that has started abreast of it. -/
theorem ends (h : Abreast a b) (step' : Nat) {x : Ending} (leads : Leads step none a last)
    (ends : last.ending? step none = some x) : ∃ last' y, Leads step' none b last' ∧
      last'.ending? step' none = some y ∧ y.yield = x.yield := by
  obtain ⟨last', onward, abreast⟩ := h.leads leads
  have alike : (last.ending? step none).map Ending.yield =
      (last'.ending? step' none).map Ending.yield := abreast.ending?
  rw [ends] at alike
  obtain ⟨y, stops, same⟩ := Option.map_eq_some_iff.mp alike.symm
  exact ⟨last', y, onward, stops, same⟩

end Abreast

end Solo

/-! ### Scripts that keep to their course -/

/-- Whether an act puts a script off its course: it has a turn, gets an event, makes a request, gets a
child or is ended from outside. -/
def Act.Disturbs (pid : Pid) : Act → Prop
  | .turn other | .signal other | .ask other | .adopt other | .retire other _ | .handBack other =>
    other = pid
  | .answer _ | .park _ | .release _ | .expire => False

namespace Executor

/-- The script by itself, where its machine is given. A nap counts from when the script goes to
sleep. -/
def soloOf (ex : Executor) (machine : Machine) : Solo where
  straight := ex.options.runToCompletion
  machine := machine
  stack := ex.stack
  instrs := ex.instrCycles
  naps := ex.sleepCycles + if ex.isBlocked then 1 else 0
  warnOn := ex.warnOnCycle
  runaway := ex.runawayCycles

/-- The script by itself, if it is a bytecode script. -/
def solo? (ex : Executor) : Option Solo :=
  match ex.runtime with
  | .bytecode machine => some (ex.soloOf machine)
  | _ => none

/-- A script that is not asleep has slept as often as it has been woken. -/
theorem naps_soloOf {ex : Executor} (awake : ex.isBlocked = false) (machine : Machine) :
    (ex.soloOf machine).naps = ex.sleepCycles := by
  unfold soloOf
  simp [awake]

/-- Only bytecode scripts run by themselves. -/
theorem solo?_eq_some {ex : Executor} {solo : Solo} :
    ex.solo? = some solo ↔ ∃ machine, ex.runtime = .bytecode machine ∧ solo = ex.soloOf machine := by
  unfold solo?
  cases ex.runtime with
  | unbound => simp
  | engine => simp
  | bytecode machine => simp [eq_comm]

/-- A script that has no events, requests, child or result yet. It is not critical unless runaway
cycles are not limited. -/
structure Solitary (ex : Executor) (step : Nat) (limit : Option Nat) : Prop where
  bounded : ex.thread.critical = false ∨ limit = none
  runawayStep : ex.runawayStep = step
  undecided : ex.result = none
  eventless : ex.thread.events = []
  unasked : ex.requests = .empty
  childless : ex.child = none

/-- A script that is where its course by itself leads. -/
structure Plays (ex : Executor) (step : Nat) (limit : Option Nat) (solo : Solo) : Prop
    extends ex.Solitary step limit where
  here : ex.solo? = some solo

variable {ex a b mid ran : Executor} {step now : Nat} {limit : Option Nat} {solo : Solo}
  {gone : Pid → Prop} {wrapped : Prop} {may : Act → Prop} {machine : Machine}

/-- A script that plays alone is a bytecode script. -/
theorem Plays.isEngine (h : ex.Plays step limit solo) : ex.isEngine = false := by
  obtain ⟨machine, runtime, -⟩ := solo?_eq_some.mp h.here
  unfold Executor.isEngine
  rw [runtime]

/-- Where a script is held and whether it is halted does not matter. -/
theorem Plays.place (h : ex.Plays step limit solo) (halted : Bool) {t : Thread}
    (blocked : t.isBlocked = ex.thread.isBlocked) (critical : t.critical = ex.thread.critical)
    (events : t.events = ex.thread.events) :
    { ex with halted := halted, thread := t }.Plays step limit solo := by
  have same : { ex with halted := halted, thread := t }.solo? = ex.solo? := by
    unfold solo? soloOf isBlocked
    dsimp only
    rw [blocked]
  exact { h with
    bounded := critical ▸ h.bounded
    eventless := events.trans h.eventless
    here := same.trans h.here }

/-- A script in a hold list is as blocked and as critical as before and has the same events. -/
theorem held_keeps (seq : Nat) (t : Thread) : (t.held seq).isBlocked = t.isBlocked ∧
    (t.held seq).critical = t.critical ∧ (t.held seq).events = t.events := by
  unfold Thread.held
  split
  · exact ⟨rfl, rfl, rfl⟩
  · split <;> exact ⟨rfl, rfl, rfl⟩

/-- A script that is left alone stays where it is on its course. -/
theorem ChangeBy.plays (change : ChangeBy gone wrapped may a b) (h : a.Plays step limit solo)
    (fit : a.Fit) (undisturbed : ∀ act, may act → ¬ act.Disturbs a.pid) :
    b.Plays step limit solo := by
  cases change with
  | preempted _ _ allowed | slept _ _ _ allowed | stopped _ _ allowed | called _ _ _ allowed
  | queued _ _ allowed | woken _ _ allowed | requested _ _ _ _ allowed | takenBack _ _ allowed
  | awaited _ _ _ allowed => exact absurd rfl (undisturbed _ allowed)
  | @answered kind _ asked =>
    rw [h.unasked] at asked
    cases kind <;> exact absurd asked List.not_mem_nil
  | timedOut sleeps =>
    -- the nap that has been counted since the script went to sleep is over
    have blocked : a.isBlocked = true := (fit.timely h.isEngine).sleeps sleeps
    have idle : a.thread.outstanding = none := fit.coherent.outstanding (by simp [sleeps])
    have awake : a.timedOut.isBlocked = false := Thread.isBlocked_revive idle
    have stack : a.timedOut.stack = a.stack := by
      unfold Executor.timedOut
      rw [h.unasked]
      rfl
    have same : a.timedOut.solo? = a.solo? := by
      unfold solo? soloOf
      rw [stack, awake, blocked]
      rfl
    exact { h with unasked := rfl, here := same.trans h.here }
  | resumed link => exact absurd (h.childless.symm.trans link) (by simp)
  | orphaned => exact { h with here := h.here }
  | halted => exact h.place true rfl rfl rfl
  | releasedBlocked _ _ seq =>
    obtain ⟨blocked, critical, events⟩ := held_keeps seq a.thread.detached
    exact h.place false blocked critical events
  | released => exact h.place false rfl rfl rfl

/-! ### Instructions -/

/-- What becomes of a script that gets no events with an instruction after which it goes on at a
certain pace. -/
inductive Paced (ex : Executor) : Pace → Executor → Option SliceOutcome → Prop
  | goesOn : Paced ex .goesOn ex none
  | naps {t : Thread} (suspendable : ex.options.runToCompletion = false)
      (blocked : t.isBlocked = true) (critical : t.critical = ex.thread.critical)
      (events : t.events = ex.thread.events) : Paced ex .naps { ex with thread := t } none
  | halts (suspendable : ex.options.runToCompletion = false) :
      Paced ex .halts { ex with halted := true } (some .halted)
  | exits (value : Val) :
      Paced ex (.ends .finished value) { ex with result := some value } (some .finished)
  | faults (cause : Fault) :
      Paced ex (.ends .faulted (.error ⟨ErrorCode.fault, cause.message⟩)) ex (some (.faulted cause))

/-- A script without events gets none. -/
theorem nextEvent_of_eventless {t : Thread} (eventless : t.events = []) : t.nextEvent = (none, t) := by
  unfold Thread.events at eventless
  unfold Thread.nextEvent
  split at eventless
  · next inbox => simp [inbox, eventless]
  · next inbox => simp [inbox]

/-- Each instruction has its pace. -/
theorem paced (eventless : ex.thread.events = []) (now : Nat) (asked : Step) :
    Paced ex (asked.pace ex.options.runToCompletion) (ex.applyStep now asked).1
      (ex.applyStep now asked).2 := by
  cases asked with
  | proceed => exact .goesOn
  | sleep ms =>
    unfold applyStep suspend Step.pace
    dsimp only
    split
    · exact .goesOn
    · next suspendable =>
      exact .naps (eq_false_of_ne_true suspendable) (Thread.isBlocked_suspend _) rfl rfl
  | waitForEvent timeout =>
    unfold applyStep Step.pace
    dsimp only
    rw [nextEvent_of_eventless eventless]
    dsimp only
    split
    · exact .goesOn
    · next waits =>
      -- a script that runs to completion does not wait, so this one may be suspended
      have suspendable : ex.options.runToCompletion = false := by
        rw [Bool.or_eq_true] at waits
        exact eq_false_of_ne_true (not_or.mp waits).2
      have asleep : ∀ wake, ex.suspend wake = { ex with thread := ex.thread.suspend wake } :=
        fun wake => if_neg (by simp [suspendable])
      have blocked : ∀ wake,
          ({ ex.thread.suspend wake with waitType := .event } : Thread).isBlocked = true :=
        fun wake => Thread.isBlocked_suspend wake
      rw [asleep]
      exact .naps suspendable (blocked _) rfl rfl
  | halt =>
    unfold applyStep Step.pace
    dsimp only
    split
    · exact .goesOn
    · next suspendable => exact .halts (eq_false_of_ne_true suspendable)
  | exit value => exact .exits value
  | fault cause => exact .faults cause

/-- How a script has ended that a slice has left so. -/
def verdict? (ran : Executor) : SliceOutcome → Option Ending
  | .finished => some ⟨.finished, ran.result.getD .uninit, ran.instrCycles, ran.sleepCycles⟩
  | .faulted cause =>
    some ⟨.faulted, .error ⟨ErrorCode.fault, cause.message⟩, ran.instrCycles, ran.sleepCycles⟩
  | .runaway =>
    some ⟨.runaway, .error ⟨ErrorCode.runaway,
      "exceeded " ++ toString ran.runawayCycles ++ " runaway cycles"⟩,
      ran.instrCycles, ran.sleepCycles⟩
  | _ => none

/-- What becomes of a script with an instruction: it goes on, or it ends as its course does. A script
that does not run straight to its end may be held up on its way. -/
inductive Fares (step : Nat) (limit : Option Nat) (next : Solo) (ran : Executor) :
    Option Ending → CycleOutcome → Prop
  | goesOn (awake : ran.isBlocked = false) (plays : ran.Plays step limit next) :
      Fares step limit next ran none .goesOn
  | heldUp {outcome : SliceOutcome} (suspendable : next.straight = false)
      (undecided : ran.verdict? outcome = none) (plays : ran.Plays step limit next) :
      Fares step limit next ran none (.ends outcome)
  | ends {outcome : SliceOutcome} {ending : Ending} (verdict : ran.verdict? outcome = some ending) :
      Fares step limit next ran (some ending) (.ends outcome)

variable {out : CycleOutcome}

/-- A script that has run an instruction and does not sleep is looked after: it is terminated if the
next step of runaway cycles is due and is one too many, and else it goes on. -/
theorem Plays.checked (h : ex.Plays step limit solo) (awake : ex.isBlocked = false)
    (checked : (ex.checkRunaway limit).value = (ran, out)) :
    Fares step limit (solo.checked step) ran (solo.stops? step limit .goesOn) out := by
  obtain ⟨machine, runtime, rfl⟩ := solo?_eq_some.mp h.here
  have stops : (ex.soloOf machine).stops? step limit .goesOn =
      if (ex.soloOf machine).overdue step limit then _ else none := rfl
  have overdue : (ex.soloOf machine).overdue step limit =
      (decide (ex.warnOnCycle ≤ ex.instrCycles) && exceeds limit (ex.runawayCycles + step)) := rfl
  rw [checkRunaway_value h.bounded, h.runawayStep] at checked
  by_cases due : ex.warnOnCycle ≤ ex.instrCycles
  · have counted : (ex.soloOf machine).checked step = ex.countRunaway.soloOf machine := by
      rw [← h.runawayStep]
      exact if_pos due
    rw [decide_eq_true due, Bool.true_and] at overdue
    rw [if_pos due] at checked
    split at checked
    · next beyond =>
      obtain ⟨rfl, rfl⟩ := Prod.mk.inj checked
      rw [stops, if_pos (overdue.trans beyond), naps_soloOf awake]
      refine .ends ?_
      rw [← h.runawayStep]
      rfl
    · next under =>
      obtain ⟨rfl, rfl⟩ := Prod.mk.inj checked
      rw [stops, if_neg (overdue ▸ under)]
      exact .goesOn awake { h with here := solo?_eq_some.mpr ⟨machine, runtime, counted⟩ }
  · rw [decide_eq_false due, Bool.false_and] at overdue
    rw [if_neg due] at checked
    obtain ⟨rfl, rfl⟩ := Prod.mk.inj checked
    have same : (ex.soloOf machine).checked step = ex.soloOf machine := if_neg due
    rw [stops, if_neg (ne_true_of_eq_false overdue), same]
    exact .goesOn awake h

/-- A script that goes to sleep begins a new runaway window. -/
theorem Plays.sleeps (h : ex.Plays step limit solo) (awake : ex.isBlocked = false) {t : Thread}
    (blocked : t.isBlocked = true) (critical : t.critical = ex.thread.critical)
    (events : t.events = ex.thread.events) :
    ({ ex with thread := t } : Executor).resetRunaway.Plays step limit (solo.asleep step) := by
  obtain ⟨machine, runtime, rfl⟩ := solo?_eq_some.mp h.here
  let mid : Executor := { ex with thread := t }
  have asleep : mid.resetRunaway.isBlocked = true := blocked
  have window : mid.resetRunaway.warnOnCycle = ex.instrCycles + step := by
    rw [← h.runawayStep]
    rfl
  have lays : (ex.soloOf machine).asleep step = mid.resetRunaway.soloOf machine := by
    unfold Solo.asleep soloOf
    rw [awake, asleep, window]
    rfl
  exact { h with
    bounded := critical ▸ h.bounded
    eventless := events.trans h.eventless
    here := solo?_eq_some.mpr ⟨machine, runtime, lays⟩ }

/-- A script does what an instruction asks of it. -/
theorem Plays.does (h : ex.Plays step limit solo) (awake : ex.isBlocked = false) (now : Nat)
    (asked : Step) (does : (match ex.applyStep now asked with
      | (ex, some outcome) => pure (ex, .ends outcome)
      | (ex, none) =>
        if ex.isBlocked then pure (ex.resetRunaway, .ends .blocked)
        else ex.checkRunaway limit : Logged (Executor × CycleOutcome)).value = (ran, out)) :
    Fares step limit (solo.onward step (asked.pace solo.straight)) ran
      (solo.stops? step limit (asked.pace solo.straight)) out := by
  obtain ⟨machine, runtime, rfl⟩ := solo?_eq_some.mp h.here
  have paced : Paced ex (asked.pace (ex.soloOf machine).straight) _ _ :=
    ex.paced h.eventless now asked
  generalize asked.pace (ex.soloOf machine).straight = pace at paced
  generalize ex.applyStep now asked = applied at paced does
  obtain ⟨mid, outcome?⟩ := applied
  -- the course says what an instruction comes to, and the bounds say who has to stop
  cases paced with
  | goesOn =>
    dsimp only at does
    rw [if_neg (ne_true_of_eq_false awake)] at does
    exact h.checked awake does
  | @naps t suspendable blocked critical events =>
    have asleep : ({ ex with thread := t } : Executor).isBlocked = true := blocked
    dsimp only at does
    rw [if_pos asleep] at does
    obtain ⟨rfl, rfl⟩ := Prod.mk.inj does
    exact .heldUp suspendable rfl (h.sleeps awake blocked critical events)
  | halts suspendable =>
    obtain ⟨rfl, rfl⟩ := Prod.mk.inj does
    exact .heldUp suspendable rfl (h.place true rfl rfl rfl)
  | exits | faults =>
    obtain ⟨rfl, rfl⟩ := Prod.mk.inj does
    unfold Solo.stops?
    rw [naps_soloOf awake]
    exact .ends rfl

/-- An instruction takes a script to the next place of its course, or ends it as its course does. -/
theorem Plays.cycle (h : ex.Plays step limit solo) (awake : ex.isBlocked = false)
    (runtime : ex.runtime = .bytecode machine) (runnable : machine.runnable = true)
    (cycle : (ex.cycle machine now limit).value = (ran, out)) :
    Fares step limit (solo.next step) ran (solo.ending? step limit) out := by
  obtain ⟨_, same, rfl⟩ := solo?_eq_some.mp h.here
  obtain rfl := Runtime.bytecode.inj (runtime.symm.trans same)
  let done : Executed := machine.exec ex.stack
  have after : (ex.afterExec done).Plays step limit (ex.soloOf machine).ran :=
    { h with here := solo?_eq_some.mpr ⟨done.machine, rfl, rfl⟩ }
  have ends : (ex.soloOf machine).ending? step limit = _ := if_pos runnable
  rw [ends]
  exact after.does awake now done.step cycle

/-! ### Slices -/

/-- A script that has had its slice is where its course leads, or it has ended as its course does. -/
inductive Arrives (step : Nat) (limit : Option Nat) (solo : Solo) (ran : Executor)
    (outcome : SliceOutcome) : Prop
  | plays {later : Solo} (leads : Solo.Leads step limit solo later)
      (undecided : ran.verdict? outcome = none) (plays : ran.Plays step limit later)
  | ends {later : Solo} {ending : Ending} (leads : Solo.Leads step limit solo later)
      (verdict : ran.verdict? outcome = some ending) (ends : later.ending? step limit = some ending)

variable {outcome : SliceOutcome}

/-- A script that arrives somewhere from the next place of its course. -/
theorem Arrives.head {next : Solo} (goes : Solo.Goes step limit solo next)
    (arrives : Arrives step limit next ran outcome) : Arrives step limit solo ran outcome := by
  cases arrives with
  | plays leads undecided plays => exact .plays (.head goes leads) undecided plays
  | ends leads verdict ends => exact .ends (.head goes leads) verdict ends

/-- A script that has nothing left to run ends. -/
theorem Plays.idle (h : ex.Plays step limit solo) (awake : ex.isBlocked = false)
    (done : ex.runnable = false) : ∃ ending, ex.verdict? .finished = some ending ∧
      solo.ending? step limit = some ending := by
  obtain ⟨machine, runtime, rfl⟩ := solo?_eq_some.mp h.here
  have stops : machine.runnable = false := by
    unfold Executor.runnable at done
    rwa [runtime] at done
  have ends : (ex.soloOf machine).ending? step limit =
      some ⟨.finished, .uninit, ex.instrCycles, (ex.soloOf machine).naps⟩ :=
    if_neg (ne_true_of_eq_false stops)
  refine ⟨_, rfl, ends.trans ?_⟩
  rw [naps_soloOf awake, h.undecided]
  rfl

/-- An instruction that does not end the slice takes a script to the next place of its course. -/
theorem Plays.goes (h : ex.Plays step limit solo) (awake : ex.isBlocked = false)
    (runtime : ex.runtime = .bytecode machine) (runnable : machine.runnable = true)
    (cycle : (ex.cycle machine now limit).value = (mid, .goesOn)) :
    Solo.Goes step limit solo (solo.next step) ∧ mid.isBlocked = false ∧
      mid.Plays step limit (solo.next step) := by
  have fares := h.cycle awake runtime runnable cycle
  generalize ended : solo.ending? step limit = ending? at fares
  cases fares with
  | goesOn free plays => exact ⟨⟨ended, rfl⟩, free, plays⟩

/-- A slice takes a script along its course. -/
theorem Plays.slice (h : ex.Plays step limit solo) (awake : ex.isBlocked = false)
    (slice : Slice now limit ex ran outcome) : Arrives step limit solo ran outcome := by
  induction slice generalizing solo with
  | idle done =>
    obtain ⟨ending, verdict, ends⟩ := h.idle awake done
    exact .ends .refl verdict ends
  | external engine => exact absurd (h.isEngine.symm.trans engine) (by decide)
  | ends bytecode runnable cycle =>
    have fares := h.cycle awake bytecode runnable cycle
    generalize ended : solo.ending? step limit = ending? at fares
    cases fares with
    | heldUp _ undecided plays => exact .plays (.single ⟨ended, rfl⟩) undecided plays
    | ends verdict => exact .ends .refl verdict ended
  | usedUp bytecode runnable cycle =>
    obtain ⟨goes, free, plays⟩ := h.goes awake bytecode runnable cycle
    split
    · exact .plays (.single goes) rfl plays
    · next done =>
      obtain ⟨ending, verdict, ends⟩ := plays.idle free (eq_false_of_ne_true done)
      exact .ends (.single goes) verdict ends
  | goesOn bytecode runnable cycle _ ih =>
    obtain ⟨goes, free, plays⟩ := h.goes awake bytecode runnable cycle
    exact .head goes (ih plays free)

/-- A script that its slice has not ended is placed where it is on its course. -/
theorem Plays.placed (h : ran.Plays step limit solo) (undecided : ran.verdict? outcome = none)
    (here : outcome ≠ .external) (seq : Nat) :
    ∃ placed, outcome.placed seq ran = some placed ∧ placed.Plays step limit solo := by
  cases outcome with
  | preempted => exact ⟨ran, rfl, h⟩
  | blocked =>
    obtain ⟨blocked, critical, events⟩ := held_keeps seq ran.thread
    exact ⟨_, rfl, h.place _ blocked critical events⟩
  | halted => exact ⟨_, rfl, h.place _ rfl rfl rfl⟩
  | external => exact absurd rfl here
  | finished | faulted | runaway => exact absurd undecided (by simp [verdict?])

/-- A script that its slice has ended is not placed any more. -/
theorem placed_of_verdict {ending : Ending} (verdict : ran.verdict? outcome = some ending)
    (seq : Nat) : outcome.placed seq ran = none := by
  cases outcome with
  | finished | faulted | runaway => rfl
  | preempted | blocked | halted | external => exact absurd verdict (by simp [verdict?])

/-! ### Running straight to the end -/

/-- A script that is run straight to its end, and for long enough, ends as its course does. -/
theorem Plays.runsOut {last : Solo} {ending : Ending} {patience left : Nat} {told : Array Entry}
    (h : ex.Plays step limit solo) (awake : ex.isBlocked = false) (straight : solo.straight = true)
    (leads : Solo.Leads step limit solo last) (ends : last.ending? step limit = some ending)
    (enough : ending.instrs < solo.instrs + patience) (long : patience < left) :
    ∃ ran outcome entries,
      runCycles now limit patience left told ex = some ⟨(ran, outcome), entries⟩ ∧
        ran.verdict? outcome = some ending := by
  have ahead : solo.instrs ≤ ending.instrs := Solo.Leads.instrs_le leads ends
  -- each round of the script is one step of the course, and the course ends
  induction patience generalizing ex solo left told with
  | zero => omega
  | succ patience ih =>
    obtain ⟨machine, runtime, -⟩ := solo?_eq_some.mp h.here
    have can : ex.runnable = machine.runnable := by
      unfold Executor.runnable
      rw [runtime]
    unfold runCycles
    rw [runtime]
    dsimp only
    split
    · next runnable =>
      cases cycle : (ex.cycle machine now limit).value with
      | mk mid out =>
        have fares := h.cycle awake runtime runnable cycle
        rcases leads.cases_head with rfl | ⟨next, goes, later⟩
        · rw [ends] at fares
          cases fares with
          | ends verdict => exact ⟨_, _, _, rfl, verdict⟩
        · rw [goes.1, ← goes.2] at fares
          have along : next.straight = true := goes.straight.trans straight
          have counted := goes.instrs
          cases fares with
          | heldUp suspendable => exact absurd (along.symm.trans suspendable) (by decide)
          | goesOn free plays =>
            have room : ¬ (!mid.thread.critical && left ≤ 1) = true := by
              have more : ¬ left ≤ 1 := by omega
              simp [more]
            dsimp only
            rw [if_neg room]
            exact ih plays free along later (by omega) (by omega)
              (Solo.Leads.instrs_le later ends)
    · next done =>
      obtain ⟨last, verdict, stops⟩ := h.idle awake (can.trans (eq_false_of_ne_true done))
      obtain rfl := Solo.Leads.eq_of_ends leads stops
      exact ⟨_, _, _, rfl, verdict.trans (stops.symm.trans ends)⟩

end Executor

end ScriptScheduler
