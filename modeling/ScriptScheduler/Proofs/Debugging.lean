import ScriptScheduler.Proofs.Expiry
import ScriptScheduler.Proofs.Deadlines
import ScriptScheduler.Proofs.Indifference
import ScriptScheduler.Proofs.Turns

/-!
# Scripts parked for the debugger

A script is parked for the debugger on request or because it comes to a breakpoint (`Halts`). Until
it is released it has no turn and no clock wakes it (`Executor.Parked`); what reaches it changes it
as if it was not halted, since operations do not look at the places of scripts. When it is released
it goes where its thread says by then (`Rejoins`).
-/

namespace ScriptScheduler

open Scheduler

namespace Executor

/-- The script `ex` is parked for the debugger and has not run or slept since it was `old`. -/
structure Parked (old ex : Executor) : Prop where
  halted : ex.halted = true
  held : ex.thread.holdList = .debugger
  program : ex.program = old.program
  runtime : ex.runtime = old.runtime
  instrCycles : ex.instrCycles = old.instrCycles
  sleepCycles : ex.sleepCycles = old.sleepCycles
  warnOnCycle : ex.warnOnCycle = old.warnOnCycle
  runawayCycles : ex.runawayCycles = old.runawayCycles
  result : ex.result = old.result

namespace Parked

variable {old ex a b : Executor} {gone : Pid → Prop} {wrapped : Prop} {may : Act → Prop}

/-- A parked script stays where it is when something wants to make it ready. -/
theorem freed (h : old.Parked ex) : old.Parked (ex.mapThread Thread.freed) :=
  { h with held := (Thread.freed_holdList rfl).mpr h.held }

/-- A parked script stays where it is when something wants to put it to sleep. -/
theorem laid (h : old.Parked ex) (seq : Nat) : old.Parked (ex.mapThread (Thread.held seq)) :=
  { h with held := (Thread.held_holdList rfl).mpr h.held }

/-- A suspension leaves a parked script where it is. -/
theorem suspend (h : old.Parked ex) (wake : Nat) : old.Parked (ex.suspend wake) := by
  unfold Executor.suspend
  split
  · exact h
  · exact { h with }

/-- Every change but its release leaves a parked script where it is. -/
theorem change (h : old.Parked a) (change : ChangeBy gone wrapped may a b)
    (unreleased : ¬ may (.release a.pid)) : old.Parked b := by
  cases change with
  | preempted free | slept free | stopped free | called free =>
    exact absurd (h.held.symm.trans free) (by decide)
  | @queued event thread _ posted =>
    obtain ⟨capacity, events, -, rfl⟩ := Thread.post_ok posted
    exact { h with }
  | woken => exact freed { h with }
  | answered =>
    refine freed ?_
    unfold Executor.answered
    split <;> exact { h with }
  | timedOut sleeps => exact absurd (h.held.symm.trans sleeps) (by decide)
  | resumed => exact freed { h with }
  | orphaned => exact { h with }
  | halted => exact { h with halted := rfl, held := rfl }
  | releasedBlocked _ _ _ allowed | released _ _ allowed => exact absurd allowed unreleased
  | requested _ _ wake seq =>
    refine laid ?_ seq
    have asleep := h.suspend wake
    unfold Executor.openResultSlot
    split <;> exact { asleep with }
  | takenBack => exact { h with }
  | awaited _ child seq =>
    have linked : old.Parked ({ a with child := some child }.push .sentinel) := { h with }
    exact (linked.suspend Clock.never).laid seq

/-- Edits leave a parked script where it is. -/
theorem edit (h : old.Parked ex) (edit : Edit) : old.Parked (edit.apply ex) := by
  cases edit with
  | setEventQueueSize size =>
    have kept : (ex.thread.setCapacity size).holdList = ex.thread.holdList := by
      unfold Thread.setCapacity
      split <;> rfl
    exact { h with held := kept.trans h.held }
  | _ => exact { h with }

end Parked

end Executor

/-! ### Until the release -/

/-- In a state the script with a given number is parked since it was `old`, unless it has left. -/
structure Scheduler.Parks (s : Scheduler) (pid : Pid) (old : Executor) : Prop where
  launched : pid.number < s.nextPid.number
  parked : ∀ ex, s.get? pid = some ex → old.Parked ex

section Parks

variable {s t h : Scheduler} {pid : Pid} {old ex : Executor}

/-- Moves that do not release a parked script leave it parked. -/
theorem MovesBy.parks {may : Act → Prop} {m m' : Moment} {entries : List Entry}
    (moves : MovesBy may m entries m') (sound : m.Sound) (unreleased : ¬ may (.release pid))
    (parks : m.state.Parks pid old) : m'.state.Parks pid old where
  launched := Nat.lt_of_lt_of_le parks.launched moves.nextPid
  parked := by
    refine moves.scripts sound (fun new => absurd parks.launched (Nat.not_lt_of_le new)) ?_
      parks.parked
    rintro gone a b rfl change parked
    exact parked.change change unreleased

/-- A parked script has no turn, and the turns of others leave it parked. -/
theorem ScriptTurn.Valid.parks {turn : ScriptTurn} (valid : turn.Valid)
    (parks : turn.before.Parks pid old) : turn.pid ≠ pid ∧ turn.after.Parks pid old := by
  refine ⟨?_, ?_, ?_⟩
  · rintro rfl
    have parked := parks.parked _ valid.found
    exact absurd (parked.held.symm.trans valid.free) (by decide)
  · have next : turn.after.nextPid = turn.before.nextPid := turn.follows.nextPid
    exact next ▸ parks.launched
  · intro ex found
    obtain ⟨was, live, changes⟩ := valid.evolves pid ex found
    refine changes.keeps (P := old.Parked) ?_ (parks.parked was live)
    intro a b change parked
    exact parked.change change (by simp)

/-- A parked script has none of the turns that follow one another. -/
theorem TakeTurns.parks {turns : List ScriptTurn} (taken : TakeTurns turns s t)
    (parks : s.Parks pid old) : (∀ turn ∈ turns, turn.pid ≠ pid) ∧ t.Parks pid old := by
  induction taken with
  | nothing => exact ⟨List.forall_mem_nil _, parks⟩
  | turn valid _ ih =>
    obtain ⟨ne, parks⟩ := valid.parks parks
    obtain ⟨others, parks⟩ := ih parks
    exact ⟨List.forall_mem_cons.mpr ⟨ne, others⟩, parks⟩

/-- Only its release releases a script. -/
theorem Operation.eq_release_of_does {op : Operation} (does : op.Does (.release pid)) :
    op = .release pid := by
  cases op <;> simp_all [Operation.Does]

/-- An operation that does not release a parked script gives it no turn and leaves it parked. -/
theorem Scheduler.Parks.perform {config : SchedulerConfig} {engine : Option Engine}
    {patience : Nat} {op : Operation} {ran : Logged (Answer × Scheduler)} (parks : s.Parks pid old)
    (reached : Reachable config engine s) (performed : s.perform patience op = some ran)
    (unreleased : op ≠ .release pid) :
    (∀ turn ∈ op.turns s patience, turn.pid ≠ pid) ∧ ran.value.2.Parks pid old := by
  rcases edit_or_turns reached.numbered performed with
    ⟨editee, edit, editor, rfl, found, eq⟩ | ⟨m, entries, moves, taken⟩
  · refine ⟨List.forall_mem_nil _, ?_⟩
    rw [eq]
    refine ⟨parks.launched, fun ex live => ?_⟩
    obtain ⟨was, before, rfl | rfl⟩ := get?_edit found live
    · exact parks.parked _ before
    · exact (parks.parked _ before).edit edit
  · refine taken.parks (moves.parks reached.sound ?_ parks)
    exact fun releases => unreleased (Operation.eq_release_of_does releases.1)

/-- As long as a parked script is not released it has no turn and stays parked. -/
theorem History.parks {config : SchedulerConfig} {engine : Option Engine}
    {past : List Performed} (history : History s past t) (reached : Reachable config engine s)
    (parks : s.Parks pid old) (unreleased : ∀ step ∈ past, step.op ≠ .release pid) :
    (∀ step ∈ past, ∀ turn ∈ step.turns, turn.pid ≠ pid) ∧ t.Parks pid old := by
  induction history with
  | refl => exact ⟨List.forall_mem_nil _, parks⟩
  | @step t past patience op ran before performed ih =>
    obtain ⟨earlier, last⟩ := List.forall_mem_append.mp unreleased
    obtain ⟨turnless, parks⟩ := ih earlier
    obtain ⟨others, parks⟩ := parks.perform (before.reachable reached) performed
      (last _ List.mem_cons_self)
    exact ⟨List.forall_mem_append.mpr ⟨turnless, List.forall_mem_singleton.mpr others⟩, parks⟩

end Parks

/-! ### Halts -/

/-- A script is halted: it is `old` when it is halted, and the operation leads to the second state.
It is halted on request, or it comes to a breakpoint in its turn. -/
inductive Halts : Pid → Scheduler → Executor → Scheduler → Prop
  | asked {s h : Scheduler} {pid : Pid} {old : Executor} (found : s.get? pid = some old)
      (halted : s.halt pid = .ok h) : Halts pid s old h
  | breakpoint {s : Scheduler} {patience : Nat} {op : Operation} {turn : ScriptTurn}
      {ran : Logged (Answer × Scheduler)} (performed : s.perform patience op = some ran)
      (had : turn ∈ op.turns s patience) (stopped : turn.outcome = .halted) :
      Halts turn.pid s turn.ran ran.value.2

/-- Only a breakpoint asks for a halt. -/
theorem Machine.breakpoint_of_exec {machine : Machine} {stack : List Val}
    (halts : (machine.exec stack).step = .halt) :
    machine.listing[machine.pc.toNat]? = some .breakpoint ∧
      (machine.exec stack).machine = { machine with pc := machine.pc + 1 } := by
  unfold exec at halts ⊢
  split at halts
  · exact absurd halts (by simp)
  · next instr fetched =>
    rw [fetched]
    cases instr with
    | breakpoint => exact ⟨rfl, rfl⟩
    | incr amount =>
      unfold execute increment at halts
      dsimp only at halts
      split at halts
      · split at halts <;> exact absurd halts (by simp)
      · exact absurd halts (by simp)
    | jump target =>
      unfold execute jumpTo at halts
      dsimp only at halts
      split at halts <;> exact absurd halts (by simp)
    | jumpIfFalse target =>
      unfold execute jumpTo at halts
      dsimp only at halts
      split at halts
      · exact absurd halts (by simp)
      · split at halts <;> exact absurd halts (by simp)
    | _ => exact absurd halts (by simp [execute])

/-- A halt is what the instruction asks for. -/
theorem Executor.halt_of_applyStep {ex ran : Executor} {now : Nat} {step : Step}
    (applied : ex.applyStep now step = (ran, some .halted)) :
    step = .halt ∧ ran.runtime = ex.runtime := by
  unfold applyStep at applied
  cases step with
  | proceed | sleep => exact absurd applied (by simp)
  | exit | fault => exact absurd applied (by simp)
  | waitForEvent timeout =>
    dsimp only at applied
    split at applied
    · exact absurd applied (by simp)
    · split at applied <;> exact absurd applied (by simp)
  | halt =>
    dsimp only at applied
    split at applied
    · exact absurd applied (by simp)
    · obtain ⟨rfl, -⟩ := Prod.mk.inj applied
      exact ⟨rfl, rfl⟩

/-- A slice that ends in a halt ends with a breakpoint, and the machine points behind it. -/
theorem Executor.Slice.breakpoint {now : Nat} {limit : Option Nat} {ex ran : Executor}
    (slice : Slice now limit ex ran .halted) : ∃ machine : Machine,
      machine.listing[machine.pc.toNat]? = some .breakpoint ∧
        ran.runtime = .bytecode { machine with pc := machine.pc + 1 } := by
  generalize goal : SliceOutcome.halted = outcome at slice
  induction slice with
  | idle | external => exact absurd goal (by simp)
  | usedUp => split at goal <;> exact absurd goal (by simp)
  | goesOn _ _ _ _ ih => exact ih goal
  | @ends ex ran machine outcome bytecode runnable cycle =>
    subst goal
    have step := cycled ex machine now limit
    rw [cycle] at step
    cases step with
    | ends applied =>
      obtain ⟨halts, runtime⟩ := halt_of_applyStep applied
      obtain ⟨fetched, next⟩ := Machine.breakpoint_of_exec halts
      refine ⟨machine, fetched, runtime.trans ?_⟩
      exact congrArg Runtime.bytecode next

section Halts

variable {s t h : Scheduler} {pid : Pid} {old ex : Executor}

/-- A script whose turn ends in a halt is parked. -/
theorem ScriptTurn.Valid.halts {turn : ScriptTurn} (valid : turn.Valid)
    (numbers : turn.before.Numbered) (stopped : turn.outcome = .halted) :
    turn.after.Parks turn.pid turn.ran ∧ (turn.after.get? turn.pid).isSome = true := by
  obtain ⟨_, slice⟩ := valid.slice
  rw [stopped] at slice
  have bytecode : turn.script.isEngine = false := by
    by_contra engine
    exact absurd (slice.of_isEngine (by simpa using engine)).1 (by simp)
  have halted : turn.ran.halted = true := slice.ended
  have own := valid.get?_own bytecode
  rw [stopped] at own
  refine ⟨⟨?_, ?_⟩, Option.isSome_of_eq_some own⟩
  · have next : turn.after.nextPid = turn.before.nextPid := turn.follows.nextPid
    exact next ▸ numbers.lt_nextPid valid.found
  · intro ex found
    obtain rfl := Option.some.inj (own.symm.trans found)
    exact ⟨halted, rfl, rfl, rfl, rfl, rfl, rfl, rfl, rfl⟩

/-- A script that comes to a breakpoint in one of several turns has none of those that follow, and
it is parked after them. -/
theorem TakeTurns.halts {earlier later : List ScriptTurn} {turn : ScriptTurn}
    (taken : TakeTurns (earlier ++ turn :: later) s t) (numbers : s.Numbered)
    (stopped : turn.outcome = .halted) : (∀ next ∈ later, next.pid ≠ turn.pid) ∧
      t.Parks turn.pid turn.ran ∧ (t.get? turn.pid).isSome = true := by
  induction earlier generalizing s with
  | nil =>
    cases taken with
    | turn valid rest =>
      obtain ⟨parks, live⟩ := valid.halts numbers stopped
      obtain ⟨others, parks⟩ := rest.parks parks
      exact ⟨others, parks, rest.isSome_get? others live⟩
  | cons first earlier ih =>
    cases taken with
    | turn valid rest => exact ih rest (first.follows.numbered numbers)

/-- A script that has a turn in an operation and halts in it has come to a breakpoint and goes on
behind it. It has no further turn in that operation, after which it is parked. -/
theorem Reachable.halts {config : SchedulerConfig} {engine : Option Engine} {patience : Nat}
    {op : Operation} {ran : Logged (Answer × Scheduler)} {earlier later : List ScriptTurn}
    {turn : ScriptTurn} (reached : Reachable config engine s)
    (performed : s.perform patience op = some ran)
    (turns : op.turns s patience = earlier ++ turn :: later) (stopped : turn.outcome = .halted) :
    (∃ machine : Machine, machine.listing[machine.pc.toNat]? = some .breakpoint ∧
      turn.ran.runtime = .bytecode { machine with pc := machine.pc + 1 }) ∧
    (∀ next ∈ later, next.pid ≠ turn.pid) ∧
      ran.value.2.Parks turn.pid turn.ran ∧ (ran.value.2.get? turn.pid).isSome = true := by
  rcases edit_or_turns reached.numbered performed with
    ⟨_, _, _, rfl, -, -⟩ | ⟨m, entries, moves, taken⟩
  · exact absurd turns.symm (by simp [Operation.turns])
  · rw [turns] at taken
    obtain ⟨_, slice⟩ := (taken.valid turn (by simp)).slice
    exact ⟨(stopped ▸ slice).breakpoint, taken.halts (moves.sound reached.sound).numbers stopped⟩

/-- A script that is halted is parked, and it is live. -/
theorem Halts.parks {config : SchedulerConfig} {engine : Option Engine} (halts : Halts pid s old h)
    (reached : Reachable config engine s) :
    h.Parks pid old ∧ (h.get? pid).isSome = true := by
  cases halts with
  | asked found halted =>
    obtain ⟨_, was, -, self, -⟩ := Evolves.get?_halt halted
    obtain rfl := Option.some.inj (found.symm.trans was)
    refine ⟨⟨?_, ?_⟩, Option.isSome_of_eq_some self⟩
    · have next : h.nextPid = s.nextPid := (follows_halt halted).nextPid
      exact next ▸ reached.numbered.lt_nextPid found
    · intro ex live
      obtain rfl := Option.some.inj (self.symm.trans live)
      exact ⟨rfl, rfl, rfl, rfl, rfl, rfl, rfl, rfl, rfl⟩
  | breakpoint performed had stopped =>
    obtain ⟨earlier, later, turns⟩ := List.append_of_mem had
    exact (reached.halts performed turns stopped).2.2

/-- A script is halted by its breakpoint. -/
example : ∃ s h pid old, performAll 1 [.start (.bytecode "stopper" [.breakpoint, .ret])]
    (.empty {} none) = some s ∧ Halts pid s old h ∧ h.debugger = [pid] := by
  refine ⟨_, _, _, _, rfl, @Halts.breakpoint _ 1 (.runReady 0) _ _ rfl List.mem_cons_self rfl, ?_⟩
  rfl

/-- A halt leads to a state that can be reached. -/
theorem Halts.reachable {config : SchedulerConfig} {engine : Option Engine}
    (halts : Halts pid s old h) (reached : Reachable config engine s) :
    Reachable config engine h := by
  cases halts with
  | asked found halted => exact reached.perform (perform_halt 0 halted)
  | breakpoint performed => exact reached.perform performed

end Halts

/-! ### After the release -/

/-- Where the script `ex` is in the state `u` after its release. -/
structure Rejoins (pid : Pid) (ex : Executor) (u : Scheduler) : Prop where
  /-- It is as it was, but it is no longer halted. -/
  script : ∃ freed, u.get? pid = some freed ∧ freed.Akin ex ∧ freed.halted = false
  unparked : pid ∉ u.debugger
  /-- If it is not blocked it is in the ready queue, once, and does not sleep. -/
  ready : ex.isBlocked = false →
    u.ready.count pid = 1 ∧ pid ∉ u.untimed ∧ ∀ key, (key, pid) ∉ u.timeouts
  /-- If it is blocked without a wake clock it is among the sleepers without one, once. -/
  untimed : ex.isBlocked = true → ex.thread.sleepUntil = Clock.never →
    u.untimed.count pid = 1 ∧ pid ∉ u.ready ∧ ∀ key, (key, pid) ∉ u.timeouts
  /-- If it is blocked with a wake clock it is among the sleepers, once and with this clock. -/
  timed : ex.isBlocked = true → ex.thread.sleepUntil ≠ Clock.never →
    (∃ seq, u.timeouts.filter (fun timer => timer.2 = pid) = [(⟨ex.thread.sleepUntil, seq⟩, pid)]) ∧
      pid ∉ u.ready ∧ pid ∉ u.untimed
  /-- If its clock has come by then, the next check wakes it. -/
  overdue : ex.isBlocked = true → ex.thread.sleepUntil ≠ Clock.never → ∀ now left,
    ex.thread.sleepUntil ≤ now → ∃ freed, u.get? pid = some freed ∧
      (u.checkBlocked now left).value.2.get? pid = some freed.timedOut ∧
      freed.timedOut.isBlocked = false ∧ (u.checkBlocked now left).value.2.ready.count pid = 1

section Release

variable {s u : Scheduler} {pid : Pid} {ex : Executor}

/-- A script that is released leaves the ready queue and comes last in it if it is not blocked. -/
theorem ready_release (found : s.get? pid = some ex) (listed : pid ∈ s.debugger)
    (released : s.release pid = .ok u) : u.ready =
      (s.ready.filter fun other => other ≠ pid) ++ if ex.isBlocked then [] else [pid] := by
  obtain rfl := Except.ok.inj ((Evolves.release_eq found listed).symm.trans released)
  let freed := { ex with halted := false }.mapThread Thread.detached
  have live : (s.unhalted pid).get? pid = some freed := by
    rw [Evolves.get?_unhalted_self, found]
    rfl
  have loose : ¬ freed.thread.holdList.isFixed = true := Bool.false_ne_true
  have queue : (s.unhalted pid).ready = s.ready.filter fun other => other ≠ pid :=
    ready_detach found
  split
  · rw [ready_hold live, if_neg loose, queue, List.filter_filter, List.append_nil]
    simp
  · rw [ready_schedule live, if_neg loose, queue, List.filter_filter]
    simp

/-- A script with one timer, whose clock has come, is due once. -/
theorem count_dueScripts {key : TimerKey} {now : Nat} (late : key.wake ≤ now)
    (timer : u.timeouts.filter (fun timer => timer.2 = pid) = [(key, pid)]) :
    (u.dueScripts now).count pid = 1 := by
  have dueOnce : (u.due now).filter (fun timer => timer.2 = pid) = [(key, pid)] := by
    unfold due
    rw [List.filter_comm, timer]
    simp [late]
  unfold dueScripts
  rw [List.count, List.countP_map, List.countP_eq_length_filter]
  simpa [Function.comp_def, beq_eq_decide] using congrArg List.length dueOnce

/-- A script that is released sleeps on if it is blocked, with its wake clock if it has one, and is
in no hold list if it is not blocked. -/
theorem seat_release {away : List Pid} (placed : Placed away s) (found : s.get? pid = some ex)
    (released : s.release pid = .ok u) : ∃ seq, u.seat pid =
      if ex.isBlocked then
        if ex.thread.sleepUntil = Clock.never then ⟨.noTimeout, none⟩
        else ⟨.timeout, some ⟨ex.thread.sleepUntil, seq⟩⟩
      else .free := by
  obtain ⟨was, live, -, ⟨seq, self⟩, -⟩ := Evolves.get?_release placed released
  obtain rfl := Option.some.inj (found.symm.trans live)
  refine ⟨seq, (seat_of_get? self).trans ?_⟩
  cases ex.isBlocked with
  | false => rfl
  | true =>
    rw [if_pos rfl]
    change (Seat.mk (ex.thread.detached.held seq).holdList (ex.thread.detached.held seq).timer) = _
    unfold Thread.held
    rw [if_neg fun fixed : ex.thread.detached.holdList.isFixed = true => Bool.false_ne_true fixed]
    change Seat.mk (if ex.thread.sleepUntil = Clock.never then _ else _ : Thread).holdList
      (if ex.thread.sleepUntil = Clock.never then _ else _ : Thread).timer = _
    split <;> rfl

/-- A script that is parked for the debugger is released and goes where its thread says. -/
theorem Reachable.rejoins {config : SchedulerConfig} {engine : Option Engine}
    (reached : Reachable config engine s) (found : s.get? pid = some ex)
    (parked : ex.thread.holdList = .debugger) :
    ∃ u, s.release pid = .ok u ∧ Rejoins pid ex u := by
  have listed : pid ∈ s.debugger := by
    rw [reached.placed.debugger, seat_of_get? found]
    exact parked
  obtain ⟨u, released⟩ := release_of_parked reached.placed found parked
  have after : Reachable config engine u := reached.perform (perform_release 0 released)
  have placed := after.placed
  -- what is released goes to the ready queue or, while it is blocked, back to its hold list
  have queue := ready_release found listed released
  obtain ⟨seq, seat⟩ := seat_release reached.placed found released
  have unready : ex.isBlocked = true → pid ∉ u.ready := by
    intro blocked
    rw [queue, if_pos blocked]
    simp
  have untimed : (u.seat pid).timer = none → ∀ key, (key, pid) ∉ u.timeouts := by
    intro none key mem
    exact absurd (((placed.timeouts pid key).mp mem).symm.trans none) (by simp)
  have timed : ex.isBlocked = true → ex.thread.sleepUntil ≠ Clock.never →
      u.timeouts.filter (fun timer => timer.2 = pid) = [(⟨ex.thread.sleepUntil, seq⟩, pid)] := by
    intro blocked ever
    refine placed.filter_timeouts ((placed.timeouts _ _).mpr ?_)
    rw [seat, if_pos blocked, if_neg ever]
  refine ⟨u, released, ?_⟩
  constructor
  case script =>
    obtain ⟨was, live, -, ⟨_, self⟩, -⟩ := Evolves.get?_release reached.placed released
    obtain rfl := Option.some.inj (found.symm.trans live)
    rcases (akin_release released).lookup pid with ⟨dead, -⟩ | ⟨freed, old, is, was, akin⟩
    · rw [self] at dead
      exact absurd dead (by simp)
    · obtain rfl := Option.some.inj (self.symm.trans is)
      obtain rfl := Option.some.inj (found.symm.trans was)
      exact ⟨_, self, akin, rfl⟩
  case unparked =>
    rw [placed.debugger, seat]
    split
    · split <;> simp
    · simp [Seat.free]
  case ready =>
    intro free
    have list : u.seat pid = .free := by rw [seat, if_neg (by simp [free])]
    refine ⟨?_, ?_, untimed (by rw [list]; rfl)⟩
    · rw [queue, if_neg (by simp [free]), List.count_append, List.count_singleton_self,
        List.count_eq_zero_of_not_mem (by simp)]
    · rw [placed.untimed, list]
      simp [Seat.free]
  case untimed =>
    intro blocked never
    have list : u.seat pid = ⟨.noTimeout, none⟩ := by rw [seat, if_pos blocked, if_pos never]
    refine ⟨?_, unready blocked, untimed (by rw [list])⟩
    exact List.count_eq_one_of_mem (nodup_of_sorted placed.sortedUntimed)
      ((placed.untimed pid).mpr (by rw [list]))
  case timed =>
    intro blocked ever
    refine ⟨⟨seq, timed blocked ever⟩, unready blocked, ?_⟩
    rw [placed.untimed, seat, if_pos blocked, if_neg ever]
    simp
  case overdue =>
    intro blocked ever now left late
    have wakes := after.wakesDue now left
    have once : (u.dueScripts now).count pid = 1 := count_dueScripts late (timed blocked ever)
    obtain ⟨freed, live, woken, free, -⟩ :=
      wakes.woken pid (List.count_pos_iff.mp (once ▸ Nat.one_pos))
    refine ⟨freed, live, woken, free, ?_⟩
    rw [wakes.state]
    change (u.ready ++ u.dueScripts now).count pid = 1
    rw [List.count_append, once, List.count_eq_zero_of_not_mem (unready blocked)]

end Release

/-! ### Transparency -/

/-- The end of each turn in an operation on the state `s`, which may be the turn of a child, does
the same in every state that is the same but for places. -/
def Scheduler.SettlesAlike (s : Scheduler) : Prop :=
  ∀ patience (op : Operation), ∀ turn ∈ op.turns s patience, ∀ u, turn.before.Akin u →
    Logged.Agree (AkinWith Eq) ((turn.before.store turn.ran).settle turn.ran turn.outcome)
      ((u.store turn.ran).settle turn.ran turn.outcome)

/-- In every state turns are settled alike. -/
theorem Scheduler.settlesAlike (s : Scheduler) : s.SettlesAlike :=
  fun _ _ turn _ _ akin => (akin.store (.refl turn.ran)).settle _ _

/-- The live script `ex` in the state `t`, to which the operations `past` have led since the script
was halted as `old`, none of which has released it. -/
structure StandsStill (pid : Pid) (old : Executor) (past : List Performed) (t : Scheduler)
    (ex : Executor) : Prop where
  /-- It is parked and has not run. -/
  parked : old.Parked ex
  /-- None of the operations has given it a turn. -/
  turnless : ∀ step ∈ past, ∀ turn ∈ step.turns, turn.pid ≠ pid
  /-- No check wakes it or changes it otherwise. -/
  unwoken : ∀ now left, (t.checkBlocked now left).value.2.get? pid = some ex
  /-- What is sent to it changes it as it changes the script in a state that is the same but for
  places, whether it is halted there or not; so does every operation that is not about places. -/
  delivered : ∀ u, t.Akin u → ∀ patience op, op.isAboutPlaces = false →
    Option.Rel Agrees (t.perform patience op) (u.perform patience op)
  /-- So does the end of each turn of another script. -/
  turns : t.SettlesAlike
  /-- It can be released, which leads to a state that is the same but for places, and goes where
  its thread says by now. -/
  released : ∃ u, t.release pid = .ok u ∧ t.Akin u ∧ Rejoins pid ex u

/-- In a state halts of a script are transparent. -/
structure HaltsTransparently (s : Scheduler) (pid : Pid) : Prop where
  /-- Unless the engine manages it, a live script can be halted, which leads to a state that is the
  same but for places. -/
  halts : ∀ ex, s.get? pid = some ex → ex.thread.holdList ≠ .external →
    ∃ h, s.halt pid = .ok h ∧ s.Akin h
  /-- A turn that ends in a halt has come to a breakpoint and goes on behind it, but the script has
  no further turn in that operation. -/
  breakpoints : ∀ patience op ran, s.perform patience op = some ran →
    ∀ earlier turn later, op.turns s patience = earlier ++ turn :: later →
      turn.outcome = .halted →
        (∃ machine : Machine, machine.listing[machine.pc.toNat]? = some .breakpoint ∧
          turn.ran.runtime = .bytecode { machine with pc := machine.pc + 1 }) ∧
        ∀ next ∈ later, next.pid ≠ turn.pid
  /-- What the turns of that operation end in changes the script as if it was not halted. -/
  turns : s.SettlesAlike
  /-- A script that is halted, on request or by a breakpoint, is live and parked. -/
  parks : ∀ old h, Halts pid s old h → ∃ ex, h.get? pid = some ex ∧ old.Parked ex
  /-- It stands still until it is released. -/
  stands : ∀ old h, Halts pid s old h → ∀ past t, History h past t →
    (∀ step ∈ past, step.op ≠ .release pid) → ∀ ex, t.get? pid = some ex →
      StandsStill pid old past t ex

/-- In every reachable state halts are transparent. -/
theorem Reachable.haltsTransparently {config : SchedulerConfig} {engine : Option Engine}
    {s : Scheduler} (reached : Reachable config engine s) (pid : Pid) :
    HaltsTransparently s pid := by
  constructor
  case halts =>
    intro ex found mine
    have halted : s.halt pid = .ok (((s.detach pid).modify pid fun ex =>
        { ex with halted := true }).parkDebugger pid) := by
      unfold halt
      rw [found]
      exact if_neg mine
    exact ⟨_, halted, (akin_halt halted).symm⟩
  case breakpoints =>
    intro patience op ran performed earlier turn later turns stopped
    obtain ⟨fetched, turnless, -⟩ := reached.halts performed turns stopped
    exact ⟨fetched, turnless⟩
  case turns => exact s.settlesAlike
  case parks =>
    intro old h halts
    obtain ⟨parks, live⟩ := halts.parks reached
    obtain ⟨ex, found⟩ := Option.isSome_iff_exists.mp live
    exact ⟨ex, found, parks.parked ex found⟩
  case stands =>
    intro old h halts past t history unreleased ex found
    have reachedHalt := halts.reachable reached
    have reachedNow := history.reachable reachedHalt
    obtain ⟨turnless, parks⟩ := history.parks reachedHalt (halts.parks reached).1 unreleased
    have parked := parks.parked ex found
    obtain ⟨u, released, rejoins⟩ := reachedNow.rejoins found parked.held
    constructor
    case parked => exact parked
    case turnless => exact turnless
    case unwoken =>
      intro now left
      have early := reachedNow.placed.isDue_of_untimed found (by simp [parked.held]) now
      rw [get?_checkBlocked reachedNow.sound, found, Option.map_some, early]
      rfl
    case delivered => exact fun u akin patience op blind => akin.perform patience blind
    case turns => exact t.settlesAlike
    case released => exact ⟨u, released, (akin_release released).symm, rejoins⟩

/-- A sleeper is halted, its clock comes while it is halted, and once it is released the next check
wakes it. -/
theorem haltsTransparently_sleeping : ∃ s h t u,
    performAll 1 sleepingRun (.empty {} none) = some s ∧ s.halt ⟨1⟩ = .ok h ∧
      performAll 1 [.checkBlocked 200 0, .runReady 200] h = some t ∧ t.ready = [] ∧
      t.release ⟨1⟩ = .ok u ∧ u.timeouts.map (fun timer => timer.1.wake) = [100] ∧
      (u.checkBlocked 200 0).value.2.ready = [⟨1⟩] ∧ HaltsTransparently s ⟨1⟩ := by
  have performed : performAll 1 sleepingRun (.empty {} none) = some _ := rfl
  refine ⟨_, _, _, _, performed, rfl, rfl, rfl, rfl, rfl, rfl, ?_⟩
  exact Reachable.haltsTransparently (Reachable.empty.performAll performed) ⟨1⟩

end ScriptScheduler
