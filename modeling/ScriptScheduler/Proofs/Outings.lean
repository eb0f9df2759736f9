import ScriptScheduler.Proofs.Ledger
import ScriptScheduler.Proofs.Slots
import ScriptScheduler.Proofs.Solo

/-!
# Scripts that nobody disturbs

An outing is what becomes of a script from its launch on if nobody disturbs it: it gets its turns, is
woken by the clock, and may be halted and released, while anything at all is done to the other
scripts. However passes, clocks and the other scripts go, the script stays on its course until it
leaves, and its record tells how the course ended (`Outing.stands`). So it comes out alike on all its
outings, and as if the program had been run to its end at once.
-/

namespace ScriptScheduler

open Scheduler

/-! ### Operations that disturb a script -/

/-- Whether an operation does more to a script than to give it its turns, to wake it, to halt it and
to release it. -/
def Operation.Disturbs (pid : Pid) : Operation → Prop
  | .runScript other _ | .signal other _ | .kill other | .deschedule other | .request other _ _ _
  | .requestWithTimeout _ other _ _ _ _ | .edit other _ => other = pid
  | .shutdown => True
  | _ => False

/-- In the steps of operations that do not disturb a script nobody disturbs it. -/
theorem undisturbed_steps {pid : Pid} {patience : Nat} {ops : List Operation}
    (calm : ∀ op ∈ ops, ¬ op.Disturbs pid) :
    ∀ {s : Scheduler}, ∀ step ∈ s.steps patience ops, ¬ step.op.Disturbs pid := by
  induction ops with
  | nil => exact fun step mem => absurd mem List.not_mem_nil
  | cons op rest ih =>
    intro s step mem
    obtain ⟨first, others⟩ := List.forall_mem_cons.mp calm
    rcases List.mem_cons.mp mem with rfl | later
    · exact first
    · split at later
      · exact absurd later List.not_mem_nil
      · exact ih others step later

/-- Beside its turns an operation that does not disturb a script does nothing that disturbs it. -/
theorem Operation.Prepares.disturbs {op : Operation} {pid : Pid} {act : Act}
    (prepares : op.Prepares act) (disturbs : act.Disturbs pid) : op.Disturbs pid := by
  obtain ⟨does, turnless⟩ := prepares
  cases op with
  | runToCompletion | runReady =>
    obtain ⟨other, rfl⟩ := does
    exact absurd rfl (turnless other)
  | runScript | signal | kill | deschedule | request | requestWithTimeout =>
    cases does
    exact disturbs
  | shutdown => trivial
  | checkBlocked | halt | release | abort | abortAll | entityDisconnected =>
    cases does
    exact disturbs
  | respond | respondToEntity =>
    obtain ⟨value, rfl⟩ := does
    exact disturbs
  | start | startWith | pumpExternal | settleCall | edit | takeExits => exact does.elim

/-! ### Where a script stands -/

/-- A script is on its course, as far as its records tell: it is live and has not been recorded, or it
has left with one record, which tells how its course ended. -/
inductive Stands (start : Solo) (step : Nat) (limit : Option Nat) (pid : Pid) (s : Scheduler)
    (records : List ScriptExit) : Prop
  | live {ex : Executor} {solo : Solo} (found : s.get? pid = some ex) (never : records = [])
      (leads : Solo.Leads step limit start solo) (plays : ex.Plays step limit solo)
  | left {exit : ScriptExit} {solo : Solo} (dead : s.get? pid = none) (once : records = [exit])
      (leads : Solo.Leads step limit start solo) (ends : solo.ending? step limit = some exit.ending)

/-- A record of a script that is on its course tells how the course ended. -/
theorem Stands.ends_of_mem {start : Solo} {step : Nat} {limit : Option Nat} {pid : Pid}
    {s : Scheduler} {records : List ScriptExit} {exit : ScriptExit}
    (h : Stands start step limit pid s records) (mem : exit ∈ records) :
    ∃ solo, Solo.Leads step limit start solo ∧ solo.ending? step limit = some exit.ending := by
  cases h with
  | live _ never =>
    rw [never] at mem
    exact absurd mem List.not_mem_nil
  | left _ once leads ends =>
    rw [once] at mem
    obtain rfl := List.mem_singleton.mp mem
    exact ⟨_, leads, ends⟩

section Steps

variable {start solo : Solo} {step : Nat} {limit : Option Nat} {pid : Pid} {ex : Executor}

/-- In moves that do not disturb it a script stays where it is on its course. -/
theorem MovesBy.plays {may : Act → Prop} {m m' : Moment} {entries : List Entry}
    (moves : MovesBy may m entries m') (sound : m.Sound) (staffed : m.Staffed)
    (fit : m.state.Fit) (undisturbed : ∀ act, may act → ¬ act.Disturbs pid)
    (found : m.state.get? pid = some ex) (h : ex.Plays step limit solo) :
    ∃ ex', m'.state.get? pid = some ex' ∧ ex'.Plays step limit solo := by
  have plays : ∀ {m' : Moment} {entries : List Entry}, MovesBy may m entries m' →
      ∀ ex', m'.state.get? pid = some ex' → ex'.Fit ∧ ex'.Plays step limit solo := by
    intro m' entries moves
    refine moves.scripts sound ?_ ?_ ?_
    · exact fun new => absurd (sound.numbers.lt_nextPid found) (Nat.not_lt_of_le new)
    · rintro gone a b rfl change ⟨fit, plays⟩
      exact ⟨change.any.fit fit, change.plays plays fit undisturbed⟩
    · intro ex' live
      obtain rfl := Option.some.inj (found.symm.trans live)
      exact ⟨fit.scripts pid ex found, h⟩
  suffices live : m'.Staffed ∧ (m'.state.get? pid).isSome = true by
    obtain ⟨ex', still⟩ := Option.isSome_iff_exists.mp live.2
    exact ⟨ex', still, (plays moves ex' still).2⟩
  induction moves with
  | refl => exact ⟨staffed, Option.isSome_of_eq_some found⟩
  | @step m₂ m₃ _ _ before move ih =>
    obtain ⟨staffed₂, live⟩ := ih
    have sound₂ := before.sound sound
    obtain ⟨ex₂, found₂⟩ := Option.isSome_iff_exists.mp live
    refine ⟨move.any.staffed sound₂ staffed₂, ?_⟩
    exact move.stays sound₂ staffed₂ found₂ (plays before ex₂ found₂).2.isEngine
      (fun turned => absurd rfl (undisturbed _ turned)) (fun _ allowed => undisturbed _ allowed rfl)
      (fun allowed => undisturbed _ allowed rfl)

/-- Whoever retires a script is told what is recorded. -/
theorem retire_exit (s : Scheduler) (ex : Executor) (reason : ExitReason) :
    (s.retire ex reason).value.1 = exitOf ex reason := by
  rw [← Departs.exitOf_remove s ex reason]
  unfold retire
  simp only [Logged.bind_value]
  split <;> rfl

/-- A script that its slice has ended exits, and its record tells how. -/
theorem settle_exit {s : Scheduler} {ran : Executor} {outcome : SliceOutcome} {ending : Ending}
    (verdict : ran.verdict? outcome = some ending) :
    ∃ exit : ScriptExit, (s.settle ran outcome).value.1 = some exit ∧
      (s.settle ran outcome).value.2.exits = s.exits ++ [exit] ∧ exit.pid = ran.pid ∧
        exit.ending = ending := by
  cases outcome with
  | finished =>
    obtain rfl := Option.some.inj verdict
    exact ⟨exitOf ran .finished, congrArg some (retire_exit s ran _), exits_retire s ran _, rfl, rfl⟩
  | faulted cause =>
    obtain rfl := Option.some.inj verdict
    let last : Executor := { ran with result := some (.fail ErrorCode.fault cause.message) }
    exact ⟨exitOf last .faulted, congrArg some (retire_exit s last _), exits_retire s last _, rfl, rfl⟩
  | runaway =>
    obtain rfl := Option.some.inj verdict
    let message := "exceeded " ++ toString ran.runawayCycles ++ " runaway cycles"
    let last : Executor := { ran with result := some (.fail ErrorCode.runaway message) }
    exact ⟨exitOf last .runaway, congrArg some (retire_exit s last _), exits_retire s last _, rfl, rfl⟩
  | preempted | blocked | halted | external => exact absurd verdict (by simp [Executor.verdict?])

/-- A turn takes the script that has it along its course. -/
theorem ScriptTurn.Valid.takes {turn : ScriptTurn} (valid : turn.Valid) (fit : turn.before.Fit)
    (leads : Solo.Leads step turn.before.config.maxRunawayCycles start solo)
    (h : turn.script.Plays step turn.before.config.maxRunawayCycles solo) :
    Stands start step turn.before.config.maxRunawayCycles turn.pid turn.after
      (turn.after.recordsOf turn.pid) := by
  have bytecode := h.isEngine
  have own := valid.get?_own bytecode
  have awake : turn.script.isBlocked = false :=
    ((fit.scripts _ _ valid.found).timely bytecode).free valid.free
  obtain ⟨_, slice⟩ := valid.slice
  cases h.slice awake slice with
  | plays onward undecided plays =>
    have here : turn.outcome ≠ .external := fun away =>
      absurd (bytecode.symm.trans (away ▸ slice).isEngine) (by decide)
    obtain ⟨ex, placed, plays⟩ := plays.placed undecided here turn.before.nextTimerSeq
    have live : turn.after.get? turn.pid = some ex := own.trans placed
    exact .live live (recordsOf_of_live (valid.fit fit).recorded live) (leads.trans onward) plays
  | ends onward verdict ends =>
    obtain ⟨exit, -, exits, about, rfl⟩ := settle_exit (s := turn.before.store turn.ran) verdict
    have number : exit.pid = turn.pid := about.trans valid.carries.pid
    have before : turn.before.recordsOf turn.pid = [] := recordsOf_of_live fit.recorded valid.found
    have once : turn.after.recordsOf turn.pid = [exit] := by
      calc turn.after.recordsOf turn.pid
          = (turn.before.exits ++ [exit]).filter fun exit => exit.pid = turn.pid :=
            congrArg _ exits
        _ = turn.before.recordsOf turn.pid ++ [exit] := by
            rw [List.filter_append]
            simp [recordsOf, number]
        _ = [exit] := by rw [before, List.nil_append]
    exact .left (own.trans (Executor.placed_of_verdict verdict _)) once (leads.trans onward) ends

/-- Another script stays where it is on its course in a turn. -/
theorem ScriptTurn.Valid.passesBy {turn : ScriptTurn} (valid : turn.Valid)
    (fit : turn.before.Fit) (ne : pid ≠ turn.pid) (found : turn.before.get? pid = some ex)
    (h : ex.Plays step limit solo) :
    ∃ ex', turn.after.get? pid = some ex' ∧ ex'.Plays step limit solo := by
  obtain ⟨ex', still⟩ : ∃ ex', turn.after.get? pid = some ex' := by
    rcases valid.get?_other ne with same | ⟨gone, same⟩
    · exact ⟨ex, same.trans found⟩
    · exact ⟨ex.bereft gone, by rw [same, found]; rfl⟩
  obtain ⟨old, was, changes⟩ := valid.evolves pid ex' still
  obtain rfl := Option.some.inj (found.symm.trans was)
  refine ⟨ex', still, (changes.keeps (P := fun ex => ex.pid = pid ∧ ex.Fit ∧
    ex.Plays step limit solo) ?_ ⟨pid_of_get? found, fit.scripts pid ex found, h⟩).2.2⟩
  rintro a b change ⟨rfl, fit, plays⟩
  refine ⟨change.any.kind.1, change.any.fit fit, change.plays plays fit ?_⟩
  rintro act rfl own
  exact ne own.symm

/-- In turns one after the other a script remains on its course. -/
theorem TakeTurns.stands {turns : List ScriptTurn} {s s' : Scheduler}
    (taken : TakeTurns turns s s') (fit : s.Fit) (limited : s.config.maxRunawayCycles = limit)
    (h : Stands start step limit pid s (s.recordsOf pid)) :
    Stands start step limit pid s' (s'.recordsOf pid) := by
  induction taken with
  | nothing => exact h
  | @turn turn _ _ valid _ ih =>
    have after := valid.fit fit
    have config : turn.after.config = turn.before.config := turn.follows.config
    refine ih after (config ▸ limited) ?_
    cases h with
    | left dead once leads ends =>
      have same := (valid.engages fit).recordsOf dead
      exact .left (turn.follows.gone dead) (same.trans once) leads ends
    | live found never leads plays =>
      by_cases own : pid = turn.pid
      · subst own limited
        obtain rfl := Option.some.inj (found.symm.trans valid.found)
        exact valid.takes fit leads plays
      · obtain ⟨ex', still, plays⟩ := valid.passesBy fit own found plays
        exact .live still (recordsOf_of_live after.recorded still) leads plays

/-! ### Operations -/

variable {config : SchedulerConfig} {engine : Option Engine} {past : List Performed}
  {s : Scheduler} {patience : Nat} {op : Operation} {ran : Logged (Answer × Scheduler)}

/-- In an operation that does not disturb it a live script remains on its course. -/
theorem Reachable.stands (reached : Reachable config engine s)
    (performed : s.perform patience op = some ran) (undisturbed : ¬ op.Disturbs pid)
    (found : s.get? pid = some ex) (leads : Solo.Leads step config.maxRunawayCycles start solo)
    (plays : ex.Plays step config.maxRunawayCycles solo) :
    Stands start step config.maxRunawayCycles pid ran.value.2 (ran.value.2.recordsOf pid) := by
  rcases edit_or_turns reached.numbered performed with
    ⟨edited, edit, other, rfl, isOther, eq⟩ | ⟨m, entries, moves, taken⟩
  · have ne : pid ≠ (edit.apply other).pid := by
      rw [(edit.seat_apply other).2, pid_of_get? isOther]
      exact Ne.symm undisturbed
    have still : ran.value.2.get? pid = some ex := by
      rw [eq, get?_store_of_ne ne]
      exact found
    exact .live still (recordsOf_of_live (reached.perform performed).fit.recorded still) leads plays
  · have limited : m.state.config.maxRunawayCycles = config.maxRunawayCycles := by
      rw [moves.config reached.sound]
      exact congrArg SchedulerConfig.maxRunawayCycles reached.config_eq
    have fit : m.state.Fit := moves.fit reached.orderly reached.fit
    obtain ⟨ex', live, plays⟩ := moves.plays reached.sound reached.staffed reached.fit
      (fun _ prepares disturbs => undisturbed (prepares.disturbs disturbs)) found plays
    exact taken.stands fit limited (.live live (recordsOf_of_live fit.recorded live) leads plays)

/-- A script that has left does not come back, and no more records are made of it. -/
theorem Reachable.rests (reached : Reachable config engine s)
    (performed : s.perform patience op = some ran) (untaken : op ≠ .takeExits)
    (old : pid.number < s.nextPid.number) (dead : s.get? pid = none) :
    ran.value.2.get? pid = none ∧ ran.value.2.recordsOf pid = s.recordsOf pid := by
  by_cases asked : op = .deschedule pid
  · subst asked
    obtain rfl := Option.some.inj performed
    have still : (s.deschedule pid).value.2 = s := by
      unfold Scheduler.deschedule
      rw [dead]
      rfl
    change (s.deschedule pid).value.2.get? pid = none ∧ (s.deschedule pid).value.2.recordsOf pid = _
    rw [still]
    exact ⟨dead, rfl⟩
  · have spends := reached.spends performed (fun new => absurd old (Nat.not_lt_of_le new)) asked
      untaken
    generalize Performed.spent ⟨s, patience, op⟩ pid = amount at spends
    cases spends with
    | absent _ still records => exact ⟨still, records⟩
    | lives found | exits found => exact absurd (found.symm.trans dead) (by simp)

/-- In a step that does not disturb it a script remains on its course. -/
theorem Stands.perform (h : Stands start step config.maxRunawayCycles pid s (recorded past s pid))
    (reached : Reachable config engine s) (performed : s.perform patience op = some ran)
    (old : pid.number < s.nextPid.number)
    (undisturbed : (s.get? pid).isSome = true → ¬ op.Disturbs pid) :
    Stands start step config.maxRunawayCycles pid ran.value.2
      (recorded (past ++ [⟨s, patience, op⟩]) ran.value.2 pid) := by
  -- records that are taken are not lost, as those taken before are counted too
  by_cases taken : op = .takeExits
  · subst taken
    obtain rfl := Option.some.inj performed
    change Stands start step config.maxRunawayCycles pid s.takeExits.2
      (recorded (past ++ [⟨s, patience, .takeExits⟩]) s.takeExits.2 pid)
    rw [recorded_takeExits]
    cases h with
    | live found never leads plays => exact .live found never leads plays
    | left dead once leads ends => exact .left dead once leads ends
  have untaken : Performed.takenExits ⟨s, patience, op⟩ = [] := by
    cases op with
    | takeExits => exact absurd rfl taken
    | _ => rfl
  cases h with
  | live found never leads plays =>
    have before : s.recordsOf pid = [] := recordsOf_of_live reached.fit.recorded found
    have more : recorded (past ++ [⟨s, patience, op⟩]) ran.value.2 pid =
        ran.value.2.recordsOf pid := by
      rw [recorded_append past untaken (s := s) (by rw [before]; rfl), never]
      rfl
    rw [more]
    exact reached.stands performed (undisturbed (Option.isSome_of_eq_some found)) found leads plays
  | left dead once leads ends =>
    obtain ⟨still, records⟩ := reached.rests performed taken old dead
    have same := recorded_append past untaken (records.trans (List.append_nil _).symm)
    rw [List.append_nil] at same
    exact .left still (same.trans once) leads ends

/-- In a history in which nobody disturbs it a script remains on its course. -/
theorem History.stands {first last : Scheduler} (history : History first past last)
    (reached : Reachable config engine first) (found : first.get? pid = some ex)
    (plays : ex.Plays step config.maxRunawayCycles start)
    (undisturbed : ∀ step ∈ past, (step.state.get? pid).isSome = true → ¬ step.op.Disturbs pid) :
    Stands start step config.maxRunawayCycles pid last (recorded past last pid) := by
  suffices both : pid.number < last.nextPid.number ∧ _ from both.2
  induction history with
  | refl =>
    exact ⟨reached.numbered.lt_nextPid found,
      .live found (recordsOf_of_live reached.fit.recorded found) .refl plays⟩
  | @step mid _ _ _ _ before performed ih =>
    obtain ⟨old, stands⟩ := ih
      fun step mem => undisturbed step (List.mem_append_left _ mem)
    have here := before.reachable reached
    refine ⟨Nat.lt_of_lt_of_le old (here.nextPid performed), ?_⟩
    exact stands.perform here performed old
      (undisturbed _ (List.mem_append_right _ (List.mem_singleton_self _)))

end Steps

/-! ### Launches -/

/-- A program at its start. -/
def Solo.begin (machine : Machine) (options : Options) : Solo where
  straight := options.runToCompletion
  machine := machine
  warnOn := options.runawayThreshold

/-- A new script of a bytecode program. -/
def Executor.ofMachine (pid : Pid) (program : Program) (options : Options) (machine : Machine) :
    Executor :=
  { Executor.new pid options with program := some program, runtime := .bytecode machine }

section Launch

variable {s : Scheduler} {program : Program} {options : Options} {ex : Executor}
  {machine : Machine} {limit : Option Nat}

/-- A bytecode program becomes a script if it has code and its machine accepts the code. -/
theorem prepare_bytecode (type : program.type = .bytecode) :
    s.prepare program options = .ok ex ↔ program.hasCode = true ∧
      ∃ machine, Machine.load program = .ok machine ∧
        ex = .ofMachine s.nextPid program options machine := by
  have made : s.prepare program options = if program.hasCode then
      match Machine.load program with
      | .error cause => .error (.load program.scriptname cause)
      | .ok machine => .ok (.ofMachine s.nextPid program options machine)
      else .error (.emptyProgram program.scriptname) := by
    unfold prepare Executor.setProgram Executor.bindRuntime
    dsimp only [Executor.new]
    rw [type]
    cases program.hasCode with
    | false => rfl
    | true => cases Machine.load program <;> rfl
  rw [made]
  cases program.hasCode with
  | false => simp
  | true => cases Machine.load program <;> simp [eq_comm]

/-- A new script of a bytecode program is at the start of its course. -/
theorem Executor.plays_ofMachine (pid : Pid) (program : Program) (machine : Machine)
    (bounded : options.critical = false ∨ limit = none) :
    (Executor.ofMachine pid program options machine).Plays (max 1 options.runawayThreshold) limit
      (.begin machine options) where
  bounded := bounded
  runawayStep := rfl
  undecided := rfl
  eventless := rfl
  unasked := rfl
  childless := rfl
  here := rfl

/-- The program and the options of a launch. -/
def Operation.launch? (config : SchedulerConfig) : Operation → Option (Program × Options)
  | .start program | .runScript _ program => some (program, .ofConfig config)
  | .startWith program options => some (program, options)
  | _ => none

/-- An operation that may be refused launches a script only if it is not refused. -/
theorem of_attempt_launched {tried : Except (Refusal Scheduler) (Logged (Pid × Scheduler))}
    {pid : Pid} (launched : (attempt .launched tried).value.1 = .launched pid) :
    ∃ ran, tried = .ok ran ∧ ran.value.1 = pid ∧
      (attempt .launched tried).value.2 = ran.value.2 := by
  cases tried with
  | error => exact absurd launched (by simp [Scheduler.attempt, refusing])
  | ok ran => exact ⟨ran, rfl, Answer.launched.inj launched, rfl⟩

/-- A bytecode script that has been launched is at the start of its course. -/
theorem plays_of_launch {patience : Nat} {op : Operation} {ran : Logged (Answer × Scheduler)}
    {pid : Pid} (numbers : s.Numbered) (launch : op.launch? s.config = some (program, options))
    (performed : s.perform patience op = some ran) (launched : ran.value.1 = .launched pid)
    (type : program.type = .bytecode) (bounded : options.critical = false ∨ limit = none) :
    ∃ machine ex, program.hasCode = true ∧ Machine.load program = .ok machine ∧
      ran.value.2.get? pid = some ex ∧
        ex.Plays (max 1 options.runawayThreshold) limit (.begin machine options) := by
  -- the three ways to launch a script prepare it alike
  have queued : ∀ {ran : Logged (Pid × Scheduler)},
      s.startScriptWith program options = .ok ran → ∃ machine ex, program.hasCode = true ∧
        Machine.load program = .ok machine ∧ ran.value.2.get? ran.value.1 = some ex ∧
          ex.Plays (max 1 options.runawayThreshold) limit (.begin machine options) := by
    intro ran started
    obtain ⟨ex, prepared, rfl⟩ := startScriptWith_launched started
    have live := get?_enroll_self (get?_of_prepare numbers prepared)
    obtain ⟨code, machine, load, rfl⟩ := (prepare_bytecode type).mp prepared
    exact ⟨machine, _, code, load, live, Executor.plays_ofMachine _ _ _ bounded⟩
  cases op with
  | start | startWith =>
    obtain ⟨rfl, rfl⟩ := Prod.mk.inj (Option.some.inj launch)
    obtain rfl := Option.some.inj performed
    obtain ⟨ran, started, rfl, after⟩ := of_attempt_launched launched
    rw [after]
    exact queued started
  | runScript parent program =>
    obtain ⟨same, rfl⟩ := Prod.mk.inj (Option.some.inj launch)
    subst same
    obtain rfl := Option.some.inj performed
    obtain ⟨ran, started, rfl, after⟩ := of_attempt_launched launched
    obtain ⟨waiting, child, isParent, -, prepared, eq⟩ := runScript_eq started
    obtain ⟨live, -, -⟩ := get?_awaitChild numbers prepared isParent
    obtain ⟨code, machine, load, rfl⟩ := (prepare_bytecode type).mp prepared
    have plays : Executor.Plays _ _ limit _ :=
      Executor.plays_ofMachine s.nextPid program machine bounded
    rw [after, eq]
    exact ⟨machine, _, code, load, live, { plays with here := rfl }⟩
  | _ => exact absurd launch (by simp [Operation.launch?])

end Launch

/-! ### Programs that are run to their end at once -/

/-- A program that is run straight to its end, and for long enough, returns what its course comes to,
and its record tells how it has ended. -/
theorem completes {s : Scheduler} {program : Program} {ex : Executor} {step patience : Nat}
    {limit : Option Nat} {solo last : Solo} {ending : Ending}
    (prepared : s.prepare program (completionOptions s.config) = .ok ex)
    (limited : s.config.maxRunawayCycles = limit) (plays : ex.Plays step limit solo)
    (awake : ex.isBlocked = false) (straight : solo.straight = true)
    (leads : Solo.Leads step limit solo last) (ends : last.ending? step limit = some ending)
    (now : Nat) (enough : ending.instrs < solo.instrs + patience) :
    ∃ exit ran, s.runToCompletion patience now program = .ok (some ran) ∧
      ran.value.1 = exit.result ∧ ran.value.2.exits = s.exits ++ [exit] ∧
        exit.pid = s.nextPid ∧ exit.ending = ending := by
  obtain ⟨ran, outcome, entries, runs, verdict⟩ : ∃ ran outcome entries,
      ex.runToEnd now limit patience = some ⟨(ran, outcome), entries⟩ ∧
        ran.verdict? outcome = some ending :=
    plays.runsOut awake straight leads ends enough (Nat.lt_succ_self patience)
  have number : ran.pid = s.nextPid :=
    (Executor.slice_of_runCycles runs).carries.pid.trans (pid_of_prepare prepared)
  let launched : Scheduler := (s.enroll ex).value
  obtain ⟨exit, settled, exits, about, same⟩ := settle_exit (s := launched.store ran) verdict
  obtain ⟨done, completed, returned, after⟩ : ∃ done,
      s.runToCompletion patience now program = .ok (some done) ∧ done.value.1 = exit.result ∧
        done.value.2 = ((launched.store ran).settle ran outcome).value.2 := by
    unfold runToCompletion
    rw [prepared, limited]
    dsimp only
    rw [runs]
    refine ⟨_, rfl, ?_, rfl⟩
    simp only [Logged.bind_value, Logged.pure_value]
    rw [settled]
  exact ⟨exit, done, completed, returned, after ▸ exits, about.trans number, same⟩

/-! ### Outings -/

/-- What becomes of a script from its launch on if nobody disturbs it. -/
structure Outing where
  config : SchedulerConfig
  engine : Option Engine
  /-- The state in which the script is launched. -/
  before : Scheduler
  reached : Reachable config engine before
  program : Program
  options : Options
  patience : Nat
  op : Operation
  launch : op.launch? config = some (program, options)
  ran : Logged (Answer × Scheduler)
  performed : before.perform patience op = some ran
  pid : Pid
  launched : ran.value.1 = .launched pid
  /-- What is done from then on, to the script and to others. -/
  later : List Performed
  last : Scheduler
  history : History ran.value.2 later last
  /-- As long as the script is live nobody disturbs it. -/
  undisturbed : ∀ step ∈ later, (step.state.get? pid).isSome = true → ¬ step.op.Disturbs pid

/-- The exit records that have been made of the script, whether they have been taken or not. -/
def Outing.records (outing : Outing) : List ScriptExit := recorded outing.later outing.last outing.pid

/-- The answer to the start of a program and the state after it. -/
def Scheduler.started (s : Scheduler) (program : Program) : Logged (Answer × Scheduler) :=
  attempt .launched (s.startScript program)

/-- The outing of a program that is started, after which operations are performed that do not disturb
its script. -/
def Outing.ofOps {config : SchedulerConfig} {engine : Option Engine} {before : Scheduler}
    (reached : Reachable config engine before) (program : Program) (pid : Pid)
    (launched : (before.started program).value.1 = .launched pid) (patience : Nat)
    (ops : List Operation) (calm : ∀ op ∈ ops, ¬ op.Disturbs pid)
    (can : (performAll patience ops (before.started program).value.2).isSome = true) : Outing where
  config := config
  engine := engine
  before := before
  reached := reached
  program := program
  options := .ofConfig config
  patience := patience
  op := .start program
  launch := rfl
  ran := before.started program
  performed := rfl
  pid := pid
  launched := launched
  later := [] ++ (before.started program).value.2.steps patience ops
  last := (performAll patience ops (before.started program).value.2).get can
  history := (History.refl _).performAll (Option.some_get can).symm
  undisturbed step mem _ := undisturbed_steps calm step mem

/-- A script on an outing is on its course. -/
theorem Outing.stands (outing : Outing) (type : outing.program.type = .bytecode)
    (bounded : outing.options.critical = false ∨ outing.config.maxRunawayCycles = none) :
    ∃ machine, outing.program.hasCode = true ∧ Machine.load outing.program = .ok machine ∧
      Stands (.begin machine outing.options) (max 1 outing.options.runawayThreshold)
        outing.config.maxRunawayCycles outing.pid outing.last outing.records := by
  have reached := outing.reached
  obtain ⟨machine, ex, code, load, found, plays⟩ := plays_of_launch reached.numbered
    (reached.config_eq ▸ outing.launch) outing.performed outing.launched type bounded
  exact ⟨machine, code, load,
    outing.history.stands (reached.perform outing.performed) found plays outing.undisturbed⟩

/-- How a script comes out does not depend on how it is scheduled: two outings of a program that may
sleep, is not critical and has the same runaway threshold and the same limit both times end alike,
if both end, whatever the clock, the priorities and the other scripts do. -/
theorem Outing.endsAlike (a b : Outing) (program : a.program = b.program)
    (type : a.program.type = .bytecode)
    (threshold : a.options.runawayThreshold = b.options.runawayThreshold)
    (limit : a.config.maxRunawayCycles = b.config.maxRunawayCycles)
    (uncritical : a.options.critical = false ∧ b.options.critical = false)
    (suspendable : a.options.runToCompletion = false ∧ b.options.runToCompletion = false)
    {x y : ScriptExit} (exitA : x ∈ a.records) (exitB : y ∈ b.records) :
    x.reason = y.reason ∧ x.result = y.result ∧ x.instrCycles = y.instrCycles ∧
      x.sleepCycles = y.sleepCycles := by
  obtain ⟨machine, -, load, standsA⟩ := a.stands type (.inl uncritical.1)
  obtain ⟨machine', -, load', standsB⟩ := b.stands (program ▸ type) (.inl uncritical.2)
  obtain rfl : machine = machine' := Except.ok.inj (load.symm.trans (program ▸ load'))
  have start : Solo.begin machine a.options = .begin machine b.options := by
    unfold Solo.begin
    rw [suspendable.1, suspendable.2, threshold]
  rw [start, threshold, limit] at standsA
  obtain ⟨lastA, toA, endsA⟩ := standsA.ends_of_mem exitA
  obtain ⟨lastB, toB, endsB⟩ := standsB.ends_of_mem exitB
  exact Ending.mk.inj (Solo.Leads.ending_unique toA toB endsA endsB)

/-- A program that sleeps. -/
def napper : Program := .bytecode "napper" [.sleep 10, .pop, .push (.long 7), .dup, .ret]

/-- The program runs alone and in long slices. -/
def swiftOuting : Outing :=
  .ofOps (.empty : Reachable { defaultPriority := 50 } none _) napper ⟨1⟩ rfl 9
    [.runReady 0, .checkBlocked 10 0, .runReady 10] (by simp [Operation.Disturbs])
    (by decide +kernel)

/-- The program runs one instruction in each pass, and another script is killed meanwhile. -/
def slowOuting : Outing :=
  .ofOps (.perform .empty (show perform (.empty {} none) 9 (.start napper) = some _ from rfl))
    napper ⟨2⟩ rfl 9
    [.runReady 50, .runReady 51, .kill ⟨1⟩, .checkBlocked 90 0, .runReady 90, .runReady 91,
      .runReady 92, .runReady 93, .takeExits] (by simp [Operation.Disturbs]) (by decide +kernel)

/-- A script that sleeps ends alike whether it is alone and runs in long slices, or runs one instruction
in each pass, after another script has been launched and with another clock. -/
theorem endsAlike_napping : ∃ a b : Outing, ∃ x ∈ a.records, ∃ y ∈ b.records,
    a.options.priority ≠ b.options.priority ∧ x.spent = (5, 1) ∧ x.reason = y.reason ∧
      x.result = y.result ∧ x.instrCycles = y.instrCycles ∧ x.sleepCycles = y.sleepCycles := by
  have exitA : swiftOuting.records.map ScriptExit.spent = [(5, 1)] := by decide +kernel
  have exitB : slowOuting.records.map ScriptExit.spent = [(5, 1)] := by decide +kernel
  obtain ⟨x, memA, spent⟩ := List.mem_map.mp (exitA ▸ List.mem_singleton_self _)
  obtain ⟨y, memB, -⟩ := List.mem_map.mp (exitB ▸ List.mem_singleton_self _)
  exact ⟨swiftOuting, slowOuting, x, memA, y, memB, by decide, spent,
    Outing.endsAlike swiftOuting slowOuting rfl rfl rfl rfl ⟨rfl, rfl⟩ ⟨rfl, rfl⟩ memA memB⟩

/-- Without a limit a program that is run to its end at once comes out as on any outing on which it
ends: it returns the same result, and its record has the same reason and the same number of
instructions. -/
theorem Outing.completesAlike (outing : Outing) (type : outing.program.type = .bytecode)
    (unlimited : outing.config.maxRunawayCycles = none) {x : ScriptExit}
    (exits : x ∈ outing.records) (s : Scheduler) (now patience : Nat)
    (free : s.config.maxRunawayCycles = none) (enough : x.instrCycles < patience) :
    ∃ ran exit, s.runToCompletion patience now outing.program = .ok (some ran) ∧
      ran.value.1 = x.result ∧ ran.value.2.exits = s.exits ++ [exit] ∧ exit.pid = s.nextPid ∧
        exit.reason = x.reason ∧ exit.result = x.result ∧ exit.instrCycles = x.instrCycles := by
  obtain ⟨machine, code, load, stands⟩ := outing.stands type (.inr unlimited)
  rw [unlimited] at stands
  obtain ⟨last, leads, ends⟩ := stands.ends_of_mem exits
  let options : Options := completionOptions s.config
  -- the same course, only that nothing holds it up
  let straight : Solo := .begin machine options
  have abreast : Solo.Abreast (.begin machine outing.options) straight := ⟨rfl, rfl, rfl⟩
  obtain ⟨last', ending, leads', ends', same⟩ :=
    abreast.ends (max 1 options.runawayThreshold) leads ends
  obtain ⟨reason, rest⟩ := Prod.mk.inj same
  obtain ⟨result, instrs⟩ := Prod.mk.inj rest
  have prepared : s.prepare outing.program options =
      .ok (.ofMachine s.nextPid outing.program options machine) :=
    (prepare_bytecode type).mpr ⟨code, machine, load, rfl⟩
  have plays : Executor.Plays _ _ none straight :=
    Executor.plays_ofMachine s.nextPid outing.program machine (.inr rfl)
  have more : ending.instrs < straight.instrs + patience := by
    rw [instrs]
    exact (Nat.zero_add patience).symm ▸ enough
  obtain ⟨exit, ran, runs, returned, exits, number, rfl⟩ :=
    completes prepared free plays rfl rfl leads' ends' now more
  exact ⟨ran, exit, runs, returned.trans result, exits, number, reason, result, instrs⟩

/-- A program that sleeps, waits for an event that does not come and halts at a breakpoint. -/
def hesitator : Program :=
  .bytecode "hesitator" [.sleep 10, .waitForEvent (some 5), .breakpoint, .push (.long 7), .ret]

/-- The program is woken twice and released once. -/
def heldUpOuting : Outing :=
  .ofOps (.empty : Reachable { defaultPriority := 50 } none _) hesitator ⟨1⟩ rfl 9
    [.runReady 0, .checkBlocked 10 0, .runReady 10, .checkBlocked 15 0, .runReady 15, .release ⟨1⟩,
      .runReady 16] (by simp [Operation.Disturbs]) (by decide +kernel)

/-- A program that has been held up three times comes out as if it is run to its end at once. -/
theorem completesAlike_heldUp : ∃ outing : Outing, ∃ x ∈ outing.records, x.spent = (5, 2) ∧
    ∃ ran exit, (Scheduler.empty {} none).runToCompletion 6 0 outing.program = .ok (some ran) ∧
      ran.value.1 = x.result ∧ ran.value.2.exits = [exit] ∧ exit.pid = ⟨1⟩ ∧
        exit.reason = x.reason ∧ exit.result = x.result ∧ exit.instrCycles = x.instrCycles := by
  have exits : heldUpOuting.records.map ScriptExit.spent = [(5, 2)] := by decide +kernel
  obtain ⟨x, mem, spent⟩ := List.mem_map.mp (exits ▸ List.mem_singleton_self _)
  have enough : x.instrCycles < 6 := (Prod.mk.inj spent).1 ▸ by decide
  exact ⟨heldUpOuting, x, mem, spent,
    heldUpOuting.completesAlike rfl rfl mem (.empty {} none) 0 6 rfl enough⟩

end ScriptScheduler
