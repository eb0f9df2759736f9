import ScriptScheduler.Proofs.Removal
import ScriptScheduler.Proofs.Spending

/-!
# The ledger of scripts

Each number is handed out once, and from then on its script is in one of three conditions: it is
live, it has exited and there is one record of it, or it has been handed back (`Ledger`). Records
count also after they have been taken. What a script has spent is what it ran and how often it was
woken in the steps of the history, whether this is read off the script or off its record.
-/

namespace ScriptScheduler

open Scheduler

/-! ### What a step does -/

namespace Answer

/-- The number of a script that has been launched. -/
def launched? : Answer → Option Pid
  | .launched pid => some pid
  | _ => none

/-- What a program has returned that was run to its end. -/
def returned? : Answer → Option Val
  | .returned value => some value
  | _ => none

/-- The script that has been handed back. -/
def removed? : Answer → Option Executor
  | .removed ex => ex
  | _ => none

/-- The exit records that have been taken. -/
def records : Answer → List ScriptExit
  | .exits records => records
  | _ => []

end Answer

namespace Performed

variable (step : Performed) (pid : Pid)

/-- How many instructions a script runs in a step. -/
def executed : Nat :=
  instructions pid (fun turn => (step.op.course step.patience turn).length) step.turns

/-- How often a script is woken by the clock in a step. -/
def woken : Nat :=
  match step.op with
  | .checkBlocked now _ => (step.state.woken now step.state.timeouts.length).count pid
  | _ => 0

/-- What a script spends in a step. -/
def spent : Nat × Nat := (step.executed pid, step.woken pid)

/-- The number that a step hands out. A program that is run to its end has a number, too, although
it is not told. -/
def launched? : Option Pid :=
  match step.op with
  | .start _ | .startWith _ _ | .runScript _ _ => step.answer?.bind Answer.launched?
  | .runToCompletion _ _ =>
    (step.answer?.bind Answer.returned?).map fun _ => step.state.nextPid
  | _ => none

/-- The script that a step hands back. -/
def handedBack? : Option Executor :=
  match step.op with
  | .deschedule _ => step.answer?.bind Answer.removed?
  | _ => none

/-- The exit records that are taken in a step. -/
def takenExits : List ScriptExit :=
  match step.op with
  | .takeExits => (step.answer?.map Answer.records).getD []
  | _ => []

end Performed

section Perform

variable {config : SchedulerConfig} {engine : Option Engine} {s : Scheduler} {pid : Pid}
  {patience : Nat} {op : Operation} {ran : Logged (Answer × Scheduler)}

/-! ### Operations in which nobody leaves -/

namespace Stays

/-- A script is launched at the end of the queue. -/
theorem startScriptWith {program : Program} {options : Options} {ran : Logged (Pid × Scheduler)}
    (numbers : s.Numbered) (started : s.startScriptWith program options = .ok ran) :
    Stays s ran.value.2 := by
  obtain ⟨ex, prepared, rfl⟩ := startScriptWith_launched started
  have queued : Stays (s.enroll ex).value ((s.enroll ex).value.enqueue ex.pid) :=
    of_get? (fun _ => rfl) rfl
  exact (enroll numbers prepared).trans queued

/-- A child is launched. -/
theorem runScript {parent : Pid} {program : Program} {ran : Logged (Pid × Scheduler)}
    (numbers : s.Numbered) (launched : s.runScript parent program = .ok ran) :
    Stays s ran.value.2 := by
  obtain ⟨waiting, child, -, -, prepared, eq⟩ := runScript_eq launched
  have enrolled : Stays s (s.enroll child).value := enroll numbers prepared
  have linked : Stays (s.enroll child).value
      (((s.enroll child).value.awaitChild parent child.pid).enqueue child.pid) :=
    awaitChild.trans (of_get? (fun _ => rfl) rfl)
  rw [eq]
  exact enrolled.trans linked

end Stays

/-- Whether nobody has a turn, is woken by the clock, leaves or is edited in an operation, and no
records are taken. -/
def Operation.isQuiet : Operation → Bool
  | .start _ | .startWith _ _ | .runScript _ _ | .signal _ _ | .halt _ | .release _
  | .request _ _ _ _ | .requestWithTimeout _ _ _ _ _ _ | .respond _ _ | .respondToEntity _ _ _ _
  | .abort _ | .abortAll _ | .entityDisconnected _ => true
  | _ => false

/-- In a quiet operation nobody leaves. -/
theorem Stays.perform (numbers : s.Numbered) (quiet : op.isQuiet = true)
    (performed : s.perform patience op = some ran) : Stays s ran.value.2 := by
  cases op with
  | start | startWith =>
    obtain rfl := Option.some.inj performed
    exact (undone_startScriptWith _ _).attempt (.refl _) fun _ => .startScriptWith numbers
  | runScript =>
    obtain rfl := Option.some.inj performed
    exact (undone_runScript _ _).attempt (.refl _) fun _ => .runScript numbers
  | signal =>
    obtain rfl := Option.some.inj performed
    exact .of_alters .signalEvent .signalEvent
  | halt =>
    obtain rfl := Option.some.inj performed
    exact (undone_halt _).attemptQuietly (.refl _) fun _ halted =>
      .of_alters (.halt halted) (.halt halted)
  | release =>
    obtain rfl := Option.some.inj performed
    exact (undone_release _).attemptQuietly (.refl _) fun _ freed =>
      .of_alters (.release freed) (.release freed)
  | request | requestWithTimeout =>
    obtain rfl := Option.some.inj performed
    exact .of_alters .register .register
  | respond =>
    obtain rfl := Option.some.inj performed
    exact .respond
  | respondToEntity =>
    obtain rfl := Option.some.inj performed
    exact .respondToEntity
  | abort =>
    obtain rfl := Option.some.inj performed
    exact .abortRequest
  | abortAll =>
    obtain rfl := Option.some.inj performed
    exact .abortAll
  | entityDisconnected =>
    obtain rfl := Option.some.inj performed
    exact .entityDisconnected
  | _ => exact absurd quiet Bool.false_ne_true

/-! ### What is spent in an operation -/

/-- In turns of an operation a script spends the instructions that it runs in its own. -/
theorem Spends.turns {m : Scheduler} {s' : Scheduler}
    (taken : TakeTurns (op.turns s patience) m s') :
    Spends pid m s' (Performed.executed ⟨s, patience, op⟩ pid, 0) := by
  refine taken.spends (fun turn => (op.course patience turn).length) fun turn mem => ?_
  obtain ⟨_, path⟩ := Operation.path_of_mem_turns mem
  exact path.spent

/-- In a pass a script spends the instructions that it runs in its turns. -/
theorem Spends.runReady {now : Nat} {ran : Logged Scheduler}
    (passed : s.runReady patience now = some ran) :
    Spends pid s ran.value (Performed.spent ⟨s, patience, .runReady now⟩ pid) := by
  have taken : TakeTurns ((Operation.runReady now).turns s patience)
      { s.pumpExternal.value.2 with ready := [] } ran.value := turns_of_runReady passed
  have taken' : Spends pid s.pumpExternal.value.2 { s.pumpExternal.value.2 with ready := [] } 0 :=
    .of_get? rfl rfl
  have pumped := Spends.pumpExternal.trans taken'
  have total := pumped.trans (.turns taken)
  rwa [zero_add, zero_add] at total

/-- At a check of the clock a script spends the times that it is woken. -/
theorem Spends.checkBlocked (sound : Moment.Sound ⟨s, [], []⟩) (now left : Nat) :
    Spends pid s (s.checkBlocked now left).value.2
      (Performed.spent ⟨s, patience, .checkBlocked now left⟩ pid) := by
  rw [checkBlocked_state]
  exact .wakeDue now _ sound

/-- A script that is handed back spends nothing of the others. -/
theorem Spends.deschedule {other : Pid} (ne : pid ≠ other) :
    Spends pid s (s.deschedule other).value.2 0 := by
  unfold Scheduler.deschedule
  split
  · exact .refl s pid
  · next gone found =>
    obtain rfl : gone.pid = other := pid_of_get? found
    refine .nothing ?_ ?_
    · change ((s.remove gone).value.2.get? pid).map Executor.spent = _
      rw [get?_remove s gone ne, Option.map_map]
      congr 1
      funext ex
      exact ex.spent_bereft gone
    · change (s.remove gone).value.2.recordsOf pid = _
      unfold recordsOf
      rw [exits_remove]

/-- When a program is run to its end only its own script spends anything. -/
theorem Spends.runToCompletion {now : Nat} {program : Program} (numbers : s.Numbered)
    (performed : s.perform patience (.runToCompletion now program) = some ran)
    (unlaunched : s.nextPid.number ≤ pid.number → ran.value.2.nextPid.number ≤ pid.number) :
    Spends pid s ran.value.2 (Performed.spent ⟨s, patience, .runToCompletion now program⟩ pid) := by
  rcases perform_runToCompletion performed with ⟨cause, refused, rfl⟩ | ⟨done, eq, rfl⟩
  · have none : Performed.spent ⟨s, patience, .runToCompletion now program⟩ pid = 0 := by
      unfold Performed.spent Performed.executed Performed.turns
      rw [turns_of_refused refused]
      rfl
    rw [none]
    exact .refl s pid
  · obtain ⟨ex, prepared, taken⟩ := turns_of_runToCompletion numbers eq
    have next : done.value.2.nextPid.number = s.nextPid.number + 1 :=
      congrArg Pid.number taken.follows.nextPid
    -- the script itself is launched here, so `pid` is another one
    have other : pid ≠ ex.pid := by
      rintro rfl
      rw [pid_of_prepare prepared] at unlaunched
      exact Nat.not_succ_le_self _ (next ▸ unlaunched (Nat.le_refl _))
    have enrolled : Spends pid s (s.enroll ex).value 0 := .of_get? (get?_enroll_of_ne other) rfl
    have total := enrolled.trans (.turns taken)
    rwa [zero_add] at total

/-- A script that is edited, or not, spends nothing. -/
theorem Spends.edit (edited : Pid) (edit : Edit) :
    Spends pid s (Scheduler.attemptQuietly (s.edit edited edit)).value.2 0 := by
  unfold Scheduler.edit
  cases found : s.get? edited with
  | none => exact .refl s pid
  | some ex =>
    obtain ⟨-, number⟩ := edit.seat_apply ex
    exact .restore _ (number ▸ pid_of_get? found ▸ found) (edit.spent_apply ex)

/-- A script that is killed, or not, spends nothing. -/
theorem Spends.attempt_kill (killed : Pid) :
    Spends pid s (Scheduler.attempt .exited (s.kill killed)).value.2 0 := by
  cases tried : s.kill killed with
  | error refusal =>
    obtain rfl := undone_kill killed refusal tried
    exact .refl _ pid
  | ok ran => exact .kill tried

/-- In an operation a script that is not launched spends the instructions that it runs and the times
that the clock wakes it, unless the script is handed back or records are taken. -/
theorem Reachable.spends (reached : Reachable config engine s)
    (performed : s.perform patience op = some ran)
    (unlaunched : s.nextPid.number ≤ pid.number → ran.value.2.nextPid.number ≤ pid.number)
    (kept : op ≠ .deschedule pid) (untaken : op ≠ .takeExits) :
    Spends pid s ran.value.2 (Performed.spent ⟨s, patience, op⟩ pid) := by
  have numbers := reached.numbered
  by_cases quiet : op.isQuiet = true
  -- nobody leaves, and none of the moves of the operation is a turn or a waking
  · have unedited : ∀ pid edit, op ≠ .edit pid edit := by
      rintro pid edit rfl
      exact absurd quiet Bool.false_ne_true
    have spends : Spends pid s ran.value.2 0 :=
      .of_moves (.perform numbers quiet performed) (perform_moves_doing numbers unedited performed)
        reached.sound unlaunched (by cases op <;> simp [Operation.Does, Operation.isQuiet] at quiet ⊢)
        (by cases op <;> simp [Operation.Does, Operation.isQuiet] at quiet ⊢)
    have none : Performed.spent ⟨s, patience, op⟩ pid = 0 := by
      cases op <;> simp [Operation.isQuiet] at quiet <;> rfl
    exact none ▸ spends
  -- in what is left a script may have a turn, be woken by the clock, leave or be edited
  cases op with
  | runToCompletion => exact .runToCompletion numbers performed unlaunched
  | runReady now =>
    obtain ⟨done, passed, rfl⟩ := Option.map_eq_some_iff.mp performed
    exact .runReady passed
  | checkBlocked now left =>
    obtain rfl := Option.some.inj performed
    exact .checkBlocked reached.sound now left
  | pumpExternal =>
    obtain rfl := Option.some.inj performed
    exact .pumpExternal
  | settleCall =>
    obtain rfl := Option.some.inj performed
    exact .of_get? rfl rfl
  | kill killed =>
    obtain rfl := Option.some.inj performed
    exact .attempt_kill killed
  | shutdown =>
    obtain rfl := Option.some.inj performed
    exact .shutdown
  | deschedule other =>
    obtain rfl := Option.some.inj performed
    exact .deschedule fun same => kept (same ▸ rfl)
  | edit edited edit =>
    obtain rfl := Option.some.inj performed
    exact .edit edited edit
  | takeExits => exact absurd rfl untaken
  | _ => exact absurd rfl quiet

/-! ### Launches -/

/-- Nobody is launched when calls are completed. -/
theorem follows_completeEach (settled : List Completion) :
    ∀ s : Scheduler, Follows s (completeEach settled s).value := by
  induction settled with
  | nil => exact .refl
  | cons done rest ih => exact fun s => follows_completeExternal.trans (ih _)

/-- Nobody is launched when settled calls are applied. -/
theorem follows_pumpExternal : Follows s s.pumpExternal.value.2 := by
  have taken : Follows s { s with calls := s.calls.filter fun call => call.settlement.isNone } :=
    { Follows.refl s with }
  exact taken.trans (follows_completeEach _ _)

/-- Nobody is launched when scripts are shut down. -/
theorem follows_shutdownEach (pids : List Pid) :
    ∀ s : Scheduler, Follows s (shutdownEach pids s).value := by
  induction pids with
  | nil => exact .refl
  | cons next rest ih =>
    intro s
    unfold shutdownEach
    split
    · exact ih s
    · exact follows_retire.trans (ih _)

/-- Nobody is launched when sleepers are woken. -/
theorem follows_wakeDue (now count : Nat) :
    ∀ s : Scheduler, Follows s (wakeDue now count s).value := by
  induction count with
  | zero => exact .refl
  | succ count ih =>
    intro s
    unfold wakeDue
    split
    · exact .refl s
    · next key sleeper rest _ =>
      split
      · exact .refl s
      · have woken : Follows { s with timeouts := rest } ({ s with timeouts := rest }.wake
            sleeper).value := follows_wake
        have round : Follows s ({ s with timeouts := rest }.wake sleeper).value := { woken with }
        exact round.trans (ih _)

/-- Nobody is launched in a shutdown. -/
theorem follows_shutdown : Follows s s.shutdown.value := by
  unfold shutdown
  split
  · exact .refl s
  · exact follows_shutdownEach _ s

/-- Nobody is launched when a script is edited. -/
theorem follows_edit {s' : Scheduler} {edit : Edit} (edited : s.edit pid edit = .ok s') :
    Follows s s' := by
  obtain ⟨ex, -, rfl⟩ := edit_ok edited
  exact follows_store

/-- Nobody is launched when a request is answered. -/
theorem follows_respond {id : RequestId} {response : Val} :
    Follows s (s.respond id response).value.2 := by
  unfold respond
  split
  · exact .refl s
  · exact follows_resolve

/-- Nobody is launched when a request to an entity is answered. -/
theorem follows_respondToEntity {entity : EntityId} {kind : RequestKind} {hint : Option RequestId}
    {response : Val} : Follows s (s.respondToEntity entity kind hint response).value.2 := by
  unfold respondToEntity
  split
  · exact .refl s
  · exact follows_respond

/-- Nobody is launched when the requests of a script are aborted. -/
theorem follows_abortAll : Follows s (s.abortAll pid).value.2 := by
  unfold abortAll
  split
  · exact .refl s
  · exact follows_abortEach _ s

/-- Nobody is launched when the requests to an entity are aborted. -/
theorem follows_entityDisconnected {entity : EntityId} :
    Follows s (s.entityDisconnected entity).value.2 := by
  unfold entityDisconnected
  split
  · exact .refl s
  · exact follows_abortEach _ s

/-- The operations that may launch a script. -/
inductive Operation.Starts : Operation → Prop
  | start (program : Program) : Starts (.start program)
  | startWith (program : Program) (options : Options) : Starts (.startWith program options)
  | runScript (parent : Pid) (program : Program) : Starts (.runScript parent program)
  | completion (now : Nat) (program : Program) : Starts (.runToCompletion now program)

/-- Nobody is launched in other operations. -/
theorem follows_perform (performed : s.perform patience op = some ran) (idle : ¬ op.Starts) :
    Follows s ran.value.2 := by
  cases op with
  | start program => exact absurd (.start program) idle
  | startWith program options => exact absurd (.startWith program options) idle
  | runScript parent program => exact absurd (.runScript parent program) idle
  | runToCompletion now program => exact absurd (.completion now program) idle
  | runReady now =>
    obtain ⟨done, passed, rfl⟩ := Option.map_eq_some_iff.mp performed
    have batch : Follows s.pumpExternal.value.2 { s.pumpExternal.value.2 with ready := [] } :=
      { Follows.refl s.pumpExternal.value.2 with }
    exact (follows_pumpExternal.trans batch).trans (turns_of_runReady passed).follows
  | checkBlocked now left =>
    obtain rfl := Option.some.inj performed
    have same := checkBlocked_state s now left
    exact same ▸ follows_wakeDue now _ s
  | pumpExternal =>
    obtain rfl := Option.some.inj performed
    exact follows_pumpExternal
  | settleCall | takeExits =>
    obtain rfl := Option.some.inj performed
    exact { Follows.refl s with }
  | signal =>
    obtain rfl := Option.some.inj performed
    exact follows_signalEvent
  | halt pid =>
    obtain rfl := Option.some.inj performed
    exact (undone_halt pid).attemptQuietly (.refl s) fun _ => follows_halt
  | release pid =>
    obtain rfl := Option.some.inj performed
    exact (undone_release pid).attemptQuietly (.refl s) fun _ => follows_release
  | kill pid =>
    obtain rfl := Option.some.inj performed
    refine (undone_kill pid).attempt (.refl s) fun ran killed => ?_
    obtain ⟨ex, -, rfl⟩ := kill_ok killed
    exact follows_retire
  | shutdown =>
    obtain rfl := Option.some.inj performed
    exact follows_shutdown
  | deschedule =>
    obtain rfl := Option.some.inj performed
    exact follows_deschedule
  | request | requestWithTimeout =>
    obtain rfl := Option.some.inj performed
    exact follows_register
  | respond =>
    obtain rfl := Option.some.inj performed
    exact follows_respond
  | respondToEntity =>
    obtain rfl := Option.some.inj performed
    exact follows_respondToEntity
  | abort =>
    obtain rfl := Option.some.inj performed
    exact follows_abortRequest
  | abortAll =>
    obtain rfl := Option.some.inj performed
    exact follows_abortAll
  | entityDisconnected =>
    obtain rfl := Option.some.inj performed
    exact follows_entityDisconnected
  | edit pid edit =>
    obtain rfl := Option.some.inj performed
    exact (undone_edit pid edit).attemptQuietly (.refl s) fun _ => follows_edit

/-- In a step the next number is handed out to a script that has spent nothing before. -/
structure Launches (step : Performed) (s' : Scheduler) : Prop where
  number : step.launched? = some step.state.nextPid
  next : s'.nextPid.number = step.state.nextPid.number + 1
  begins : ∃ m ex, m.get? step.state.nextPid = some ex ∧ ex.spent = 0 ∧
    m.exits = step.state.exits ∧
      Spends step.state.nextPid m s' (step.spent step.state.nextPid)

/-- A new script has spent nothing. -/
theorem spent_of_prepare {program : Program} {options : Options} {ex : Executor}
    (prepared : s.prepare program options = .ok ex) : ex.spent = 0 := by
  obtain ⟨_, _, -, rfl⟩ := prepare_eq prepared
  rfl

/-- A script that is launched at the end of the queue. -/
theorem Launches.startScriptWith {program : Program} {options : Options}
    {ran : Logged (Pid × Scheduler)} (numbers : s.Numbered)
    (started : s.startScriptWith program options = .ok ran)
    (turnless : Performed.spent ⟨s, patience, op⟩ s.nextPid = 0)
    (number : Performed.launched? ⟨s, patience, op⟩ = some ran.value.1) :
    Launches ⟨s, patience, op⟩ ran.value.2 := by
  obtain ⟨ex, prepared, rfl⟩ := startScriptWith_launched started
  have own : ex.pid = s.nextPid := pid_of_prepare prepared
  refine ⟨own ▸ number, rfl, (s.enroll ex).value, ex, ?_, spent_of_prepare prepared, rfl, ?_⟩
  · exact own ▸ get?_enroll_self (get?_of_prepare numbers prepared)
  · rw [turnless]
    exact .of_get? rfl rfl

/-- A child that is launched. -/
theorem Launches.runScript {parent : Pid} {program : Program} {ran : Logged (Pid × Scheduler)}
    (numbers : s.Numbered) (launched : s.runScript parent program = .ok ran)
    (turnless : Performed.spent ⟨s, patience, op⟩ s.nextPid = 0)
    (number : Performed.launched? ⟨s, patience, op⟩ = some ran.value.1) :
    Launches ⟨s, patience, op⟩ ran.value.2 := by
  obtain ⟨waiting, child, found, -, prepared, eq⟩ := runScript_eq launched
  have own : child.pid = s.nextPid := pid_of_prepare prepared
  obtain ⟨self, -, -⟩ := get?_awaitChild numbers prepared found
  have begun : child.spent = 0 := spent_of_prepare prepared
  have live : ((s.enroll child).value.awaitChild parent child.pid).get? s.nextPid =
      some { child with parent := some parent } := own.symm ▸ self
  rw [eq] at number ⊢
  have exits : ((s.enroll child).value.awaitChild parent child.pid).exits = s.exits :=
    (Calm.awaitChild (s := (s.enroll child).value)).exits
  refine ⟨own ▸ number, ?_, (s.enroll child).value.awaitChild parent child.pid, _, live, begun,
    exits, ?_⟩
  · exact congrArg Pid.number (follows_awaitChild (s := (s.enroll child).value)).nextPid
  · rw [turnless]
    exact .of_get? rfl rfl

/-- The answer of a step in which an operation is performed. -/
theorem Performed.answer?_eq (performed : s.perform patience op = some ran) :
    Performed.answer? ⟨s, patience, op⟩ = some ran.value.1 := by
  unfold Performed.answer?
  rw [performed]
  rfl

/-- An operation that launches a script unless it is refused. -/
theorem launches_attempt {tried : Except (Refusal Scheduler) (Logged (Pid × Scheduler))}
    (undone : Undone s tried)
    (answer : Performed.launched? ⟨s, patience, op⟩ = (attempt .launched tried).value.1.launched?)
    (launches : ∀ ran, tried = .ok ran →
      Performed.launched? ⟨s, patience, op⟩ = some ran.value.1 →
        Launches ⟨s, patience, op⟩ ran.value.2) :
    Performed.launched? ⟨s, patience, op⟩ = none ∧
        (attempt .launched tried).value.2.nextPid = s.nextPid ∨
      Launches ⟨s, patience, op⟩ (attempt .launched tried).value.2 := by
  cases tried with
  | error refusal => exact .inl ⟨answer, congrArg nextPid (undone refusal rfl)⟩
  | ok ran => exact .inr (launches ran rfl answer)

/-- An operation launches nobody, or one script. -/
theorem Reachable.launches (reached : Reachable config engine s)
    (performed : s.perform patience op = some ran) :
    Performed.launched? ⟨s, patience, op⟩ = none ∧ ran.value.2.nextPid = s.nextPid ∨
      Launches ⟨s, patience, op⟩ ran.value.2 := by
  have numbers := reached.numbered
  have answer := Performed.answer?_eq performed
  by_cases starts : op.Starts
  · cases starts with
    | start program =>
      obtain rfl := Option.some.inj performed
      exact launches_attempt (undone_startScriptWith _ _)
        (congrArg (Option.bind · Answer.launched?) answer)
        fun _ started => .startScriptWith numbers started rfl
    | startWith program options =>
      obtain rfl := Option.some.inj performed
      exact launches_attempt (undone_startScriptWith _ _)
        (congrArg (Option.bind · Answer.launched?) answer)
        fun _ started => .startScriptWith numbers started rfl
    | runScript parent program =>
      obtain rfl := Option.some.inj performed
      exact launches_attempt (undone_runScript _ _)
        (congrArg (Option.bind · Answer.launched?) answer)
        fun _ launched => .runScript numbers launched rfl
    | completion now program =>
      unfold Performed.launched?
      rw [answer]
      rcases perform_runToCompletion performed with ⟨cause, -, rfl⟩ | ⟨done, eq, rfl⟩
      · exact .inl ⟨rfl, rfl⟩
      · -- the script is launched first and then spends what its turns spend
        obtain ⟨ex, prepared, taken⟩ := turns_of_runToCompletion numbers eq
        have own : ex.pid = s.nextPid := pid_of_prepare prepared
        have live := get?_enroll_self (get?_of_prepare numbers prepared)
        refine .inr ⟨?_, congrArg Pid.number taken.follows.nextPid, (s.enroll ex).value, ex,
          own ▸ live, spent_of_prepare prepared, rfl, .turns taken⟩
        unfold Performed.launched?
        rw [answer]
        rfl
  · refine .inl ⟨?_, (follows_perform performed starts).nextPid⟩
    cases op with
    | start program => exact absurd (.start program) starts
    | startWith program options => exact absurd (.startWith program options) starts
    | runScript parent program => exact absurd (.runScript parent program) starts
    | runToCompletion now program => exact absurd (.completion now program) starts
    | _ => rfl

end Perform

/-! ### The ledger -/

section History

variable (past : List Performed) (s : Scheduler) (pid : Pid)

/-- What a script has spent in the steps of a history. -/
def spentIn : Nat × Nat :=
  ((past.map fun step => step.executed pid).sum, (past.map fun step => step.woken pid).sum)

/-- The numbers that have been handed out in a history, the first one first. -/
def handedOut : List Pid := past.filterMap Performed.launched?

/-- The script `pid`, as often as it has been handed back in a history. -/
def handbacks : List Executor :=
  (past.filterMap Performed.handedBack?).filter fun ex => ex.pid = pid

/-- The exit records of a script that have been made in a history, whether they have been taken or
are still there. -/
def recorded : List ScriptExit :=
  (past.flatMap Performed.takenExits).filter (fun exit => exit.pid = pid) ++ s.recordsOf pid

/-- What can have become of a script since its launch. -/
inductive Condition where
  | live
  | exited
  | handedBack

/-- What has become of a script after a history: it is live and has never been recorded, it has
exited and has been recorded once, or it has been handed back and has never been recorded. In each
case it has spent what it has run and how often it was woken in the history. -/
def Condition.Holds : Condition → Prop
  | .live => ∃ ex, s.get? pid = some ex ∧ recorded past s pid = [] ∧ handbacks past pid = [] ∧
      ex.spent = spentIn past pid
  | .exited => s.get? pid = none ∧ handbacks past pid = [] ∧
      ∃ exit, recorded past s pid = [exit] ∧ exit.spent = spentIn past pid
  | .handedBack => s.get? pid = none ∧ recorded past s pid = [] ∧
      ∃ ex, handbacks past pid = [ex] ∧ ex.spent = spentIn past pid

/-- After a history nothing has ever been heard of the script `pid`. -/
structure Unheard : Prop where
  dead : s.get? pid = none
  unrecorded : recorded past s pid = []
  kept : handbacks past pid = []
  unspent : spentIn past pid = 0

/-- The ledger of a history. -/
structure Ledger : Prop where
  /-- No number is handed out twice, and each one is greater than those before it. -/
  increasing : (handedOut past).Pairwise fun a b => a.number < b.number
  /-- The numbers from one on are handed out, up to the next one. -/
  numbers : ∀ pid, pid ∈ handedOut past ↔ 0 < pid.number ∧ pid.number < s.nextPid.number
  /-- Each of their scripts is in exactly one condition. -/
  conditions : ∀ pid ∈ handedOut past, ∃! condition, Condition.Holds past s pid condition
  /-- There are no other scripts. -/
  others : ∀ pid, pid ∉ handedOut past → Unheard past s pid

end History

/-! ### Steps of a history -/

section Steps

variable {past : List Performed} {step : Performed} {s s' : Scheduler} {pid : Pid}

/-- What is spent in one more step. -/
theorem spentIn_append : spentIn (past ++ [step]) pid = spentIn past pid + step.spent pid := by
  unfold spentIn
  simp [Performed.spent]

/-- A step in which a script is not handed back. -/
theorem handbacks_append (kept : ∀ ex, step.handedBack? = some ex → ex.pid ≠ pid) :
    handbacks (past ++ [step]) pid = handbacks past pid := by
  unfold handbacks
  cases back : step.handedBack? with
  | none => simp [back]
  | some ex => simp [back, kept ex back]

/-- A step in which no records are taken. -/
theorem recorded_append (past : List Performed) {more : List ScriptExit} (untaken : step.takenExits = [])
    (records : s'.recordsOf pid = s.recordsOf pid ++ more) :
    recorded (past ++ [step]) s' pid = recorded past s pid ++ more := by
  unfold recorded
  rw [records]
  simp [untaken]

/-- When the exit records are taken they are only put aside. -/
theorem recorded_takeExits {patience : Nat} :
    recorded (past ++ [⟨s, patience, .takeExits⟩]) s.takeExits.2 pid = recorded past s pid := by
  have taken : Performed.takenExits ⟨s, patience, .takeExits⟩ = s.exits := rfl
  have none : s.takeExits.2.recordsOf pid = [] := rfl
  unfold recorded
  rw [none, List.append_nil, List.flatMap_append, List.filter_append, List.flatMap_singleton, taken]
  rfl

/-- A script is in one condition at a time. -/
theorem Condition.Holds.unique {a b : Condition} (h₁ : a.Holds past s pid)
    (h₂ : b.Holds past s pid) : a = b := by
  cases a with
  | live =>
    obtain ⟨ex, found, -⟩ := h₁
    cases b with
    | live => rfl
    | exited => exact absurd (found.symm.trans h₂.1) (by simp)
    | handedBack => exact absurd (found.symm.trans h₂.1) (by simp)
  | exited =>
    obtain ⟨dead, -, exit, once, -⟩ := h₁
    cases b with
    | live =>
      obtain ⟨ex, found, -⟩ := h₂
      exact absurd (found.symm.trans dead) (by simp)
    | exited => rfl
    | handedBack => exact absurd (once.symm.trans h₂.2.1) (by simp)
  | handedBack =>
    obtain ⟨dead, never, -⟩ := h₁
    cases b with
    | live =>
      obtain ⟨ex, found, -⟩ := h₂
      exact absurd (found.symm.trans dead) (by simp)
    | exited =>
      obtain ⟨-, -, exit, once, -⟩ := h₂
      exact absurd (once.symm.trans never) (by simp)
    | handedBack => rfl

/-- After a step in which a script has spent something and is neither handed back nor are records
taken, the script is in some condition. -/
theorem Condition.Holds.spends {condition : Condition} (h : condition.Holds past s pid)
    (spends : Spends pid s s' (step.spent pid))
    (kept : ∀ ex, step.handedBack? = some ex → ex.pid ≠ pid) (untaken : step.takenExits = []) :
    ∃ after : Condition, after.Holds (past ++ [step]) s' pid := by
  -- no record is taken and the script is not handed back, so only what it spends can change it
  have back : handbacks (past ++ [step]) pid = handbacks past pid := handbacks_append kept
  have unchanged : s'.recordsOf pid = s.recordsOf pid →
      recorded (past ++ [step]) s' pid = recorded past s pid := by
    intro same
    have records := recorded_append past untaken (same.trans (List.append_nil _).symm)
    rwa [List.append_nil] at records
  generalize amount : step.spent pid = spent at spends
  have total : spentIn (past ++ [step]) pid = spentIn past pid + spent := amount ▸ spentIn_append
  cases spends with
  | absent dead still records =>
    rw [add_zero] at total
    cases condition with
    | live =>
      obtain ⟨ex, found, -⟩ := h
      exact absurd (found.symm.trans dead) (by simp)
    | exited =>
      obtain ⟨-, never, exit, once, same⟩ := h
      exact ⟨.exited, still, back.trans never, exit, (unchanged records).trans once,
        same.trans total.symm⟩
    | handedBack =>
      obtain ⟨-, never, ex, once, same⟩ := h
      exact ⟨.handedBack, still, (unchanged records).trans never, ex, back.trans once,
        same.trans total.symm⟩
  | @lives ex ex' _ found live records more =>
    cases condition with
    | live =>
      obtain ⟨old, was, never, still, same⟩ := h
      obtain rfl := Option.some.inj (found.symm.trans was)
      refine ⟨.live, ex', live, (unchanged records).trans never, back.trans still, ?_⟩
      rw [more, same, total]
    | exited => exact absurd (found.symm.trans h.1) (by simp)
    | handedBack => exact absurd (found.symm.trans h.1) (by simp)
  | @exits ex exit _ found dead records more =>
    cases condition with
    | live =>
      obtain ⟨old, was, never, still, same⟩ := h
      obtain rfl := Option.some.inj (found.symm.trans was)
      -- the record of the exit is the first one of the script
      have once := recorded_append past untaken records
      rw [never] at once
      refine ⟨.exited, dead, back.trans still, exit, once, ?_⟩
      rw [more, same, total]
    | exited => exact absurd (found.symm.trans h.1) (by simp)
    | handedBack => exact absurd (found.symm.trans h.1) (by simp)

/-- After such a step nothing has been heard of a script of which nothing was heard before. -/
theorem Unheard.spends (h : Unheard past s pid) (spends : Spends pid s s' (step.spent pid))
    (kept : ∀ ex, step.handedBack? = some ex → ex.pid ≠ pid) (untaken : step.takenExits = []) :
    Unheard (past ++ [step]) s' pid := by
  generalize amount : step.spent pid = spent at spends
  cases spends with
  | absent dead still records =>
    have same := recorded_append past untaken (records.trans (List.append_nil _).symm)
    refine ⟨still, ?_, (handbacks_append kept).trans h.kept, ?_⟩
    · rw [same, h.unrecorded, List.append_nil]
    · rw [spentIn_append, h.unspent, amount, add_zero]
  | lives found => exact absurd (found.symm.trans h.dead) (by simp)
  | exits found => exact absurd (found.symm.trans h.dead) (by simp)

/-- Before its first step a script is live and has spent nothing. -/
theorem Unheard.live {m : Scheduler} {ex : Executor} (h : Unheard past s pid)
    (begun : m.get? pid = some ex) (new : ex.spent = 0) (exits : m.exits = s.exits) :
    Condition.live.Holds past m pid := by
  refine ⟨ex, begun, ?_, h.kept, new.trans h.unspent.symm⟩
  have same := h.unrecorded
  unfold recorded recordsOf at same ⊢
  rwa [exits]

end Steps

section Ledger

variable {config : SchedulerConfig} {engine : Option Engine} {past : List Performed}
  {s : Scheduler} {pid : Pid} {patience : Nat} {op : Operation}
  {ran : Logged (Answer × Scheduler)}

/-- A script is handed back if it is live. -/
theorem Performed.handedBack?_deschedule (indexed : Indexed s) (patience : Nat) (pid : Pid) :
    Performed.handedBack? ⟨s, patience, .deschedule pid⟩ =
      (s.get? pid).map Executor.discharged := by
  change (answering Answer.removed (s.deschedule pid)).value.1.removed? = _
  cases found : s.get? pid with
  | none =>
    unfold Scheduler.deschedule
    rw [found]
    rfl
  | some ex =>
    obtain rfl : ex.pid = pid := pid_of_get? found
    rw [deschedule_eq found]
    exact congrArg some (remove_value indexed found)

/-- Only the script that is asked for is handed back. -/
theorem Performed.asked_of_handedBack? (indexed : Indexed s) {ex : Executor}
    (back : Performed.handedBack? ⟨s, patience, op⟩ = some ex) : op = .deschedule ex.pid := by
  cases op with
  | deschedule pid =>
    rw [handedBack?_deschedule indexed] at back
    obtain ⟨gone, found, rfl⟩ := Option.map_eq_some_iff.mp back
    exact congrArg Operation.deschedule (pid_of_get? found).symm
  | _ => exact absurd back (by simp [handedBack?])

/-- From one step to the next one a script gets from one condition into another one, and nothing is
heard of a script of which nothing was heard before. -/
structure Proceeds (past past' : List Performed) (s s' : Scheduler) (pid : Pid) : Prop where
  conditions : ∀ before : Condition, before.Holds past s pid →
    ∃ after : Condition, after.Holds past' s' pid
  others : Unheard past s pid → Unheard past' s' pid

/-- When the exit records are taken, a script remains in its condition. -/
theorem Proceeds.takeExits (pid : Pid) :
    Proceeds past (past ++ [⟨s, patience, .takeExits⟩]) s s.takeExits.2 pid := by
  have scripts : s.takeExits.2.get? pid = s.get? pid := rfl
  have records : recorded (past ++ [⟨s, patience, .takeExits⟩]) s.takeExits.2 pid =
      recorded past s pid := recorded_takeExits
  have back : handbacks (past ++ [⟨s, patience, .takeExits⟩]) pid = handbacks past pid :=
    handbacks_append fun ex back => absurd back (by simp [Performed.handedBack?])
  have spent : spentIn (past ++ [⟨s, patience, .takeExits⟩]) pid = spentIn past pid :=
    spentIn_append.trans (add_zero _)
  constructor
  · intro before holds
    refine ⟨before, ?_⟩
    cases before <;> simpa only [Condition.Holds, scripts, records, back, spent] using holds
  · rintro ⟨dead, unrecorded, kept, unspent⟩
    exact ⟨dead, records.trans unrecorded, back.trans kept, spent.trans unspent⟩

/-- A live script that is handed back has not been recorded, and is not recorded then. -/
theorem Proceeds.deschedule {ex : Executor} (indexed : Indexed s) (found : s.get? pid = some ex) :
    Proceeds past (past ++ [⟨s, patience, .deschedule pid⟩]) s (s.deschedule pid).value.2 pid := by
  have back := (Performed.handedBack?_deschedule indexed patience pid).trans
    (congrArg _ found)
  have spent : spentIn (past ++ [⟨s, patience, .deschedule pid⟩]) pid = spentIn past pid :=
    spentIn_append.trans (add_zero _)
  constructor
  · intro before holds
    cases before with
    | live =>
      obtain ⟨old, was, never, kept, same⟩ := holds
      obtain rfl := Option.some.inj (found.symm.trans was)
      obtain rfl : ex.pid = pid := pid_of_get? found
      have records : (s.deschedule ex.pid).value.2.recordsOf ex.pid = s.recordsOf ex.pid ++ [] := by
        rw [List.append_nil, deschedule_eq found]
        unfold recordsOf
        exact congrArg _ (exits_remove s ex)
      refine ⟨.handedBack, ?_, ?_, ex.discharged, ?_, same.trans spent.symm⟩
      · rw [deschedule_eq found]
        exact Evolves.get?_remove_self s ex
      · rw [recorded_append past rfl records, never]
        rfl
      · unfold handbacks at kept ⊢
        simp [back, kept, Executor.discharged]
    | exited => exact absurd (found.symm.trans holds.1) (by simp)
    | handedBack => exact absurd (found.symm.trans holds.1) (by simp)
  · exact fun unheard => absurd (found.symm.trans unheard.dead) (by simp)

/-- Whatever is done, a script that is not launched proceeds. -/
theorem Reachable.proceeds (reached : Reachable config engine s)
    (performed : s.perform patience op = some ran)
    (unlaunched : s.nextPid.number ≤ pid.number → ran.value.2.nextPid.number ≤ pid.number) :
    Proceeds past (past ++ [⟨s, patience, op⟩]) s ran.value.2 pid := by
  by_cases taken : op = .takeExits
  · subst taken
    obtain rfl := Option.some.inj performed
    exact .takeExits pid
  have untaken : Performed.takenExits ⟨s, patience, op⟩ = [] := by
    cases op with
    | takeExits => exact absurd rfl taken
    | _ => rfl
  -- whoever is not handed back spends what the step says
  have usual : (∀ ex, Performed.handedBack? ⟨s, patience, op⟩ = some ex → ex.pid ≠ pid) →
      Spends pid s ran.value.2 (Performed.spent ⟨s, patience, op⟩ pid) →
        Proceeds past (past ++ [⟨s, patience, op⟩]) s ran.value.2 pid := fun kept spends =>
    ⟨fun _ holds => holds.spends spends kept untaken,
      fun unheard => unheard.spends spends kept untaken⟩
  by_cases asked : op = .deschedule pid
  · subst asked
    obtain rfl := Option.some.inj performed
    cases found : s.get? pid with
    | some ex => exact .deschedule reached.indexed found
    | none =>
      refine usual ?_ ?_
      · rw [Performed.handedBack?_deschedule reached.indexed, found]
        exact fun ex back => absurd back (by simp)
      · have still : (s.deschedule pid).value.2 = s := by
          unfold Scheduler.deschedule
          rw [found]
          rfl
        change Spends pid s (s.deschedule pid).value.2 0
        rw [still]
        exact .refl s pid
  · refine usual ?_ (reached.spends performed unlaunched asked taken)
    rintro ex back rfl
    exact asked (Performed.asked_of_handedBack? reached.indexed back)

/-- The ledger of a scheduler without scripts. -/
theorem Ledger.empty (config : SchedulerConfig) (engine : Option Engine) :
    Ledger [] (.empty config engine) where
  increasing := List.Pairwise.nil
  numbers pid := by
    refine iff_of_false List.not_mem_nil ?_
    rintro ⟨some, below⟩
    exact Nat.not_lt_of_le some below
  conditions _ mem := absurd mem List.not_mem_nil
  others _ _ := ⟨rfl, rfl, rfl, rfl⟩

/-- What is handed out in one more step. -/
theorem handedOut_append {step : Performed} :
    handedOut (past ++ [step]) = handedOut past ++ step.launched?.toList := by
  unfold handedOut
  cases launched : step.launched? <;> simp [launched]

/-- The next number is greater than zero. -/
theorem Reachable.nextPid_pos (reached : Reachable config engine s) : 0 < s.nextPid.number := by
  induction reached with
  | empty => exact Nat.one_pos
  | perform before performed ih => exact Nat.lt_of_lt_of_le ih (before.nextPid performed)

/-- A step keeps the ledger. -/
theorem Ledger.step (ledger : Ledger past s) (reached : Reachable config engine s)
    (performed : s.perform patience op = some ran) :
    Ledger (past ++ [⟨s, patience, op⟩]) ran.value.2 := by
  have unique : ∀ {pid} {past : List Performed} {s : Scheduler},
      (∃ condition : Condition, condition.Holds past s pid) →
        ∃! condition : Condition, condition.Holds past s pid :=
    fun ⟨condition, holds⟩ => ⟨condition, holds, fun _ other => other.unique holds⟩
  -- at most one number is handed out in a step, and then it is the next one
  rcases reached.launches performed with ⟨none, next⟩ | launches
  · have out : handedOut (past ++ [⟨s, patience, op⟩]) = handedOut past := by
      rw [handedOut_append, none]
      exact List.append_nil _
    have proceeds : ∀ pid, Proceeds past (past ++ [⟨s, patience, op⟩]) s ran.value.2 pid :=
      fun pid => reached.proceeds performed (next ▸ id)
    constructor
    · exact out ▸ ledger.increasing
    · rw [out, next]
      exact ledger.numbers
    · intro pid mem
      obtain ⟨condition, holds, -⟩ := ledger.conditions pid (out ▸ mem)
      exact unique ((proceeds pid).conditions condition holds)
    · intro pid absent
      exact (proceeds pid).others (ledger.others pid (out ▸ absent))
  · have out : handedOut (past ++ [⟨s, patience, op⟩]) = handedOut past ++ [s.nextPid] := by
      rw [handedOut_append, launches.number]
      rfl
    have next : ran.value.2.nextPid.number = s.nextPid.number + 1 := launches.next
    have proceeds : ∀ pid, pid ≠ s.nextPid →
        Proceeds past (past ++ [⟨s, patience, op⟩]) s ran.value.2 pid := by
      intro pid ne
      refine reached.proceeds performed fun new => next ▸ Nat.lt_of_le_of_ne new ?_
      exact fun same => ne (congrArg Pid.mk same.symm)
    -- nothing has been heard of the next number before
    have new : Unheard past s s.nextPid :=
      ledger.others _ fun old => Nat.lt_irrefl _ ((ledger.numbers _).mp old).2
    constructor
    · rw [out]
      refine List.pairwise_append.mpr ⟨ledger.increasing, List.pairwise_singleton _ _, ?_⟩
      intro old mem pid own
      obtain rfl := List.mem_singleton.mp own
      exact ((ledger.numbers old).mp mem).2
    · intro pid
      have pos := reached.nextPid_pos
      have own : pid = s.nextPid ↔ pid.number = s.nextPid.number :=
        ⟨congrArg Pid.number, congrArg Pid.mk⟩
      rw [out, next, List.mem_append, ledger.numbers, List.mem_singleton, own]
      omega
    · intro pid mem
      rcases List.mem_append.mp (out ▸ mem) with old | own
      · obtain ⟨condition, holds, -⟩ := ledger.conditions pid old
        refine unique ((proceeds pid ?_).conditions condition holds)
        rintro rfl
        exact Nat.lt_irrefl _ ((ledger.numbers _).mp old).2
      · obtain rfl := List.mem_singleton.mp own
        obtain ⟨m, ex, begun, unspent, exits, spends⟩ := launches.begins
        refine unique ((new.live begun unspent exits).spends spends ?_ ?_)
        · intro ex back
          obtain rfl := Performed.asked_of_handedBack? reached.indexed back
          exact absurd launches.number (by simp [Performed.launched?])
        · cases op with
          | takeExits => exact absurd launches.number (by simp [Performed.launched?])
          | _ => rfl
    · intro pid absent
      obtain ⟨old, other⟩ := not_or.mp (mt List.mem_append.mpr (out ▸ absent))
      exact (proceeds pid (mt List.mem_singleton.mpr other)).others (ledger.others pid old)

end Ledger

end ScriptScheduler
