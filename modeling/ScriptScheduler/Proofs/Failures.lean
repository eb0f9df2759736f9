import ScriptScheduler.Proofs.Placement
import ScriptScheduler.Proofs.Recurrence
import ScriptScheduler.Proofs.RequestNumbers

/-!
# Failed operations

An operation that fails leaves the scheduler as it was and does nothing but tell the log
(`Reachable.failsInVain`). Most operations look before they touch anything. Those that do not
answer a refusal with the state as it is by then: a script is detached before it is looked up to be
released, and has its result before it is looked up to be removed; neither look-up fails, because
the script has been found before (`undone_release`, `undone_kill`). Making a request is the one
operation that may fail half-way: the request has a number, and its script is suspended with a slot
for the answer, before the number is looked up among the pending ones. That look-up fails just if
the number is still in use, which it is only after the numbers have come to their end and begun
again.
-/

namespace ScriptScheduler

open Scheduler

/-! ### Nothing but notices -/

/-- Whatever has been done to the state `s` has not changed it and has only told the log. -/
structure Vain {α : Type} (s : Scheduler) (ran : Logged (α × Scheduler)) : Prop where
  state : ran.value.2 = s
  told : Told ran.entries

section Vain

variable {α : Type} {s : Scheduler} {ran : Logged (α × Scheduler)} {pid : Pid} {ex : Executor}
  {id : RequestId} {entity : EntityId} {kind : RequestKind}

/-- Nothing has been done. -/
theorem Vain.pure (a : α) : Vain s (pure (a, s)) := ⟨rfl, .nil⟩

/-- The log has been told something. -/
theorem Vain.tell (notice : Notice) (a : α) :
    Vain s (do Logged.tell notice; Pure.pure (a, s)) :=
  ⟨rfl, .tellAll [notice]⟩

/-- An answer does not change what has been done. -/
theorem Vain.answering (vain : Vain s ran) (answer : α → Answer) :
    Vain s (answering answer ran) where
  state := vain.state
  told := vain.told.append .nil

/-- An event that is refused changes nothing. -/
theorem vain_signalEvent {event : Val} {rejection : Rejection}
    (failed : (s.signalEvent pid event).value.1 = .error rejection) :
    Vain s (s.signalEvent pid event) := by
  unfold signalEvent at failed ⊢
  split at failed
  · exact .pure _
  · split at failed
    · exact absurd failed (by simp)
    · exact absurd failed (by simp)
    · exact .tell _ _

/-- Who is not live cannot be removed. -/
theorem vain_deschedule (failed : (s.deschedule pid).value.1 = none) :
    Vain s (s.deschedule pid) := by
  unfold deschedule at failed ⊢
  split at failed
  · exact .pure _
  · exact absurd failed (by simp)

/-- If the next number is not in use, a request that is not made changes nothing: it is refused
before anything is touched. -/
theorem vain_register {wake : Nat} {callback : Callback} (indexed : Indexed s)
    (unused : s.NumberUnused)
    (failed : (s.register pid entity kind wake callback).value.1 = none) :
    Vain s (s.register pid entity kind wake callback) := by
  unfold register at failed ⊢
  cases found : s.get? pid with
  | none => exact .tell _ _
  | some ex =>
    obtain ⟨addable, insertable⟩ :
        (ex.requests.add? kind s.nextRequestId).isSome = true ∧
          (s.requests.insert? ⟨s.nextRequestId, pid, entity, kind, callback, false⟩).isSome =
            true := unused.not_taken_back indexed found
    obtain ⟨holder, added⟩ := Option.isSome_iff_exists.mp addable
    obtain ⟨table, inserted⟩ := Option.isSome_iff_exists.mp insertable
    have requests : (ex.suspend wake).openResultSlot.requests = ex.requests := by
      unfold Executor.openResultSlot Executor.suspend
      split <;> split <;> rfl
    rw [found] at failed
    dsimp only at failed ⊢
    rw [requests, added] at failed
    dsimp only at failed
    rw [inserted] at failed
    split
    · exact .pure _
    · next suspendable =>
      rw [if_neg suspendable] at failed
      split
      · exact .tell _ _
      · next free =>
        rw [if_neg free] at failed
        exact absurd failed (by simp)

/-- A request that is not pending cannot be answered. -/
theorem vain_respond {response : Val} (failed : (s.respond id response).value.1 = false) :
    Vain s (s.respond id response) := by
  unfold respond at failed ⊢
  split at failed
  · exact .pure _
  · exact absurd failed (by simp)

/-- A request that is not pending cannot be aborted. -/
theorem vain_abortRequest (failed : (s.abortRequest id).value.1 = false) :
    Vain s (s.abortRequest id) := by
  unfold abortRequest at failed ⊢
  split at failed
  · exact .pure _
  · exact absurd failed (by simp)

/-- Nobody asks the entity for what it answers. -/
theorem vain_respondToEntity {hint : Option RequestId} {response : Val}
    (failed : (s.respondToEntity entity kind hint response).value.1 = none) :
    Vain s (s.respondToEntity entity kind hint response) := by
  unfold respondToEntity at failed ⊢
  split at failed
  · exact .pure _
  · next id _ =>
    have unanswered : (s.respond id response).value.1 = false := by simpa using failed
    have vain := vain_respond unanswered
    exact ⟨vain.state, vain.told.append .nil⟩

/-- If no request is aborted nothing is changed. -/
theorem vain_abortEach {ids : List RequestId} (failed : (abortEach ids s).value.1 = 0) :
    Vain s (abortEach ids s) := by
  induction ids with
  | nil => exact .pure 0
  | cons id rest ih =>
    unfold abortEach at failed ⊢
    simp only [Logged.bind_value, Logged.pure_value] at failed
    obtain ⟨others, own⟩ := Nat.add_eq_zero_iff.mp failed
    have alone : (s.abortRequest id).value.1 = false := by simpa using own
    have first := vain_abortRequest alone
    rw [first.state] at others
    have later := ih others
    constructor
    · simpa [first.state] using later.state
    · simpa [first.state] using first.told.append later.told

/-- A script without pending requests. -/
theorem vain_abortAll (failed : (s.abortAll pid).value.1 = 0) : Vain s (s.abortAll pid) := by
  unfold abortAll at failed ⊢
  split at failed
  · exact .pure 0
  · exact vain_abortEach failed

/-- An entity that nobody asks for anything. -/
theorem vain_entityDisconnected (failed : (s.entityDisconnected entity).value.1 = 0) :
    Vain s (s.entityDisconnected entity) := by
  unfold entityDisconnected at failed ⊢
  split at failed
  · exact .pure 0
  · exact vain_abortEach failed

/-- No engine call has been settled. -/
theorem vain_pumpExternal (failed : s.pumpExternal.value.1 = 0) : Vain s s.pumpExternal := by
  have incomplete : s.calls.filterMap PendingCall.completion? = [] :=
    List.length_eq_zero_iff.mp failed
  have unsettled : ∀ call ∈ s.calls, call.settlement = none := by
    intro call mem
    have pending := List.filterMap_eq_nil_iff.mp incomplete call mem
    simpa [PendingCall.completion?] using pending
  have kept : s.calls.filter (fun call => call.settlement.isNone) = s.calls :=
    List.filter_eq_self.mpr fun call mem => by simp [unsettled call mem]
  have silent : s.calls.filterMap PendingCall.notice? = [] :=
    List.filterMap_eq_nil_iff.mpr fun call mem => by simp [PendingCall.notice?, unsettled call mem]
  unfold pumpExternal
  simp only [incomplete, kept, silent]
  exact .pure 0

end Vain

/-! ### Failed operations -/

/-- Whether an answer says that the operation has failed. -/
def Answer.failed : Answer → Bool
  | .refused _ | .rejected _ _ | .removed none | .requested none | .resolved false | .count 0 =>
    true
  | _ => false

namespace Answer

/-- Nothing was removed. -/
theorem failed_removed {removed : Option Executor} :
    (Answer.removed removed).failed = true ↔ removed = none := by
  cases removed <;> simp [failed]

/-- No request was made or answered. -/
theorem failed_requested {id : Option RequestId} :
    (Answer.requested id).failed = true ↔ id = none := by
  cases id <;> simp [failed]

/-- The request was not pending. -/
theorem failed_resolved {success : Bool} :
    (Answer.resolved success).failed = true ↔ success = false := by
  cases success <;> simp [failed]

/-- Nothing was counted. -/
theorem failed_count {n : Nat} : (Answer.count n).failed = true ↔ n = 0 := by
  cases n <;> simp [failed]

end Answer

/-- The operation makes a request. -/
def Operation.isRequest : Operation → Bool
  | .request .. | .requestWithTimeout .. => true
  | _ => false

section Perform

variable {s : Scheduler} {ran : Logged (Answer × Scheduler)} {op : Operation} {patience : Nat}

/-- What is refused is not done. -/
theorem vain_attempt {α : Type} {answer : α → Answer}
    {tried : Except (Refusal Scheduler) (Logged (α × Scheduler))} (undone : Undone s tried)
    (achieved : ∀ a, (answer a).failed = false)
    (failed : (attempt answer tried).value.1.failed = true) : Vain s (attempt answer tried) := by
  cases tried with
  | ok ran => exact absurd (failed.symm.trans (achieved ran.value.1)) (by decide)
  | error refusal =>
    obtain rfl := undone refusal rfl
    exact .pure _

/-- What is refused is not done, and nothing else is answered. -/
theorem vain_attemptQuietly {tried : Except (Refusal Scheduler) Scheduler}
    (undone : Undone s tried) (failed : (attemptQuietly tried).value.1.failed = true) :
    Vain s (attemptQuietly tried) := by
  cases tried with
  | ok after => exact absurd failed (by simp [attemptQuietly, Answer.failed])
  | error refusal =>
    obtain rfl := undone refusal rfl
    exact .pure _

/-- An operation that fails has changed nothing and only told the log, if it makes no request or the
next number is not in use. -/
theorem Reachable.vain {config : SchedulerConfig} {engine : Option Engine}
    (reached : Reachable config engine s) (performed : s.perform patience op = some ran)
    (failed : ran.value.1.failed = true) (unused : op.isRequest = true → s.NumberUnused) :
    Vain s ran := by
  cases op with
  | start | startWith =>
    obtain rfl := Option.some.inj performed
    exact vain_attempt (undone_startScriptWith _ _) (fun _ => rfl) failed
  | runScript =>
    obtain rfl := Option.some.inj performed
    exact vain_attempt (undone_runScript _ _) (fun _ => rfl) failed
  | kill =>
    obtain rfl := Option.some.inj performed
    exact vain_attempt (undone_kill _) (fun _ => rfl) failed
  | halt =>
    obtain rfl := Option.some.inj performed
    exact vain_attemptQuietly (undone_halt _) failed
  | release =>
    obtain rfl := Option.some.inj performed
    exact vain_attemptQuietly (undone_release _) failed
  | edit =>
    obtain rfl := Option.some.inj performed
    exact vain_attemptQuietly (undone_edit _ _) failed
  | runToCompletion now program =>
    rcases perform_runToCompletion performed with ⟨cause, -, rfl⟩ | ⟨done, -, rfl⟩
    · exact .pure _
    · exact absurd failed Bool.false_ne_true
  | runReady now =>
    obtain ⟨done, -, rfl⟩ := Option.map_eq_some_iff.mp performed
    exact absurd failed Bool.false_ne_true
  | checkBlocked | settleCall | takeExits | shutdown =>
    obtain rfl := Option.some.inj performed
    exact absurd failed Bool.false_ne_true
  | signal pid event =>
    obtain rfl := Option.some.inj performed
    cases answer : (s.signalEvent pid event).value.1 with
    | error cause => exact (vain_signalEvent answer).answering _
    | ok delivery => exact absurd failed (by simp [answering, signalAnswer, Answer.failed, answer])
  | request | requestWithTimeout =>
    obtain rfl := Option.some.inj performed
    -- the one operation that may fail after it has changed something
    exact (vain_register reached.indexed (unused rfl)
      (Answer.failed_requested.mp failed)).answering _
  | deschedule pid =>
    obtain rfl := Option.some.inj performed
    exact (vain_deschedule (Answer.failed_removed.mp failed)).answering _
  | respond id response =>
    obtain rfl := Option.some.inj performed
    exact (vain_respond (Answer.failed_resolved.mp failed)).answering _
  | respondToEntity entity kind hint response =>
    obtain rfl := Option.some.inj performed
    exact (vain_respondToEntity (Answer.failed_requested.mp failed)).answering _
  | abort id =>
    obtain rfl := Option.some.inj performed
    exact (vain_abortRequest (Answer.failed_resolved.mp failed)).answering _
  | abortAll pid =>
    obtain rfl := Option.some.inj performed
    exact (vain_abortAll (Answer.failed_count.mp failed)).answering _
  | entityDisconnected entity =>
    obtain rfl := Option.some.inj performed
    exact (vain_entityDisconnected (Answer.failed_count.mp failed)).answering _
  | pumpExternal =>
    obtain rfl := Option.some.inj performed
    exact (vain_pumpExternal (Answer.failed_count.mp failed)).answering _

/-- A queue that does not take an event hands the event back. -/
theorem Thread.event_of_post {thread : Thread} {event : Val} {rejection : Rejection}
    (refused : thread.post event = .error rejection) : rejection.event = event := by
  unfold Thread.post at refused
  split at refused
  · exact Except.error.inj refused ▸ rfl
  · split at refused
    · exact Except.error.inj refused ▸ rfl
    · exact absurd refused (by simp)

/-- A script that does not take an event hands the event back. -/
theorem Executor.event_of_signalEvent {ex : Executor} {event : Val} {rejection : Rejection}
    (refused : ex.signalEvent event = .error rejection) : rejection.event = event := by
  unfold Executor.signalEvent at refused
  split at refused
  · exact absurd refused (by simp)
  · split at refused
    · exact absurd refused (by simp)
    · next posted => exact Except.error.inj refused ▸ Thread.event_of_post posted

/-- A rejected event comes back to its sender. -/
theorem Scheduler.event_of_signalEvent {pid : Pid} {event : Val} {rejection : Rejection}
    (refused : (s.signalEvent pid event).value.1 = .error rejection) :
    rejection.event = event := by
  unfold Scheduler.signalEvent at refused
  split at refused
  · exact Except.error.inj refused ▸ rfl
  · split at refused
    · exact absurd refused (by simp)
    · exact absurd refused (by simp)
    · next handed => exact Except.error.inj refused ▸ Executor.event_of_signalEvent handed

/-- Only a signal is rejected, and the event comes back. -/
theorem event_of_rejected {cause : SignalError} {event : Val}
    (performed : s.perform patience op = some ran) (rejected : ran.value.1 = .rejected cause event) :
    ∃ pid, op = .signal pid event := by
  cases op with
  | signal pid sent =>
    obtain rfl := Option.some.inj performed
    change signalAnswer _ = _ at rejected
    cases answer : (s.signalEvent pid sent).value.1 with
    | ok delivery => exact absurd (answer ▸ rejected) (by simp [signalAnswer])
    | error rejection =>
      rw [answer] at rejected
      obtain ⟨-, rfl⟩ := Answer.rejected.inj rejected
      exact ⟨pid, congrArg _ (event_of_signalEvent answer).symm⟩
  | runToCompletion now program =>
    rcases perform_runToCompletion performed with ⟨cause, -, rfl⟩ | ⟨done, -, rfl⟩
    · exact absurd rejected (by simp [refusing])
    · exact absurd rejected (by simp [answering])
  | runReady now =>
    obtain ⟨done, -, rfl⟩ := Option.map_eq_some_iff.mp performed
    exact absurd rejected (by simp [quietly])
  | start | startWith | runScript | kill =>
    obtain rfl := Option.some.inj performed
    unfold attempt at rejected
    split at rejected <;> exact absurd rejected (by simp [answering, refusing])
  | halt | release | edit =>
    obtain rfl := Option.some.inj performed
    unfold attemptQuietly at rejected
    split at rejected <;> exact absurd rejected (by simp [refusing])
  | _ =>
    obtain rfl := Option.some.inj performed
    exact absurd rejected (by simp [answering, quietly])

end Perform

/-- A program that is refused leaves the script as it was. -/
theorem Executor.state_of_setProgram {ex : Executor} {program : Program}
    {refusal : Refusal Executor} (refused : ex.setProgram program = .error refusal) :
    refusal.state = ex := by
  unfold Executor.setProgram at refused
  split at refused
  · exact Except.error.inj refused ▸ rfl
  · split at refused
    · exact Except.error.inj refused ▸ rfl
    · exact absurd refused (by simp)

/-- What fails in the state `s` is in vain. -/
structure FailsInVain (s : Scheduler) : Prop where
  /-- A failed operation changes nothing, of whatever the state consists, and only tells the log.
  For requests the next number must not be in use. -/
  operations : ∀ (patience : Nat) (op : Operation) (ran : Logged (Answer × Scheduler)),
    s.perform patience op = some ran → ran.value.1.failed = true →
      (op.isRequest = true → s.NumberUnused) → Vain s ran
  /-- The next number is not in use before the numbers have come to their end. -/
  numbers : s.Unwrapped → s.NumberUnused
  /-- A rejected event comes back. -/
  events : ∀ (patience : Nat) (op : Operation) (ran : Logged (Answer × Scheduler))
    (cause : SignalError) (event : Val), s.perform patience op = some ran →
      ran.value.1 = .rejected cause event → ∃ pid, op = .signal pid event
  /-- A script that is not given a program stays as it is. -/
  programs : ∀ (ex : Executor) (program : Program) (refusal : Refusal Executor),
    ex.setProgram program = .error refusal → refusal.state = ex

/-- Whatever fails in a reachable state leaves everything as it was. -/
theorem Reachable.failsInVain {config : SchedulerConfig} {engine : Option Engine} {s : Scheduler}
    (reached : Reachable config engine s) : FailsInVain s where
  operations _ _ _ performed failed unused := reached.vain performed failed unused
  numbers unwrapped := (reached.fresh unwrapped).numberUnused unwrapped
  events _ _ _ _ _ performed rejected := event_of_rejected performed rejected
  programs _ _ _ refused := Executor.state_of_setProgram refused

/-- A script that waits for the answer to a request cannot make another one, and nothing is changed
by its attempt. -/
theorem failsInVain_asking : ∃ s op ran, performAll 1 askingRun (.empty {} none) = some s ∧
    s.NumberUnused ∧ op = .request ⟨1⟩ ⟨8⟩ .textEntry (fun _ response => some response) ∧
    s.perform 1 op = some ran ∧ ran.value.1 = .requested none ∧ ran.value.2 = s := by
  have performed : performAll 1 askingRun (.empty {} none) = some _ := rfl
  have vain : FailsInVain _ := Reachable.failsInVain (Reachable.empty.performAll performed)
  let again : Operation := .request ⟨1⟩ ⟨8⟩ .textEntry fun _ response => some response
  have unused := vain.numbers (by unfold Unwrapped; decide)
  exact ⟨_, again, _, performed, unused, rfl, rfl, rfl,
    (vain.operations 1 again _ rfl rfl fun _ => unused).state⟩

/-- A request that is refused because the numbers have come round again, while the first one is
pending, has used up a number. -/
theorem not_failsInVain_recurring : ∃ s ran,
    performAll 1 ([.start (.engine "keeper" "shop"),
        .request ⟨1⟩ ⟨3⟩ .textEntry (fun _ response => some response),
        .start (.engine "clerk" "desk")] ++ rounds (UInt32.size - 2) ⟨2⟩ ⟨7⟩ ++ [])
      (.empty {} (some deferringEngine)) = some s ∧
    s.perform 1 (.request ⟨2⟩ ⟨7⟩ .textEntry fun _ response => some response) = some ran ∧
    ran.value.1 = .requested none ∧ ran.value.2.issued = s.issued + 1 := by
  have before : performAll 1 [.start (.engine "keeper" "shop"),
      .request ⟨1⟩ ⟨3⟩ .textEntry (fun _ response => some response),
      .start (.engine "clerk" "desk")] (.empty {} (some deferringEngine)) = some _ := rfl
  have spare : Spare _ ⟨2⟩ _ := {
    numbers := (Reachable.empty.performAll before).numbered
    live := rfl
    ready := rfl
    untimed := by decide
    engine := rfl
    suspends := rfl
    unasked := rfl
    idle := rfl }
  refine ⟨_, _, spare.performAll_around _ _ _ before ?_ ?_ rfl, rfl, rfl, rfl⟩
  · intro k less r mem
    obtain rfl := List.mem_singleton.mp mem
    have soon : 1 + k < 0 + (UInt32.size - 1) := by omega
    exact RequestId.ofCount_ne (Nat.add_pos_left Nat.one_pos k) soon
  · intro entry mem
    obtain rfl := List.mem_singleton.mp mem
    decide

end ScriptScheduler
