import ScriptScheduler.Proofs.Placeless

/-!
# Operations that do not look at places

What an operation does to scripts does not depend on where the scripts are placed or on whether
they are halted, unless the operation is about places itself: a pass runs the ready scripts, a
check wakes the sleepers, the debugger parks and releases scripts, and all of them are told where
they stand when the scheduler is shut down. Every other operation does the same in akin states,
with the same record, and leads to akin states again (`Scheduler.Akin.perform`). So does the
placement of a script after a slice (`Scheduler.Akin.settle`).
-/

namespace ScriptScheduler

/-! ### Results that agree -/

/-- Two results with the same record and related values. -/
structure Logged.Agree {α β : Type} (R : α → β → Prop) (x : Logged α) (y : Logged β) : Prop where
  value : R x.value y.value
  entries : x.entries = y.entries

namespace Logged.Agree

variable {α β γ δ : Type} {R : α → β → Prop} {S : γ → δ → Prop}

/-- Related results without a record. -/
theorem pure {a : α} {b : β} (h : R a b) : Agree R (Pure.pure a : Logged α) (Pure.pure b) :=
  ⟨h, rfl⟩

/-- Results one after the other agree if the first ones and the second ones do. -/
theorem bind {x : Logged α} {y : Logged β} {f : α → Logged γ} {g : β → Logged δ}
    (h : Agree R x y) (next : ∀ a b, R a b → Agree S (f a) (g b)) :
    Agree S (x >>= f) (y >>= g) := by
  obtain ⟨value, entries⟩ := next _ _ h.value
  exact ⟨value, congrArg₂ _ h.entries entries⟩

/-- What comes after the same result agrees if it does for every value. -/
theorem after (x : Logged α) {f : α → Logged γ} {g : α → Logged δ}
    (next : ∀ a, Agree S (f a) (g a)) : Agree S (x >>= f) (x >>= g) :=
  bind (R := Eq) ⟨rfl, rfl⟩ fun a _ same => same ▸ next a

end Logged.Agree

/-- Two attempts that have related refusals or related results. -/
inductive Except.Agree {α β ε : Type} (E : ε → ε → Prop) (R : α → β → Prop) :
    Except ε α → Except ε β → Prop
  | refused {e e' : ε} (h : E e e') : Except.Agree E R (.error e) (.error e')
  | ok {a : α} {b : β} (h : R a b) : Except.Agree E R (.ok a) (.ok b)

/-- Refusals for the same reason that leave akin states. -/
def Refusal.Akin (x y : Refusal Scheduler) : Prop := x.cause = y.cause ∧ x.state.Akin y.state

/-! ### Deliveries -/

/-- Akin scripts get an event in the same way. -/
theorem Executor.Akin.signalEvent {a b : Executor} (h : a.Akin b) (event : Val) :
    Except.Agree Eq (fun x y => x.1 = y.1 ∧ x.2.Akin y.2) (a.signalEvent event)
      (b.signalEvent event) := by
  obtain ⟨halted, timer, list, rfl⟩ := h.eq_moved
  have awaits : (a.moved halted timer list).awaitsEvent = a.awaitsEvent := rfl
  have inbox : (a.moved halted timer list).thread.inbox = a.thread.inbox := rfl
  unfold Executor.signalEvent Thread.post
  rw [awaits, inbox]
  by_cases waits : a.awaitsEvent = true
  · rw [if_pos waits, if_pos waits]
    exact .ok ⟨rfl, rfl⟩
  · rw [if_neg waits, if_neg waits]
    cases a.thread.inbox with
    | call => exact .refused rfl
    | queue capacity events =>
      by_cases full : capacity ≤ events.length
      · simp only [if_pos full]
        exact .refused rfl
      · simp only [if_neg full]
        exact .ok ⟨rfl, rfl⟩

/-- Akin scripts are given the same answer and remain akin. -/
theorem Executor.Akin.handleRequest {a b : Executor} (h : a.Akin b) (id : RequestId)
    (response : Option Val) {engine engine' : Option Engine} (same : engine = engine') :
    Logged.Agree Executor.Akin (a.handleRequest id response engine)
      (b.handleRequest id response engine') := by
  subst same
  obtain ⟨halted, timer, list, rfl⟩ := h.eq_moved
  have same : (a.moved halted timer list).runtime = a.runtime := rfl
  unfold Executor.handleRequest
  rw [same]
  split
  · refine .after _ fun _ => ?_
    dsimp only
    split
    · exact ⟨rfl, rfl⟩
    · exact .after _ fun _ => ⟨rfl, rfl⟩
  · exact .after _ fun _ => ⟨rfl, rfl⟩
  · exact .after _ fun _ => ⟨rfl, rfl⟩

namespace Scheduler

/-- Results with related values, in akin states. -/
def AkinWith {α β : Type} (R : α → β → Prop) (x : α × Scheduler) (y : β × Scheduler) : Prop :=
  R x.1 y.1 ∧ x.2.Akin y.2

variable {s t : Scheduler} {pid : Pid} {a b : Executor}

/-! ### Removal -/

/-- Akin scripts whose requests are dropped remain akin. -/
theorem akin_dropRequests {a b : Executor} (engine : Option Engine) (ids : List RequestId)
    (table : RequestTable) (h : a.Akin b) :
    Logged.Agree (fun x y => x.1.Akin y.1 ∧ x.2 = y.2) (dropRequests engine ids a table)
      (dropRequests engine ids b table) := by
  induction ids generalizing a b table with
  | nil => exact .pure ⟨h, rfl⟩
  | cons id rest ih =>
    unfold dropRequests
    split
    · exact ih table h
    · exact .bind (h.handleRequest id none rfl) fun _ _ akin => ih _ akin

namespace Akin

/-- A parent gets the same result in akin states. -/
theorem resumeParent (h : s.Akin t) (parent child : Pid) (result : Val) :
    (s.resumeParent parent child result).Akin (t.resumeParent parent child result) := by
  unfold Scheduler.resumeParent
  rcases h.lookup parent with ⟨left, right⟩ | ⟨a, b, left, right, akin⟩
  · rw [left, right]
    exact h
  · rw [left, right]
    dsimp only
    rw [show a.child = b.child from akin.view Executor.child]
    split
    · refine .congr (h.store ?_) (akin_schedule ..) (akin_schedule ..)
      obtain ⟨halted, timer, list, rfl⟩ := akin.eq_moved
      rfl
    · exact h

/-- A child loses its parent in akin states. -/
theorem orphan (h : s.Akin t) (child : Option Pid) : (s.orphan child).Akin (t.orphan child) := by
  unfold Scheduler.orphan
  split
  · exact h
  · refine h.modify _ fun a b akin => ?_
    obtain ⟨halted, timer, list, rfl⟩ := akin.eq_moved
    rfl

/-- The parent of a removed script gets the same result in akin states. -/
theorem notifyParent (h : s.Akin t) (akin : a.Akin b) :
    (s.notifyParent a).Akin (t.notifyParent b) := by
  unfold Scheduler.notifyParent
  rw [show a.parent = b.parent from akin.view Executor.parent, akin.pid,
    show a.result = b.result from akin.view Executor.result]
  split
  · exact h
  · exact h.resumeParent _ _ _

/-- A removed script leaves no calls behind in akin states. -/
theorem forgetCalls (h : s.Akin t) (pid : Pid) : (s.forgetCalls pid).Akin (t.forgetCalls pid) :=
  h.besides (h.view fun s => s.forgetCalls pid) rfl rfl

/-- The requests of akin states are replaced. -/
theorem withRequests (h : s.Akin t) (table : RequestTable) :
    ({ s with requests := table } : Scheduler).Akin { t with requests := table } :=
  h.besides (h.view fun s => { s with requests := table }) rfl rfl

/-- Akin scripts are removed from akin states in the same way. -/
theorem remove (h : s.Akin t) (akin : a.Akin b) :
    Logged.Agree (AkinWith Executor.Akin) (s.remove a) (t.remove b) := by
  have struck : ((s.detach a.pid).erase a.pid).Akin ((t.detach b.pid).erase b.pid) := by
    rw [akin.pid]
    exact (h.congr (akin_detach ..) (akin_detach ..)).erase b.pid
  have dropped : Logged.Agree (fun x y => x.1.Akin y.1 ∧ x.2 = y.2)
      (dropRequests ((s.detach a.pid).erase a.pid).engine a.requests.ids
        { a.mapThread Thread.detached with requests := .empty }
        ((s.detach a.pid).erase a.pid).requests)
      (dropRequests ((t.detach b.pid).erase b.pid).engine b.requests.ids
        { b.mapThread Thread.detached with requests := .empty }
        ((t.detach b.pid).erase b.pid).requests) := by
    rw [struck.engine, struck.requests, akin.requests]
    refine akin_dropRequests _ _ _ ?_
    obtain ⟨halted, timer, list, rfl⟩ := akin.eq_moved
    rfl
  unfold Scheduler.remove
  refine .bind dropped ?_
  rintro ⟨a, table⟩ ⟨b, _⟩ ⟨akin, rfl⟩
  refine .pure ⟨?_, ?_⟩
  · exact akin.map (f := fun ex =>
      { ex.mapThread Thread.clearEvents with parent := none, child := none })
      (Executor.blind_clearEvents)
  · dsimp only
    rw [akin.pid, show a.child = b.child from akin.view Executor.child]
    exact (((struck.withRequests table).forgetCalls b.pid).orphan b.child).notifyParent akin

/-- Akin scripts are retired from akin states with the same exit record. -/
theorem retire (h : s.Akin t) (akin : a.Akin b) (reason : ExitReason) :
    Logged.Agree (AkinWith Eq) (s.retire a reason) (t.retire b reason) := by
  unfold Scheduler.retire
  refine .bind (h.remove akin) ?_
  rintro ⟨a, s⟩ ⟨b, t⟩ ⟨akin, h⟩
  have exits : exitOf a reason = exitOf b reason := akin.view fun ex => exitOf ex reason
  have profiled : s.isProfiled a = t.isProfiled b := by
    have cycles : a.instrCycles = b.instrCycles := akin.view Executor.instrCycles
    unfold isProfiled
    rw [h.config, cycles]
  have left : AkinWith Eq (exitOf a reason, { s with exits := s.exits ++ [exitOf a reason] })
      (exitOf b reason, { t with exits := t.exits ++ [exitOf b reason] }) := by
    rw [exits]
    refine ⟨rfl, h.besides ?_ rfl rfl⟩
    exact h.view fun s => { s with exits := s.exits ++ [exitOf b reason] }
  dsimp only
  rw [profiled]
  split
  · have told : Notice.profile a.scriptname a.instrCycles a.sleepCycles =
        .profile b.scriptname b.instrCycles b.sleepCycles :=
      akin.view fun ex => Notice.profile ex.scriptname ex.instrCycles ex.sleepCycles
    rw [told]
    exact .after _ fun _ => .pure left
  · exact .pure left

/-- A script is removed from akin states in the same way. -/
theorem deschedule (h : s.Akin t) (pid : Pid) :
    Logged.Agree (AkinWith fun x y => x.map Executor.placeless = y.map Executor.placeless)
      (s.deschedule pid) (t.deschedule pid) := by
  unfold Scheduler.deschedule
  rcases h.lookup pid with ⟨left, right⟩ | ⟨a, b, left, right, akin⟩
  · rw [left, right]
    exact .pure ⟨rfl, h⟩
  · rw [left, right]
    refine .bind (h.remove akin) ?_
    rintro ⟨a, s⟩ ⟨b, t⟩ ⟨akin, h⟩
    exact .pure ⟨congrArg some akin, h⟩

/-! ### The engine -/

/-- The script of a settled call is retired from akin states in the same way. -/
theorem completeExternal (h : s.Akin t) (pid : Pid) (value : Val) :
    Logged.Agree (AkinWith Eq) (s.completeExternal pid value) (t.completeExternal pid value) := by
  unfold Scheduler.completeExternal
  rcases h.lookup pid with ⟨left, right⟩ | ⟨a, b, left, right, akin⟩
  · rw [left, right]
    exact .pure ⟨rfl, h⟩
  · rw [left, right]
    have finished := akin.map (Executor.blind_finishEngine value)
    have stored := h.store finished
    have left : ({ s.store (a.finishEngine value) with
        external := s.external.erase pid } : Scheduler).Akin
        { t.store (b.finishEngine value) with external := t.external.erase pid } := stored
    refine .bind (left.retire finished _) ?_
    rintro ⟨exit, s⟩ ⟨_, t⟩ ⟨rfl, h⟩
    exact .pure ⟨rfl, h⟩

/-- The scripts of settled calls are retired from akin states in the same way. -/
theorem completeEach (settled : List Completion) :
    ∀ {s t : Scheduler}, s.Akin t →
      Logged.Agree Akin (completeEach settled s) (completeEach settled t) := by
  induction settled with
  | nil => exact fun h => .pure h
  | cons done rest ih =>
    intro s t h
    unfold Scheduler.completeEach
    exact .bind (h.completeExternal _ _) fun _ _ ended => ih ended.2

/-- Settled calls are applied to akin states in the same way. -/
theorem pumpExternal (h : s.Akin t) :
    Logged.Agree (AkinWith Eq) s.pumpExternal t.pumpExternal := by
  have calls : s.calls = t.calls := h.view Scheduler.calls
  unfold Scheduler.pumpExternal
  dsimp only
  rw [calls]
  refine .after _ fun _ => .bind (completeEach _ (h.besides ?_ rfl rfl)) fun _ _ akin =>
    .pure ⟨rfl, akin⟩
  exact h.view fun s => { s with calls := t.calls.filter fun call => call.settlement.isNone }

/-- A deferred call is kept in akin states. -/
theorem defer (h : s.Akin t) (akin : a.Akin b) (id : RequestId) (settlement : Option Settlement) :
    (s.defer a id settlement).Akin (t.defer b id settlement) := by
  have noted := akin.map (Executor.blind_setOutstanding (some id))
  have stored := h.store noted
  have call : (⟨id, a.pid, a.scriptname, settlement⟩ : PendingCall) =
      ⟨id, b.pid, b.scriptname, settlement⟩ :=
    akin.view fun ex => (⟨id, ex.pid, ex.scriptname, settlement⟩ : PendingCall)
  refine stored.besides ?_ rfl rfl
  change ({ s.aside with calls := insertCall ⟨id, a.pid, a.scriptname, settlement⟩ s.calls } :
    Scheduler) = _
  rw [call]
  exact h.view fun s =>
    { s with calls := insertCall ⟨id, b.pid, b.scriptname, settlement⟩ s.calls }

/-- Akin scripts call the engine from akin states in the same way. -/
theorem invoke (h : s.Akin t) (akin : a.Akin b) (function : FunctionRef) (id : RequestId) :
    Logged.Agree (AkinWith Eq) (s.invoke a function id) (t.invoke b function id) := by
  obtain ⟨halted, timer, list, rfl⟩ := akin.eq_moved
  have cleared : ({ a with stack := [] } : Executor).Akin
      { a.moved halted timer list with stack := [] } := rfl
  have called : callOf (a.moved halted timer list) function id = callOf a function id := rfl
  unfold Scheduler.invoke
  rw [h.engine, called]
  split
  · exact .after _ fun _ => h.completeExternal _ _
  · refine .after _ fun _ => ?_
    split
    · exact (h.store cleared).completeExternal _ _
    · exact .after _ fun _ => (h.store cleared).completeExternal _ _
    · exact .pure ⟨rfl, (h.store cleared).defer cleared id _⟩

/-- A script goes to the engine from akin states in the same way. -/
theorem runExternal (h : s.Akin t) (pid : Pid) :
    Logged.Agree (AkinWith Eq) (s.runExternal pid) (t.runExternal pid) := by
  have parked : (s.parkExternal pid).Akin (t.parkExternal pid) :=
    h.congr (akin_parkExternal ..) (akin_parkExternal ..)
  have issued := parked.issue
  have id : (s.parkExternal pid).nextRequestId = (t.parkExternal pid).nextRequestId :=
    parked.view nextRequestId
  unfold Scheduler.runExternal
  dsimp only
  rcases issued.lookup pid with ⟨left, right⟩ | ⟨a, b, left, right, akin⟩
  · rw [left, right]
    exact .pure ⟨rfl, issued⟩
  · rw [left, right, id]
    dsimp only
    rw [show a.function? = b.function? from akin.view Executor.function?]
    split
    · exact .pure ⟨rfl, issued⟩
    · exact issued.invoke akin _ _

/-! ### After a slice -/

/-- A script is placed after its slice, or ended, in akin states in the same way. -/
theorem settle (h : s.Akin t) (ex : Executor) (outcome : SliceOutcome) :
    Logged.Agree (AkinWith Eq) (s.settle ex outcome) (t.settle ex outcome) := by
  have retired : ∀ (ex : Executor) reason, Logged.Agree (AkinWith Eq)
      (s.retire ex reason >>= fun x => Pure.pure (some x.1, x.2))
      (t.retire ex reason >>= fun x => Pure.pure (some x.1, x.2)) :=
    fun ex reason => .bind (h.retire (.refl ex) reason) fun _ _ same =>
      .pure ⟨congrArg some same.1, same.2⟩
  cases outcome with
  | preempted => exact .pure ⟨rfl, h⟩
  | blocked => exact .pure ⟨rfl, h.congr (akin_hold ..) (akin_hold ..)⟩
  | halted => exact .pure ⟨rfl, h.congr (akin_parkDebugger ..) (akin_parkDebugger ..)⟩
  | finished => exact retired ex .finished
  | faulted cause => exact .after _ fun _ => retired _ .faulted
  | runaway => exact .after _ fun _ => retired _ .runaway
  | external => exact h.runExternal ex.pid

/-! ### Requests -/

/-- A request is answered in akin states in the same way. -/
theorem resolve (h : s.Akin t) (request : Request) (value : Option Val) :
    Logged.Agree Akin (s.resolve request value) (t.resolve request value) := by
  have taken := h.withRequests (s.requests.take request)
  unfold Scheduler.resolve Scheduler.deliver
  dsimp only
  rw [← h.requests]
  rcases taken.lookup request.pid with ⟨left, right⟩ | ⟨a, b, left, right, akin⟩
  · rw [left, right]
    exact .pure taken
  · rw [left, right]
    have removed := akin.withRequests (b.requests.remove request.kind request.id)
    dsimp only
    rw [akin.requests]
    refine .bind (removed.handleRequest request.id value h.engine) fun a b akin => .pure ?_
    exact (taken.store akin).congr (akin_schedule ..) (akin_schedule ..)

/-- A response is given in akin states in the same way. -/
theorem respond (h : s.Akin t) (id : RequestId) (response : Val) :
    Logged.Agree (AkinWith Eq) (s.respond id response) (t.respond id response) := by
  unfold Scheduler.respond
  rw [h.requests]
  split
  · exact .pure ⟨rfl, h⟩
  · exact .bind (h.resolve _ _) fun _ _ akin => .pure ⟨rfl, akin⟩

/-- A request is aborted in akin states in the same way. -/
theorem abortRequest (h : s.Akin t) (id : RequestId) :
    Logged.Agree (AkinWith Eq) (s.abortRequest id) (t.abortRequest id) := by
  unfold Scheduler.abortRequest
  rw [h.requests]
  split
  · exact .pure ⟨rfl, h⟩
  · exact .bind (h.resolve _ _) fun _ _ akin => .pure ⟨rfl, akin⟩

/-- Requests are aborted in akin states in the same way. -/
theorem abortEach (ids : List RequestId) :
    ∀ {s t : Scheduler}, s.Akin t →
      Logged.Agree (AkinWith Eq) (abortEach ids s) (abortEach ids t) := by
  induction ids with
  | nil => exact fun h => .pure ⟨rfl, h⟩
  | cons id rest ih =>
    intro s t h
    unfold Scheduler.abortEach
    refine .bind (h.abortRequest id) ?_
    rintro ⟨aborted, s⟩ ⟨_, t⟩ ⟨rfl, h⟩
    refine .bind (ih h) ?_
    rintro ⟨count, s⟩ ⟨_, t⟩ ⟨rfl, h⟩
    exact .pure ⟨rfl, h⟩

/-- The requests of a script are aborted in akin states in the same way. -/
theorem abortAll (h : s.Akin t) (pid : Pid) :
    Logged.Agree (AkinWith Eq) (s.abortAll pid) (t.abortAll pid) := by
  unfold Scheduler.abortAll
  rcases h.lookup pid with ⟨left, right⟩ | ⟨a, b, left, right, akin⟩
  · rw [left, right]
    exact .pure ⟨rfl, h⟩
  · rw [left, right]
    dsimp only
    rw [akin.requests]
    exact abortEach _ h

/-- The requests to an entity are aborted in akin states in the same way. -/
theorem entityDisconnected (h : s.Akin t) (entity : EntityId) :
    Logged.Agree (AkinWith Eq) (s.entityDisconnected entity) (t.entityDisconnected entity) := by
  unfold Scheduler.entityDisconnected
  rw [h.requests]
  split
  · exact .pure ⟨rfl, h⟩
  · exact abortEach _ h

/-- An entity responds in akin states in the same way. -/
theorem respondToEntity (h : s.Akin t) (entity : EntityId) (kind : RequestKind)
    (hint : Option RequestId) (response : Val) :
    Logged.Agree (AkinWith Eq) (s.respondToEntity entity kind hint response)
      (t.respondToEntity entity kind hint response) := by
  unfold Scheduler.respondToEntity findRequest?
  rw [h.requests]
  split
  · exact .pure ⟨rfl, h⟩
  · refine .bind (h.respond _ _) ?_
    rintro ⟨answered, s⟩ ⟨_, t⟩ ⟨rfl, h⟩
    exact .pure ⟨rfl, h⟩

/-- A script makes a request in akin states in the same way. -/
theorem register (h : s.Akin t) (pid : Pid) (entity : EntityId) (kind : RequestKind) (wake : Nat)
    (callback : Callback) : Logged.Agree (AkinWith Eq) (s.register pid entity kind wake callback)
      (t.register pid entity kind wake callback) := by
  unfold Scheduler.register
  -- akin states differ in places only, which no check of a request looks at
  rcases h.lookup pid with ⟨left, right⟩ | ⟨a, b, left, right, akin⟩
  · rw [left, right]
    exact .after _ fun _ => .pure ⟨rfl, h⟩
  · have asleep := (akin.map (Executor.blind_suspend wake)).map Executor.blind_openResultSlot
    have straight : a.options = b.options := akin.view Executor.options
    have engine : a.isEngine = b.isEngine := akin.view Executor.isEngine
    have blocked : a.isBlocked = b.isBlocked := akin.view Executor.isBlocked
    rw [left, right]
    dsimp only
    rw [straight, engine, blocked, show s.nextRequestId = t.nextRequestId from h.view nextRequestId]
    split
    · exact .pure ⟨rfl, h⟩
    · split
      · exact .after _ fun _ => .pure ⟨rfl, h⟩
      · refine .after _ fun _ => ?_
        generalize (a.suspend wake).openResultSlot = x, (b.suspend wake).openResultSlot = y
          at asleep
        rw [asleep.requests]
        split
        · exact .pure ⟨rfl, h.issue.store (asleep.map Executor.blind_takeBack)⟩
        · next holder _ =>
          rw [show s.requests.insert? ⟨t.nextRequestId, pid, entity, kind, callback, false⟩ =
            t.requests.insert? ⟨t.nextRequestId, pid, entity, kind, callback, false⟩ from
              congrArg (fun table : RequestTable => table.insert? _) h.requests]
          split
          · exact .pure ⟨rfl, h.issue.store (asleep.takenBack _)⟩
          · next table _ =>
            have asked := (h.issue.withRequests table).store (asleep.withRequests holder)
            exact .pure ⟨rfl, asked.congr (akin_hold ..) (akin_hold ..)⟩

/-! ### Control -/

/-- An event is delivered or refused in akin states in the same way. -/
theorem signalEvent (h : s.Akin t) (pid : Pid) (event : Val) :
    Logged.Agree (AkinWith Eq) (s.signalEvent pid event) (t.signalEvent pid event) := by
  unfold Scheduler.signalEvent
  rcases h.lookup pid with ⟨left, right⟩ | ⟨a, b, left, right, akin⟩
  · rw [left, right]
    exact .pure ⟨rfl, h⟩
  · rw [left, right]
    have delivered := akin.signalEvent event
    have name : a.scriptname = b.scriptname := akin.view Executor.scriptname
    dsimp only
    generalize a.signalEvent event = x, b.signalEvent event = y at delivered
    cases delivered with
    | refused same =>
      dsimp only
      rw [name, same]
      exact .after _ fun _ => .pure ⟨rfl, h⟩
    | @ok x y same =>
      obtain ⟨delivery, a⟩ := x
      obtain ⟨_, b⟩ := y
      obtain ⟨rfl, akin⟩ := same
      cases delivery with
      | woke => exact .pure ⟨rfl, (h.store akin).congr (akin_schedule ..) (akin_schedule ..)⟩
      | queued => exact .pure ⟨rfl, h.store akin⟩

/-- A script is ended in akin states in the same way. -/
theorem kill (h : s.Akin t) (pid : Pid) :
    Except.Agree Refusal.Akin (Logged.Agree (AkinWith Eq)) (s.kill pid) (t.kill pid) := by
  rcases h.lookup pid with ⟨left, right⟩ | ⟨a, b, left, right, akin⟩
  · unfold Scheduler.kill
    rw [left, right]
    exact .refused ⟨rfl, h⟩
  · rw [kill_of_get? left, kill_of_get? right]
    refine .ok (h.retire ?_ _)
    obtain ⟨halted, timer, list, rfl⟩ := akin.eq_moved
    rfl

/-! ### Launching -/

/-- A script is launched in akin states. -/
theorem enroll (h : s.Akin t) (ex : Executor) :
    Logged.Agree Akin (s.enroll ex) (t.enroll ex) := by
  obtain ⟨aside, scripts⟩ := akin_iff.mp h
  refine ⟨akin_iff.mpr ⟨?_, ?_⟩, rfl⟩
  · exact h.view fun s => { s with nextPid := ⟨s.nextPid.number + 1⟩ }
  · exact List.rel_append scripts (.cons (.refl ex) .nil)

/-- A script is prepared in akin states in the same way. -/
theorem prepare (h : s.Akin t) (program : Program) (options : Options) :
    s.prepare program options = t.prepare program options :=
  h.view fun s => s.prepare program options

/-- A script is launched in akin states in the same way. -/
theorem startScriptWith (h : s.Akin t) (program : Program) (options : Options) :
    Except.Agree Refusal.Akin (Logged.Agree (AkinWith Eq)) (s.startScriptWith program options)
      (t.startScriptWith program options) := by
  unfold Scheduler.startScriptWith
  rw [h.prepare]
  split
  · exact .refused ⟨rfl, h⟩
  · exact .ok (.bind (h.enroll _) fun _ _ akin => .pure ⟨rfl, akin⟩)

/-- A script is launched with the configured options in akin states in the same way. -/
theorem startScript (h : s.Akin t) (program : Program) :
    Except.Agree Refusal.Akin (Logged.Agree (AkinWith Eq)) (s.startScript program) (t.startScript program) := by
  unfold Scheduler.startScript
  rw [h.config]
  exact h.startScriptWith program _

/-- A parent waits for its child in akin states. -/
theorem awaitChild (h : s.Akin t) (parent child : Pid) :
    (s.awaitChild parent child).Akin (t.awaitChild parent child) := by
  have linked : (s.modify child fun ex => { ex with parent := some parent }).Akin
      (t.modify child fun ex => { ex with parent := some parent }) := by
    refine h.modify child fun a b akin => ?_
    obtain ⟨halted, timer, list, rfl⟩ := akin.eq_moved
    rfl
  refine (linked.modify parent fun a b akin => ?_).congr (akin_hold ..) (akin_hold ..)
  refine Executor.Akin.map (f := fun ex => ex.suspend Clock.never) ?_ (Executor.blind_suspend _)
  obtain ⟨halted, timer, list, rfl⟩ := akin.eq_moved
  rfl

/-- A child is launched in akin states in the same way. -/
theorem runScript (h : s.Akin t) (parent : Pid) (program : Program) :
    Except.Agree Refusal.Akin (Logged.Agree (AkinWith Eq)) (s.runScript parent program)
      (t.runScript parent program) := by
  unfold Scheduler.runScript
  rcases h.lookup parent with ⟨left, right⟩ | ⟨a, b, left, right, akin⟩
  · rw [left, right]
    exact .refused ⟨rfl, h⟩
  · rw [left, right]
    dsimp only
    rw [show childRefusal? a = childRefusal? b from akin.view childRefusal?, h.prepare, h.config]
    split
    · exact .refused ⟨rfl, h⟩
    · split
      · exact .refused ⟨rfl, h⟩
      · next child _ =>
        refine .ok (.bind (h.enroll child) fun s t akin => ?_)
        exact .after _ fun _ => .pure ⟨rfl, akin.awaitChild parent child.pid⟩

/-- A program is run to its end in akin states in the same way. -/
theorem runToCompletion (h : s.Akin t) (patience now : Nat) (program : Program) :
    Except.Agree Refusal.Akin (Option.Rel (Logged.Agree (AkinWith Eq))) (s.runToCompletion patience now program)
      (t.runToCompletion patience now program) := by
  unfold Scheduler.runToCompletion
  rw [h.prepare, h.config]
  split
  · exact .refused ⟨rfl, h⟩
  · next ex _ =>
    refine .ok ?_
    dsimp only
    cases ex.runToEnd now t.config.maxRunawayCycles patience with
    | none => exact .none
    | some slice =>
      refine .some (.bind (h.enroll ex) fun s t akin => .after _ fun ran => ?_)
      refine .bind ((akin.store (.refl ran.1)).settle ran.1 ran.2) ?_
      rintro ⟨exit, s⟩ ⟨_, t⟩ ⟨rfl, akin⟩
      exact .pure ⟨rfl, akin⟩

/-- A script is edited in akin states in the same way. -/
theorem edit (h : s.Akin t) (pid : Pid) (edit : Edit) :
    Except.Agree Refusal.Akin Akin (s.edit pid edit) (t.edit pid edit) := by
  unfold Scheduler.edit
  rcases h.lookup pid with ⟨left, right⟩ | ⟨a, b, left, right, akin⟩
  · rw [left, right]
    exact .refused ⟨rfl, h⟩
  · rw [left, right]
    exact .ok (h.store (akin.map (Executor.blind_edit edit)))

end Akin

end Scheduler

/-! ### Operations -/

/-- Whether an operation is about the places of scripts. -/
def Operation.isAboutPlaces : Operation → Bool
  | .runReady _ | .checkBlocked _ _ | .halt _ | .release _ | .shutdown => true
  | _ => false

/-- An answer without the place of a script that is handed back. -/
def Answer.placeless : Answer → Answer
  | .removed ex => .removed (ex.map Executor.placeless)
  | answer => answer

/-- Two outcomes of an operation agree if the records and, but for places, the answers and the
states are the same. -/
def Agrees (x y : Logged (Answer × Scheduler)) : Prop :=
  Logged.Agree (Scheduler.AkinWith fun a b => a.placeless = b.placeless) x y

section Operations

open Scheduler

variable {s t : Scheduler} {α : Type} {R : α → α → Prop} {answer : α → Answer}

/-- Answers that are the same but for places. -/
theorem agrees_answering {x y : Logged (α × Scheduler)} (h : Logged.Agree (AkinWith R) x y)
    (answers : ∀ a b, R a b → (answer a).placeless = (answer b).placeless) :
    Agrees (answering answer x) (answering answer y) := by
  unfold answering
  refine .bind h ?_
  rintro ⟨a, s⟩ ⟨b, t⟩ ⟨same, akin⟩
  exact .pure ⟨answers a b same, akin⟩

/-- An operation that is refused. -/
theorem agrees_refusing {x y : Refusal Scheduler} (h : x.Akin y) :
    Agrees (refusing x) (refusing y) :=
  .pure ⟨congrArg (fun cause => (Answer.refused cause).placeless) h.1, h.2⟩

/-- An operation that may be refused. -/
theorem agrees_attempt {x y : Except (Refusal Scheduler) (Logged (α × Scheduler))}
    (h : Except.Agree Refusal.Akin (Logged.Agree (AkinWith Eq)) x y) :
    Agrees (attempt answer x) (attempt answer y) := by
  cases h with
  | refused h => exact agrees_refusing h
  | ok h => exact agrees_answering h fun _ _ same => same ▸ rfl

end Operations

/-- An operation that is not about places does the same in akin states. -/
theorem Scheduler.Akin.perform {s t : Scheduler} (h : s.Akin t) (patience : Nat) {op : Operation}
    (blind : op.isAboutPlaces = false) :
    Option.Rel Agrees (s.perform patience op) (t.perform patience op) := by
  cases op with
  | start program => exact .some (agrees_attempt (h.startScript program))
  | startWith program options => exact .some (agrees_attempt (h.startScriptWith program options))
  | runScript parent program => exact .some (agrees_attempt (h.runScript parent program))
  | runToCompletion now program =>
    -- both runs are refused, both use up the patience, or both end alike
    have tried := h.runToCompletion patience now program
    unfold Scheduler.perform
    dsimp only
    generalize s.runToCompletion patience now program = x,
      t.runToCompletion patience now program = y at tried
    cases tried with
    | refused h => exact .some (agrees_refusing h)
    | ok ran =>
      cases ran with
      | none => exact .none
      | some ran => exact .some (agrees_answering ran fun _ _ same => same ▸ rfl)
  | runReady | checkBlocked | halt | release | shutdown =>
    exact absurd blind (by simp [Operation.isAboutPlaces])
  | pumpExternal => exact .some (agrees_answering h.pumpExternal fun _ _ same => same ▸ rfl)
  | settleCall id settlement =>
    exact .some (.pure ⟨rfl, h.besides (h.view fun s => s.settleCall id settlement) rfl rfl⟩)
  | signal pid event =>
    exact .some (agrees_answering (h.signalEvent pid event) fun _ _ same => same ▸ rfl)
  | kill pid => exact .some (agrees_attempt (h.kill pid))
  | deschedule pid =>
    exact .some (agrees_answering (h.deschedule pid) fun _ _ same => congrArg Answer.removed same)
  | request pid entity kind callback =>
    exact .some (agrees_answering (h.register ..) fun _ _ same => same ▸ rfl)
  | requestWithTimeout now pid entity kind timeout callback =>
    exact .some (agrees_answering (h.register ..) fun _ _ same => same ▸ rfl)
  | respond id response =>
    exact .some (agrees_answering (h.respond id response) fun _ _ same => same ▸ rfl)
  | respondToEntity entity kind hint response =>
    exact .some (agrees_answering (h.respondToEntity ..) fun _ _ same => same ▸ rfl)
  | abort id => exact .some (agrees_answering (h.abortRequest id) fun _ _ same => same ▸ rfl)
  | abortAll pid => exact .some (agrees_answering (h.abortAll pid) fun _ _ same => same ▸ rfl)
  | entityDisconnected entity =>
    exact .some (agrees_answering (h.entityDisconnected entity) fun _ _ same => same ▸ rfl)
  | edit pid edit =>
    have tried := h.edit pid edit
    unfold Scheduler.perform
    dsimp only
    generalize s.edit pid edit = x, t.edit pid edit = y at tried
    cases tried with
    | refused h => exact .some (agrees_refusing h)
    | ok akin => exact .some (.pure ⟨rfl, akin⟩)
  | takeExits =>
    refine .some (.pure ⟨?_, h.besides (h.view fun s => s.takeExits.2) rfl rfl⟩)
    exact h.view fun s => (Answer.exits s.exits).placeless

end ScriptScheduler
