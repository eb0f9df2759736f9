import ScriptScheduler.Proofs.Links

/-!
# Pending engine calls

A deferred call of the engine is noted twice, in the list of pending calls and on the thread of its
script. Most moves keep both as they are, forget both when a script is removed, or note a new call
in both places (`Engages`); besides, settled calls are taken out and their scripts retired one after
the other (`Deals`). So as long as numbers are new, the scripts with an outstanding call and the
pending calls belong together one to one (`Moment.Bridged`), apart from the calls that have been
taken out.
-/

namespace ScriptScheduler

/-- A script that has been handed to the engine. -/
def Executor.handedOver (ex : Executor) : Executor :=
  ex.mapThread fun t => { t.detached with holdList := .external }

namespace Scheduler

variable {s s₁ s₂ : Scheduler} {pid : Pid} {ex : Executor}

/-- The outstanding engine call of the live script with a given number. -/
def outstanding? (s : Scheduler) (pid : Pid) : Option RequestId :=
  (s.get? pid).bind fun ex => ex.thread.outstanding

/-- A live script has the outstanding call that its thread names. -/
theorem outstanding?_of_get? (found : s.get? pid = some ex) :
    s.outstanding? pid = ex.thread.outstanding := by
  unfold outstanding?
  rw [found]
  rfl

/-- Who is not live has no outstanding call. -/
theorem outstanding?_of_not_live (dead : s.get? pid = none) : s.outstanding? pid = none := by
  unfold outstanding?
  rw [dead]
  rfl

/-- Whoever has an outstanding call is live. -/
theorem live_of_outstanding? {id : RequestId} (call : s.outstanding? pid = some id) :
    ∃ ex, s.get? pid = some ex ∧ ex.thread.outstanding = some id :=
  Option.bind_eq_some_iff.mp call

/-- The pending calls are aside from the scripts. -/
theorem calls_of_aside (same : s₁.aside = s.aside) : s₁.calls = s.calls :=
  show s₁.aside.calls = s.aside.calls by rw [same]

/-- The exit records are aside from the scripts. -/
theorem exits_of_aside (same : s₁.aside = s.aside) : s₁.exits = s.exits :=
  show s₁.aside.exits = s.aside.exits by rw [same]

/-! ### Calls that stay as they are -/

/-- Between the states `s` and `s'` no engine call begins or ends, and no script exits. -/
structure Calm (s s' : Scheduler) : Prop where
  outstanding : ∀ pid, s'.outstanding? pid = s.outstanding? pid
  calls : s'.calls = s.calls
  exits : s'.exits = s.exits

namespace Calm

/-- Nothing happens to the scripts. -/
theorem of_get? (scripts : ∀ pid, s₁.get? pid = s.get? pid) (calls : s₁.calls = s.calls)
    (exits : s₁.exits = s.exits) : Calm s s₁ := by
  refine ⟨?_, calls, exits⟩
  intro pid
  unfold outstanding?
  rw [scripts]

/-- No call begins or ends twice. -/
theorem trans (h₁ : Calm s s₁) (h₂ : Calm s₁ s₂) : Calm s s₂ where
  outstanding pid := (h₂.outstanding pid).trans (h₁.outstanding pid)
  calls := h₂.calls.trans h₁.calls
  exits := h₂.exits.trans h₁.exits

/-- A single script that changes but for its call. -/
theorem of_self {g : Executor → Executor} (self : s₁.get? pid = (s.get? pid).map g)
    (others : ∀ other, other ≠ pid → s₁.get? other = s.get? other)
    (keeps : ∀ ex, s.get? pid = some ex → (g ex).thread.outstanding = ex.thread.outstanding)
    (aside : s₁.aside = s.aside) : Calm s s₁ := by
  refine ⟨?_, calls_of_aside aside, exits_of_aside aside⟩
  intro other
  by_cases same : other = pid
  · subst same
    cases found : s.get? other with
    | none =>
      rw [found] at self
      rw [outstanding?_of_not_live self, outstanding?_of_not_live found]
    | some ex =>
      rw [found] at self
      rw [outstanding?_of_get? self, outstanding?_of_get? found, keeps ex found]
  · unfold outstanding?
    rw [others other same]

/-- A script that changes but for its call. -/
theorem modify {f : Executor → Executor} (keeps : ∀ ex, ex.pid = pid → (f ex).pid = pid)
    (same : ∀ ex, (f ex).thread.outstanding = ex.thread.outstanding) : Calm s (s.modify pid f) :=
  of_self (get?_modify_self keeps) (fun _ ne => get?_modify_of_ne keeps ne) (fun ex _ => same ex)
    rfl

/-- A script that is stored anew with the call that it had. -/
theorem store {new : Executor} (found : s.get? pid = some ex) (number : new.pid = pid)
    (same : new.thread.outstanding = ex.thread.outstanding) : Calm s (s.store new) := by
  refine of_self (g := fun _ => new) ?_ (fun _ ne => get?_store_of_ne (number.symm ▸ ne)) ?_ rfl
  · rw [get?_store found number, found]
    rfl
  · intro old live
    rw [found] at live
    rw [same, Option.some.inj live]

/-! ### Places -/

/-- A script that leaves its place. -/
theorem detach : Calm s (s.detach pid) :=
  of_self (get?_detach_self s pid) (fun _ ne => get?_detach_of_ne s ne) (fun _ _ => rfl)
    aside_detach

/-- A script that is made ready. -/
theorem schedule : Calm s (s.schedule pid) :=
  of_self (get?_schedule_self s pid) (fun _ ne => get?_schedule_of_ne s ne)
    (fun _ _ => Thread.freed_outstanding) aside_schedule

/-- A script that is put to sleep. -/
theorem hold : Calm s (s.hold pid) :=
  of_self (get?_hold_self s pid) (fun _ ne => get?_hold_of_ne s ne)
    (fun _ _ => Thread.held_outstanding) aside_hold

/-- A script that is parked for the debugger. -/
theorem parkDebugger : Calm s (s.parkDebugger pid) :=
  of_self (get?_parkDebugger_self s pid) (fun _ ne => get?_parkDebugger_of_ne s ne)
    (fun _ _ => rfl) rfl

/-- A script that is handed to the engine. -/
theorem parkExternal : Calm s (s.parkExternal pid) :=
  of_self (get?_parkExternal_self s pid) (fun _ ne => get?_parkExternal_of_ne s ne)
    (fun _ _ => rfl) aside_parkExternal

/-! ### Launching -/

/-- A prepared script has no outstanding call. -/
theorem outstanding_of_prepare {program : Program} {options : Options}
    (prepared : s.prepare program options = .ok ex) : ex.thread.outstanding = none := by
  obtain ⟨runtime, thread, bound, rfl⟩ := prepare_eq prepared
  rcases bindRuntime_cases bound with ⟨-, _, -, rfl⟩ | ⟨-, _, -, rfl⟩
  · rfl
  · rfl

/-- A launched script has no outstanding call. -/
theorem enroll {program : Program} {options : Options} (numbers : s.Numbered)
    (prepared : s.prepare program options = .ok ex) : Calm s (s.enroll ex).value := by
  have new : s.get? ex.pid = none := get?_of_prepare numbers prepared
  refine ⟨?_, rfl, rfl⟩
  intro other
  by_cases same : other = ex.pid
  · rw [same, outstanding?_of_get? (get?_enroll_self new), outstanding?_of_not_live new]
    exact outstanding_of_prepare prepared
  · unfold outstanding?
    rw [get?_enroll_of_ne same]

/-- A parent that waits for its child. -/
theorem awaitChild {parent child : Pid} : Calm s (s.awaitChild parent child) := by
  have suspended : ∀ (ex : Executor) wake, (ex.suspend wake).pid = ex.pid ∧
      (ex.suspend wake).thread.outstanding = ex.thread.outstanding :=
    fun ex wake => ⟨(ex.carries_suspend wake).pid, (ex.carries_suspend wake).outstanding⟩
  have linked : Calm s (s.modify child fun ex => { ex with parent := some parent }) :=
    modify (fun _ same => same) fun _ => rfl
  refine (linked.trans (modify ?_ ?_)).trans hold
  · exact fun ex same => (suspended _ _).1.trans same
  · exact fun ex => (suspended _ _).2

/-! ### Links -/

/-- A child whose parent is removed. -/
theorem orphan {child : Option Pid} : Calm s (s.orphan child) := by
  unfold Scheduler.orphan
  split
  · exact of_get? (fun _ => rfl) rfl rfl
  · exact modify (fun _ same => same) fun _ => rfl

/-- A parent whose child is removed. -/
theorem notifyParent : Calm s (s.notifyParent ex) := by
  unfold Scheduler.notifyParent Scheduler.resumeParent
  split
  · exact of_get? (fun _ => rfl) rfl rfl
  · next parent _ =>
    split
    · exact of_get? (fun _ => rfl) rfl rfl
    · next waiting found =>
      split
      · have number : waiting.pid = parent := pid_of_get? found
        have told : Calm s (s.store
            ({ waiting with child := none }.setResultSlot (ex.result.getD .sentinel)).revive) :=
          store found number rfl
        exact told.trans schedule
      · exact of_get? (fun _ => rfl) rfl rfl

/-! ### Requests -/

/-- A script that is answered keeps its call. -/
theorem outstanding_answered (ex : Executor) (value : Val) :
    (ex.answered value).thread.outstanding = ex.thread.outstanding := by
  unfold Executor.answered
  split <;> rfl

/-- A request that is resolved. -/
theorem resolve {request : Request} {value : Option Val} :
    Calm s (s.resolve request value).value := by
  cases found : s.get? request.pid with
  | none =>
    rw [resolve_of_not_live found]
    exact of_get? (fun _ => rfl) rfl rfl
  | some ex =>
    let taken : Scheduler := { s with requests := s.requests.take request }
    let asked : Executor := { ex with requests := ex.requests.remove request.kind request.id }
    have same : Calm s taken := of_get? (fun _ => rfl) rfl rfl
    have live : taken.get? request.pid = some ex := found
    have own : ex.pid = request.pid := pid_of_get? found
    have number : (asked.answered (value.getD .sentinel)).pid = request.pid :=
      (Alters.kin_answered asked _).2.trans own
    have answered : Calm taken (taken.store (asked.answered (value.getD .sentinel))) :=
      store live number (outstanding_answered asked _)
    rw [resolve_eq found]
    exact (same.trans answered).trans schedule

/-- Requests that are aborted. -/
theorem abortEach (ids : List RequestId) :
    ∀ s : Scheduler, Calm s (Scheduler.abortEach ids s).value.2 := by
  induction ids with
  | nil => exact fun s => of_get? (fun _ => rfl) rfl rfl
  | cons id rest ih =>
    intro s
    have first : Calm s (s.abortRequest id).value.2 := by
      unfold Scheduler.abortRequest
      split
      · exact of_get? (fun _ => rfl) rfl rfl
      · exact resolve
    exact first.trans (ih _)

/-- A sleeper that is woken. -/
theorem wake : Calm s (s.wake pid).value := by
  unfold Scheduler.wake
  split
  · exact of_get? (fun _ => rfl) rfl rfl
  · next ex found =>
    have number : ex.pid = pid := pid_of_get? found
    let up := { ex.mapThread Thread.detached with sleepCycles := ex.sleepCycles + 1 }
    have stored : Calm s (s.store up) := store found number rfl
    dsimp only
    split
    · have revived : Calm s (s.store up.revive) := store found number rfl
      exact revived.trans schedule
    · exact (stored.trans (abortEach _ _)).trans schedule

/-- A request that is made. -/
theorem register {entity : EntityId} {kind : RequestKind} {wake : Nat} {callback : Callback} :
    Calm s (s.register pid entity kind wake callback).value.2 := by
  have made := registered s pid entity kind wake callback
  generalize (s.register pid entity kind wake callback).value.1 = id at made
  generalize (s.register pid entity kind wake callback).value.2 = after at made ⊢
  cases made with
  | refused => exact of_get? (fun _ => rfl) rfl rfl
  | @takenBack ex found =>
    have number : ex.pid = pid := pid_of_get? found
    have revived : Calm s (s.store ex.revive) := store found number rfl
    exact { revived with }
  | @asked ex holder table found =>
    let asking : Executor := { (ex.suspend wake).openResultSlot with requests := holder }
    have suspended := ex.carries_suspend wake
    have same : asking.pid = ex.pid ∧ asking.thread.outstanding = ex.thread.outstanding := by
      unfold asking Executor.openResultSlot
      split
      · exact ⟨suspended.pid, suspended.outstanding⟩
      · exact ⟨suspended.pid, suspended.outstanding⟩
    let tabled : Scheduler := { s with issued := s.issued + 1, requests := table }
    have counted : Calm s tabled := of_get? (fun _ => rfl) rfl rfl
    have live : tabled.get? pid = some ex := found
    exact (counted.trans (store live (same.1.trans (pid_of_get? found)) same.2)).trans hold

/-! ### Control -/

/-- An event that is delivered or refused. -/
theorem signalEvent {event : Val} : Calm s (s.signalEvent pid event).value.2 := by
  unfold Scheduler.signalEvent
  split
  · exact of_get? (fun _ => rfl) rfl rfl
  · next ex found =>
    have number : ex.pid = pid := pid_of_get? found
    unfold Executor.signalEvent
    by_cases awaits : ex.awaitsEvent = true
    · rw [if_pos awaits]
      have woken : Calm s (s.store (ex.setResultSlot event).revive) := store found number rfl
      exact woken.trans schedule
    · rw [if_neg awaits]
      cases posted : ex.thread.post event with
      | error cause => exact of_get? (fun _ => rfl) rfl rfl
      | ok thread =>
        refine store found number ?_
        obtain ⟨capacity, events, inbox, rfl⟩ := Thread.post_ok posted
        simp [Thread.outstanding, inbox]

/-- A script that is halted. -/
theorem halt {s' : Scheduler} (halted : s.halt pid = .ok s') : Calm s s' := by
  have marked : Calm (s.detach pid) ((s.detach pid).modify pid fun ex => { ex with halted := true }) :=
    modify (fun _ same => same) fun _ => rfl
  obtain ⟨-, -, -, rfl⟩ := halt_ok halted
  exact (detach.trans marked).trans parkDebugger

/-- A script that is released. -/
theorem release {s' : Scheduler} (released : s.release pid = .ok s') : Calm s s' := by
  have marked : Calm (s.detach pid) (s.unhalted pid) := modify (fun _ same => same) fun _ => rfl
  obtain ⟨-, ex, -, rfl⟩ := release_ok released
  split
  · exact (detach.trans marked).trans hold
  · exact (detach.trans marked).trans schedule

end Calm

/-! ### Calls that are forgotten -/

/-- A script that is removed leaves no record. -/
theorem exits_remove (s : Scheduler) (ex : Executor) : (s.remove ex).value.2.exits = s.exits := by
  have detached : Calm s (s.detach ex.pid) := .detach
  let left : Scheduler := { (s.detach ex.pid).erase ex.pid with
    requests := dropFromTable ex.requests.ids s.requests }.forgetCalls ex.pid
  have after : Calm left ((left.orphan ex.child).notifyParent ex) := Calm.orphan.trans .notifyParent
  rw [remove_state]
  exact after.exits.trans detached.exits

/-- A script that is retired leaves a record of its exit. -/
theorem exits_retire (s : Scheduler) (ex : Executor) (reason : ExitReason) :
    (s.retire ex reason).value.2.exits = s.exits ++ [exitOf ex reason] := by
  rw [retire_state]
  dsimp only
  rw [exits_remove, Departs.exitOf_remove]

/-- Between the states `s` and `s'` the script `pid` is removed, with its call if it has one. It
exits with a record or is handed back. -/
structure Forgets (pid : Pid) (s s' : Scheduler) : Prop where
  dead : s'.get? pid = none
  outstanding : ∀ other, s'.outstanding? other = if other = pid then none else s.outstanding? other
  calls : s'.calls = s.calls.filter fun call => call.pid ≠ pid
  exits : s'.exits = s.exits ∨
    ∃ exit : ScriptExit, exit.pid = pid ∧ s'.exits = s.exits ++ [exit]

namespace Forgets

/-- Nothing has happened to calls before. -/
theorem of_calm (before : Calm s s₁) (h : Forgets pid s₁ s₂) : Forgets pid s s₂ where
  dead := h.dead
  outstanding other := by rw [h.outstanding, before.outstanding]
  calls := by rw [h.calls, before.calls]
  exits := by
    rw [← before.exits]
    exact h.exits

/-- A script that is removed. -/
theorem remove (s : Scheduler) (ex : Executor) : Forgets ex.pid s (s.remove ex).value.2 := by
  have detached : Calm s (s.detach ex.pid) := .detach
  let left : Scheduler := { (s.detach ex.pid).erase ex.pid with
    requests := dropFromTable ex.requests.ids s.requests }.forgetCalls ex.pid
  have after : Calm left (s.remove ex).value.2 := by
    rw [remove_state]
    exact Calm.orphan.trans .notifyParent
  refine ⟨Evolves.get?_remove_self s ex, ?_, ?_, .inl (exits_remove s ex)⟩
  · intro other
    rw [after.outstanding]
    split
    · next same =>
      refine outstanding?_of_not_live ?_
      rw [same]
      exact get?_erase_self
    · next ne =>
      rw [← detached.outstanding]
      unfold outstanding?
      exact congrArg (fun found => Option.bind found _) (get?_erase_of_ne ne)
  · rw [after.calls, ← detached.calls]
    rfl

/-- A script that is retired. -/
theorem retire (s : Scheduler) (ex : Executor) (reason : ExitReason) :
    Forgets ex.pid s (s.retire ex reason).value.2 := by
  have exits := exits_retire s ex reason
  rw [retire_state] at exits ⊢
  exact { remove s ex with exits := .inr ⟨exitOf ex reason, rfl, exits⟩ }

/-- An engine script whose call is done. -/
theorem completeExternal (found : s.get? pid = some ex) (value : Val) :
    Forgets pid s (s.completeExternal pid value).value.2 := by
  obtain rfl : ex.pid = pid := pid_of_get? found
  let done : Executor := ex.finishEngine value
  let released : Scheduler := { s.store done with external := s.external.erase ex.pid }
  have retired : Forgets ex.pid released
      (released.retire done (if value.isError then .faulted else .finished)).value.2 :=
    retire released done _
  unfold Scheduler.completeExternal
  rw [found]
  refine ⟨retired.dead, ?_, retired.calls, retired.exits⟩
  intro other
  refine (retired.outstanding other).trans ?_
  split
  · rfl
  · next ne =>
    unfold outstanding?
    exact congrArg (fun found => Option.bind found _) (get?_store_of_ne ne)

end Forgets

/-! ### Calls that begin -/

/-- Between the states `s` and `s'` the call `call` is deferred. -/
structure Defers (call : PendingCall) (s s' : Scheduler) : Prop where
  id : call.id = s.nextRequestId
  idle : ∃ ex, s.get? call.pid = some ex ∧ ex.thread.outstanding = none
  outstanding : ∀ pid,
    s'.outstanding? pid = if pid = call.pid then some call.id else s.outstanding? pid
  calls : s'.calls = insertCall call s.calls
  exits : s'.exits = s.exits

/-- Nothing happens to engine calls, the live script `pid` is removed, or its call is deferred. -/
inductive Engages (pid : Pid) (s : Scheduler) : Scheduler → Prop
  | calm {s' : Scheduler} (calm : Calm s s') : Engages pid s s'
  | forgets {s' : Scheduler} {ex : Executor} (found : s.get? pid = some ex)
      (forgets : Forgets pid s s') : Engages pid s s'
  | defers {s' : Scheduler} {call : PendingCall} (own : call.pid = pid)
      (defers : Defers call s s') : Engages pid s s'

/-- A thread that names its call. -/
theorem outstanding_setOutstanding {thread : Thread} {before : Option RequestId}
    (inbox : thread.inbox = .call before) (id : RequestId) :
    (thread.setOutstanding (some id)).outstanding = some id := by
  unfold Thread.setOutstanding Thread.outstanding
  rw [inbox]

/-- A number is handed out for the call of a script that is handed to the engine. -/
theorem nextRequestId_parkExternal : (s.parkExternal pid).nextRequestId = s.nextRequestId := by
  have same : (s.parkExternal pid).aside = s.aside := aside_parkExternal
  have issued : (s.parkExternal pid).issued = s.issued :=
    show (s.parkExternal pid).aside.issued = s.aside.issued by rw [same]
  unfold nextRequestId
  rw [issued]

/-- The state in which a script has been handed to the engine and a number given to its call. -/
def handedOver (s : Scheduler) (pid : Pid) : Scheduler :=
  { s.parkExternal pid with issued := (s.parkExternal pid).issued + 1 }

/-- A script that is handed to the engine calls its function there. -/
theorem runExternal_of_isEngine (found : s.get? pid = some ex) (engine : ex.isEngine = true) :
    ∃ function, ex.function? = some function ∧
      (s.handedOver pid).get? pid = some ex.handedOver ∧ Calm s (s.handedOver pid) ∧
      s.runExternal pid = (s.handedOver pid).invoke ex.handedOver function s.nextRequestId := by
  have parked := get?_parkExternal_self s pid
  rw [found] at parked
  obtain ⟨function, named⟩ := function?_of_isEngine engine
  have parks : Calm s (s.parkExternal pid) := .parkExternal
  have away : Calm s (s.handedOver pid) := { parks with }
  refine ⟨function, named, parked, away, ?_⟩
  rw [runExternal_eq parked named, nextRequestId_parkExternal]
  rfl

/-- A call that is deferred. -/
theorem Defers.defer {before : Option RequestId} {settlement : Option Settlement}
    (calm : Calm s s₁) (found : s.get? ex.pid = some ex) (idle : ex.thread.outstanding = none)
    {last : Executor} (number : last.pid = ex.pid) (live : s₁.get? last.pid = some last)
    (inbox : last.thread.inbox = .call before) :
    Defers ⟨s.nextRequestId, last.pid, last.scriptname, settlement⟩ s
      (s₁.defer last s.nextRequestId settlement) := by
  let deferred : Executor := last.mapThread fun t => t.setOutstanding (some s.nextRequestId)
  have stored : (s₁.store deferred).get? last.pid = some deferred := get?_store live rfl
  refine ⟨rfl, ⟨ex, number.symm ▸ found, idle⟩, ?_, congrArg (insertCall _) calm.calls, calm.exits⟩
  intro other
  dsimp only
  split
  · next self =>
    rw [self]
    exact (outstanding?_of_get? stored).trans (outstanding_setOutstanding inbox _)
  · next ne =>
    rw [← calm.outstanding]
    unfold outstanding?
    have others : (s₁.store deferred).get? other = s₁.get? other := get?_store_of_ne ne
    exact congrArg (fun found => Option.bind found _) others

/-- A script that goes to the engine is done at once, or its call is deferred. -/
theorem Engages.runExternal (found : s.get? pid = some ex) (engine : ex.isEngine = true)
    (coherent : ex.Coherent) (free : ex.thread.holdList = .none) :
    Engages pid s (s.runExternal pid).value.2 := by
  obtain rfl : ex.pid = pid := pid_of_get? found
  obtain ⟨function, -, live, away, eq⟩ := runExternal_of_isEngine found engine
  obtain ⟨before, inbox⟩ := coherent.call engine
  have idle : ex.thread.outstanding = none := coherent.outstanding (by simp [free])
  let clear : Executor := { ex.handedOver with stack := [] }
  have cleared : Calm (s.handedOver ex.pid) ((s.handedOver ex.pid).store clear) :=
    .store live rfl rfl
  have clearLive : ((s.handedOver ex.pid).store clear).get? ex.pid = some clear :=
    get?_store live rfl
  rw [eq]
  rcases invoke_state (s.handedOver ex.pid) ex.handedOver function s.nextRequestId with
    ⟨value, eq⟩ | ⟨value, eq⟩ | ⟨settlement, eq⟩
  · rw [eq]
    exact .forgets found (.of_calm away (.completeExternal live value))
  · rw [eq]
    exact .forgets found (.of_calm (away.trans cleared) (.completeExternal clearLive value))
  · rw [eq]
    have number : clear.pid = ex.pid := rfl
    exact .defers rfl (.defer (away.trans cleared) found idle number clearLive inbox)

/-- A script that has a turn. -/
theorem Engages.turn {ran : Executor} {now : Nat} {limit : Option Nat} {outcome : SliceOutcome}
    (numbers : s.Numbered) (found : s.get? pid = some ex) (coherent : ex.Coherent)
    (free : ex.thread.holdList = .none) (slice : Executor.Slice now limit ex ran outcome) :
    Engages pid s ((s.store ran).settle ran outcome).value.2 := by
  have carried := slice.carries
  have number : ran.pid = pid := carried.pid.trans (pid_of_get? found)
  have stored : Calm s (s.store ran) := .store found number carried.outstanding
  have retired : ∀ (last : Executor) (reason : ExitReason), last.pid = pid →
      Engages pid s ((s.store ran).retire last reason).value.2 := by
    intro last reason same
    exact .forgets found (.of_calm stored (same ▸ .retire (s.store ran) last reason))
  have after := settle_state (s.store ran) ran outcome
  cases outcome with
  | preempted =>
    rw [after]
    exact .calm { stored with }
  | blocked => rw [after]; exact .calm (stored.trans .hold)
  | halted => rw [after]; exact .calm (stored.trans .parkDebugger)
  | finished => rw [after]; exact retired ran _ number
  | faulted cause => obtain ⟨result, reason, eq⟩ := after; rw [eq]; exact retired _ reason number
  | runaway => obtain ⟨result, reason, eq⟩ := after; rw [eq]; exact retired _ reason number
  | external =>
    have engine := slice.isEngine
    obtain ⟨-, rfl⟩ := slice.of_isEngine engine
    rw [after, number, numbers.store_self found]
    exact runExternal found engine coherent free

end Scheduler

open Scheduler

/-! ### What moves do to calls -/

/-- Moves keep scripts coherent. -/
theorem Move.coherent {m m' : Moment} {entries : List Entry} (move : Move m entries m')
    (sound : m.Sound) (h : ∀ pid ex, m.state.get? pid = some ex → ex.Coherent) :
    ∀ pid ex, m'.state.get? pid = some ex → ex.Coherent := by
  intro pid ex live
  obtain ⟨old, was, changes⟩ | ⟨-, launched⟩ := move.evolves sound.numbers
    sound.placed sound.indexed (fun unused : ¬ True => absurd trivial unused) live
  · exact changes.keeps (fun _ _ change coherent => change.coherent coherent) (h pid old was)
  · exact launched.coherent

/-- The ways in which a move deals with engine calls and exit records. -/
inductive Deals : Moment → Moment → Prop
  /-- Nothing happens to engine calls, a script is removed, or a call is deferred. -/
  | engages {s s' : Scheduler} {away away' : List Pid} {settled : List Completion} (pid : Pid)
      (engages : Engages pid s s') : Deals ⟨s, away, settled⟩ ⟨s', away', settled⟩
  /-- The settled calls are taken out. -/
  | collect {s : Scheduler} {away : List Pid} :
      Deals ⟨s, away, []⟩ ⟨{ s with calls := s.calls.filter fun call => call.settlement.isNone },
        away, s.calls.filterMap PendingCall.completion?⟩
  /-- The script of a settled call is retired. -/
  | complete {s s' : Scheduler} {away : List Pid} {done : Completion} {settled : List Completion}
      {ex : Executor} (found : s.get? done.pid = some ex)
      (forgets : Forgets done.pid s s') : Deals ⟨s, away, done :: settled⟩ ⟨s', away, settled⟩
  /-- The script of a settled call is not live any more. -/
  | pass {s : Scheduler} {away : List Pid} {done : Completion} {settled : List Completion}
      (dead : s.get? done.pid = none) : Deals ⟨s, away, done :: settled⟩ ⟨s, away, settled⟩
  /-- A call is settled. -/
  | settleCall {s : Scheduler} {away : List Pid} {settled : List Completion} (id : RequestId)
      (settlement : Settlement) :
      Deals ⟨s, away, settled⟩ ⟨s.settleCall id settlement, away, settled⟩
  /-- The exit records are taken out. -/
  | takeExits {s : Scheduler} {away : List Pid} {settled : List Completion} :
      Deals ⟨s, away, settled⟩ ⟨s.takeExits.2, away, settled⟩

/-- How a move deals with engine calls and exit records. -/
theorem Move.deals {m m' : Moment} {entries : List Entry} (move : Move m entries m')
    (numbers : m.state.Numbered) (coherent : ∀ pid ex, m.state.get? pid = some ex → ex.Coherent) :
    Deals m m' := by
  have still : ∀ s : Scheduler, Calm s s := fun s => .of_get? (fun _ => rfl) rfl rfl
  -- most moves touch neither calls nor records
  have calm : ∀ {s s' : Scheduler} {away away' : List Pid} {settled : List Completion},
      Calm s s' → Deals ⟨s, away, settled⟩ ⟨s', away', settled⟩ :=
    fun {s} _ _ _ _ calm => .engages s.nextPid (.calm calm)
  cases move with
  | tell => exact calm (still _)
  | tellEngine => exact calm (still _)
  | start prepared => exact calm { Calm.enroll numbers prepared with }
  | startChild launched =>
    obtain ⟨waiting, child, found, -, prepared, eq⟩ := runScript_eq launched
    rw [eq]
    exact calm { (Calm.enroll numbers prepared).trans .awaitChild with }
  | startAway prepared => exact calm (.enroll numbers prepared)
  | @takeBatch s => exact calm { still s with }
  | skip => exact calm (still _)
  | turn found free runs =>
    obtain ⟨now, slice⟩ := runs.slice
    exact .engages _ (.turn numbers found (coherent _ _ found) free slice)
  | collect => exact .collect
  | @complete s _ done =>
    cases found : s.get? done.pid with
    | none =>
      rw [completeExternal_of_not_live found]
      exact .pass found
    | some ex => exact .complete found (.completeExternal found done.value)
  | settleCall id settlement => exact .settleCall id settlement
  | signal => exact calm .signalEvent
  | halt halted => exact calm (.halt halted)
  | release released => exact calm (.release released)
  | @retire s _ _ pid ex found result reason =>
    have live : s.get? ex.pid = some ex := pid_of_get? found ▸ found
    exact .engages _ (.forgets live (.retire s { ex with result := some result } reason))
  | @deschedule s _ _ pid =>
    unfold Scheduler.deschedule
    cases found : s.get? pid with
    | none => exact calm (still s)
    | some ex =>
      have live : s.get? ex.pid = some ex := pid_of_get? found ▸ found
      exact .engages _ (.forgets live (.remove s ex))
  | request => exact calm .register
  | resolve => exact calm .resolve
  | @wake s _ _ _ _ pid rest =>
    have taken : Calm s { s with timeouts := rest } := .of_get? (fun _ => rfl) rfl rfl
    exact calm (taken.trans .wake)
  | takeExits => exact .takeExits

/-! ### Scripts that have called the engine -/

namespace Scheduler

/-- The script `pid` has been launched, and it has an outstanding call or is not live any more. -/
def Spent (s : Scheduler) (pid : Pid) : Prop :=
  pid.number < s.nextPid.number ∧ (s.outstanding? pid = none → s.get? pid = none)

/-- A script with an outstanding call has been launched. -/
theorem spent_of_outstanding? {s : Scheduler} {pid : Pid} {id : RequestId} (numbers : s.Numbered)
    (call : s.outstanding? pid = some id) : s.Spent pid := by
  obtain ⟨ex, found, -⟩ := live_of_outstanding? call
  exact ⟨numbers.lt_nextPid found, fun idle => absurd (call.symm.trans idle) (by simp)⟩

namespace Spent

variable {s s' : Scheduler} {pid other : Pid}

/-- A script that has called the engine when no call begins or ends. -/
theorem calm (h : s.Spent pid) (calm : Calm s s')
    (dead : ∀ pid, pid.number < s.nextPid.number → s.get? pid = none → s'.get? pid = none)
    (counts : Counts s s') : s'.Spent pid := by
  refine ⟨Nat.lt_of_lt_of_le h.1 counts.nextPid, ?_⟩
  intro idle
  rw [calm.outstanding] at idle
  exact dead pid h.1 (h.2 idle)

/-- A script that has called the engine when a script is removed. -/
theorem forgets (h : s.Spent pid) (forgets : Forgets other s s')
    (dead : ∀ pid, pid.number < s.nextPid.number → s.get? pid = none → s'.get? pid = none)
    (counts : Counts s s') : s'.Spent pid := by
  refine ⟨Nat.lt_of_lt_of_le h.1 counts.nextPid, ?_⟩
  intro idle
  rw [forgets.outstanding] at idle
  split at idle
  · next same => rw [same]; exact forgets.dead
  · exact dead pid h.1 (h.2 idle)

/-- A script that has called the engine when a call is deferred. -/
theorem defers {call : PendingCall} (h : s.Spent pid) (defers : Defers call s s')
    (dead : ∀ pid, pid.number < s.nextPid.number → s.get? pid = none → s'.get? pid = none)
    (counts : Counts s s') : s'.Spent pid := by
  refine ⟨Nat.lt_of_lt_of_le h.1 counts.nextPid, ?_⟩
  intro idle
  rw [defers.outstanding] at idle
  split at idle
  · exact absurd idle (by simp)
  · exact dead pid h.1 (h.2 idle)

end Spent

end Scheduler

/-! ### Numbers of calls -/

/-- A call with a new number is the last one. -/
theorem insertCall_of_lt {call : PendingCall} {calls : List PendingCall}
    (less : ∀ other ∈ calls, other.id.number < call.id.number) :
    insertCall call calls = calls ++ [call] := by
  induction calls with
  | nil => rfl
  | cons first rest ih =>
    have before := less first List.mem_cons_self
    have others := ih fun other mem => less other (List.mem_cons_of_mem _ mem)
    unfold insertCall
    have ne : call.id ≠ first.id := by
      intro same
      rw [same] at before
      exact Nat.lt_irrefl _ before
    rw [if_neg (Nat.lt_asymm before), if_neg ne, others]
    rfl

/-- A call that is deferred has a later number than all pending calls, as long as numbers are new. -/
theorem Scheduler.Defers.later {s s' : Scheduler} {call : PendingCall} (h : Defers call s s')
    (fresh : Fresh s) (unwrapped : s.Unwrapped) :
    ∀ other ∈ s.calls, other.id.number < call.id.number := by
  intro other mem
  rw [h.id, unwrapped.number_nextRequestId]
  exact Nat.lt_succ_of_le (fresh.calls other mem)

/-- A call that is deferred is the last one, as long as numbers are new. -/
theorem Scheduler.Defers.append {s s' : Scheduler} {call : PendingCall} (h : Defers call s s')
    (fresh : Fresh s) (unwrapped : s.Unwrapped) : s'.calls = s.calls ++ [call] :=
  h.calls.trans (insertCall_of_lt (h.later fresh unwrapped))

/-! ### Calls and scripts -/

/-- The pending calls and the scripts with an outstanding call belong together, apart from the
calls that have been found settled: these belong to other scripts, whose calls are outstanding as
long as they are live. -/
structure Moment.Bridged (m : Moment) : Prop where
  owners : ∀ call ∈ m.state.calls, m.state.outstanding? call.pid = some call.id
  covered : ∀ pid id, m.state.outstanding? pid = some id →
    pid ∈ m.state.calls.map PendingCall.pid ∨ pid ∈ m.settled.map Completion.pid
  once : (m.state.calls.map PendingCall.pid ++ m.settled.map Completion.pid).Nodup
  settled : ∀ done ∈ m.settled, m.state.Spent done.pid
  increasing : m.state.calls.Pairwise fun a b => a.id.number < b.id.number

namespace Moment.Bridged

variable {s s' : Scheduler} {away away' : List Pid} {settled : List Completion}

/-- A scheduler without scripts has no calls. -/
theorem empty (config : SchedulerConfig) (engine : Option Engine) :
    Bridged ⟨.empty config engine, [], []⟩ := by
  constructor <;> simp [Scheduler.empty, outstanding?, get?]

/-- Calls and scripts belong together while no call begins or ends. -/
theorem calm (h : Bridged ⟨s, away, settled⟩) (calm : Calm s s')
    (dead : ∀ pid, pid.number < s.nextPid.number → s.get? pid = none → s'.get? pid = none)
    (counts : Counts s s') : Bridged ⟨s', away', settled⟩ where
  owners call mem := by
    rw [calm.outstanding]
    exact h.owners call (calm.calls ▸ mem)
  covered pid id call := by
    rw [calm.outstanding] at call
    rw [calm.calls]
    exact h.covered pid id call
  once := by
    rw [calm.calls]
    exact h.once
  settled done mem := (h.settled done mem).calm calm dead counts
  increasing := by
    rw [calm.calls]
    exact h.increasing

/-- Calls and scripts belong together when a script is removed with its call. -/
theorem forgets {pid : Pid} (h : Bridged ⟨s, away, settled⟩) (forgets : Forgets pid s s')
    (dead : ∀ pid, pid.number < s.nextPid.number → s.get? pid = none → s'.get? pid = none)
    (counts : Counts s s') : Bridged ⟨s', away', settled⟩ where
  owners call mem := by
    rw [forgets.calls] at mem
    obtain ⟨old, ne⟩ := List.mem_filter.mp mem
    rw [forgets.outstanding, if_neg (of_decide_eq_true ne)]
    exact h.owners call old
  covered other id call := by
    rw [forgets.outstanding] at call
    split at call
    · exact absurd call (by simp)
    · next ne =>
      refine (h.covered other id call).imp_left ?_
      intro mem
      obtain ⟨old, pending, rfl⟩ := List.mem_map.mp mem
      rw [forgets.calls]
      exact List.mem_map_of_mem (List.mem_filter.mpr ⟨pending, decide_eq_true ne⟩)
  once := by
    have fewer : s'.calls.Sublist s.calls := forgets.calls ▸ List.filter_sublist
    exact h.once.sublist ((fewer.map _).append (List.Sublist.refl _))
  settled done mem := (h.settled done mem).forgets forgets dead counts
  increasing := by
    rw [forgets.calls]
    exact h.increasing.sublist List.filter_sublist

/-- Calls and scripts belong together when a call with a new number begins. -/
theorem defers {call : PendingCall} (h : Bridged ⟨s, away, settled⟩) (defers : Defers call s s')
    (dead : ∀ pid, pid.number < s.nextPid.number → s.get? pid = none → s'.get? pid = none)
    (counts : Counts s s') (fresh : Fresh s) (unwrapped : s.Unwrapped) :
    Bridged ⟨s', away', settled⟩ := by
  obtain ⟨ex, found, idle⟩ := defers.idle
  -- the script had no call before, so it is none of those that the lists are about
  have none : s.outstanding? call.pid = none := (outstanding?_of_get? found).trans idle
  have less := defers.later fresh unwrapped
  have calls := defers.append fresh unwrapped
  have others : ∀ other ∈ s.calls, other.pid ≠ call.pid := by
    intro other mem same
    have own := h.owners other mem
    rw [same] at own
    exact absurd (own.symm.trans none) (by simp)
  have unsettled : ∀ done ∈ settled, done.pid ≠ call.pid := by
    intro done mem same
    have gone := (h.settled done mem).2
    rw [same] at gone
    rw [gone none] at found
    exact absurd found (by simp)
  constructor
  case owners =>
    intro other mem
    dsimp only
    rw [calls] at mem
    rw [defers.outstanding]
    rcases List.mem_append.mp mem with old | new
    · rw [if_neg (others other old)]
      exact h.owners other old
    · rw [List.mem_singleton.mp new, if_pos rfl]
  case covered =>
    intro pid id outstanding
    dsimp only at outstanding ⊢
    rw [calls, List.map_append]
    rw [defers.outstanding] at outstanding
    split at outstanding
    · next same => exact .inl (List.mem_append_right _ (by simp [same]))
    · exact (h.covered pid id outstanding).imp_left (List.mem_append_left _)
  case once =>
    have perm : ((s.calls ++ [call]).map PendingCall.pid ++ settled.map Completion.pid).Perm
        (call.pid :: (s.calls.map PendingCall.pid ++ settled.map Completion.pid)) := by
      rw [List.map_append, List.append_assoc]
      exact List.perm_middle
    dsimp only
    rw [calls, perm.nodup_iff]
    refine List.nodup_cons.mpr ⟨?_, h.once⟩
    intro mem
    rcases List.mem_append.mp mem with mem | mem
    · obtain ⟨other, old, same⟩ := List.mem_map.mp mem
      exact others other old same
    · obtain ⟨done, old, same⟩ := List.mem_map.mp mem
      exact unsettled done old same
  case settled => exact fun done mem => (h.settled done mem).defers defers dead counts
  case increasing =>
    dsimp only
    rw [calls]
    refine List.pairwise_append.mpr ⟨h.increasing, List.pairwise_singleton _ _, ?_⟩
    intro other old new mem
    rw [List.mem_singleton.mp mem]
    exact less other old

/-- Calls and scripts belong together however a move deals with calls. -/
theorem engages {pid : Pid} (h : Bridged ⟨s, away, settled⟩) (engages : Engages pid s s')
    (dead : ∀ pid, pid.number < s.nextPid.number → s.get? pid = none → s'.get? pid = none)
    (counts : Counts s s') (fresh : Fresh s) (unwrapped : s.Unwrapped) :
    Bridged ⟨s', away', settled⟩ := by
  rcases engages with calm | ⟨-, forgets⟩ | ⟨-, defers⟩
  · exact h.calm calm dead counts
  · exact h.forgets forgets dead counts
  · exact h.defers defers dead counts fresh unwrapped

/-- A settled call whose script has no outstanding call any more is done with. -/
theorem drop {done : Completion} (h : Bridged ⟨s, away, done :: settled⟩)
    (idle : s.outstanding? done.pid = none) : Bridged ⟨s, away, settled⟩ where
  owners := h.owners
  covered pid id call := by
    refine (h.covered pid id call).imp_right ?_
    intro mem
    refine (List.mem_cons.mp mem).resolve_left ?_
    rintro rfl
    exact absurd (call.symm.trans idle) (by simp)
  once := by
    have fewer : (settled.map Completion.pid).Sublist ((done :: settled).map Completion.pid) :=
      List.sublist_cons_self _ _
    exact h.once.sublist ((List.Sublist.refl _).append fewer)
  settled other mem := h.settled other (List.mem_cons_of_mem _ mem)
  increasing := h.increasing

/-- The scripts of the calls that have been settled. -/
theorem pids_completions (calls : List PendingCall) :
    (calls.filterMap PendingCall.completion?).map Completion.pid =
      (calls.filter fun call => !call.settlement.isNone).map PendingCall.pid := by
  induction calls with
  | nil => rfl
  | cons call rest ih =>
    cases settlement : call.settlement with
    | none => simpa [PendingCall.completion?, settlement] using ih
    | some _ => simpa [PendingCall.completion?, settlement] using ih

/-- Calls and scripts belong together when the settled calls are taken out. -/
theorem collect (h : Bridged ⟨s, away, []⟩) (numbers : s.Numbered) :
    Bridged ⟨{ s with calls := s.calls.filter fun call => call.settlement.isNone }, away,
      s.calls.filterMap PendingCall.completion?⟩ where
  owners call mem := h.owners call (List.mem_filter.mp mem).1
  covered pid id outstanding := by
    have pending := (h.covered pid id outstanding).resolve_right List.not_mem_nil
    obtain ⟨call, mem, rfl⟩ := List.mem_map.mp pending
    dsimp only
    rw [pids_completions]
    by_cases unsettled : call.settlement.isNone = true
    · exact .inl (List.mem_map_of_mem (List.mem_filter.mpr ⟨mem, unsettled⟩))
    · have settled : (!call.settlement.isNone) = true := by rw [Bool.eq_false_iff.mpr unsettled]; rfl
      exact .inr (List.mem_map_of_mem (List.mem_filter.mpr ⟨mem, settled⟩))
  once := by
    have once : (s.calls.map PendingCall.pid).Nodup := by simpa using h.once
    dsimp only
    rw [pids_completions, ← List.map_append]
    exact ((List.filter_append_perm (fun call : PendingCall => call.settlement.isNone)
      s.calls).map _).nodup_iff.mpr once
  settled done mem := by
    obtain ⟨call, pending, completed⟩ := List.mem_filterMap.mp mem
    obtain ⟨settlement, -, rfl⟩ := Option.map_eq_some_iff.mp completed
    have own : s.outstanding? call.pid = some call.id := h.owners call pending
    have spent : s.Spent call.pid := spent_of_outstanding? numbers own
    exact spent
  increasing := h.increasing.sublist List.filter_sublist

/-- Calls and scripts belong together when a call is settled. -/
theorem settleCall (h : Bridged ⟨s, away, settled⟩) (id : RequestId) (settlement : Settlement) :
    Bridged ⟨s.settleCall id settlement, away, settled⟩ := by
  have kept : ∀ call ∈ (s.settleCall id settlement).calls,
      ∃ old ∈ s.calls, old.pid = call.pid ∧ old.id = call.id := by
    intro call mem
    obtain ⟨old, pending, rfl⟩ := List.mem_map.mp mem
    exact ⟨old, pending, by split <;> exact ⟨rfl, rfl⟩⟩
  have pids : (s.settleCall id settlement).calls.map PendingCall.pid =
      s.calls.map PendingCall.pid := by
    refine (List.map_map).trans (List.map_congr_left ?_)
    intro call _
    dsimp only [Function.comp]
    split <;> rfl
  constructor
  case owners =>
    intro call mem
    obtain ⟨old, pending, pid, id⟩ := kept call mem
    exact pid ▸ id ▸ h.owners old pending
  case covered =>
    intro pid id outstanding
    dsimp only
    rw [pids]
    exact h.covered pid id outstanding
  case once =>
    dsimp only
    rw [pids]
    exact h.once
  case settled => exact h.settled
  case increasing =>
    refine List.pairwise_map.mpr (h.increasing.imp ?_)
    intro a b less
    split <;> split <;> exact less

end Moment.Bridged

/-- Moves keep calls and scripts together, as long as numbers are new. -/
theorem Move.bridged {m m' : Moment} {entries : List Entry} (move : Move m entries m')
    (sound : m.Sound) (coherent : ∀ pid ex, m.state.get? pid = some ex → ex.Coherent)
    (unwrapped : m.state.Unwrapped) (h : m.Bridged) : m'.Bridged := by
  have fresh := sound.fresh unwrapped
  have counts := move.counts
  have dead : ∀ pid, pid.number < m.state.nextPid.number → m.state.get? pid = none →
      m'.state.get? pid = none := fun _ => move.gone sound
  cases move.deals sound.numbers coherent with
  | engages _ engages => exact h.engages engages dead counts fresh unwrapped
  | collect => exact h.collect sound.numbers
  | complete _ forgets =>
    exact (h.forgets forgets dead counts).drop (outstanding?_of_not_live forgets.dead)
  | pass gone => exact h.drop (outstanding?_of_not_live gone)
  | settleCall id settlement => exact h.settleCall id settlement
  | takeExits => exact { h with }

/-- An edit keeps the call of a script. -/
theorem Edit.outstanding_apply (edit : Edit) (ex : Executor) :
    (edit.apply ex).thread.outstanding = ex.thread.outstanding := by
  cases edit with
  | setEventQueueSize size =>
    change (ex.thread.setCapacity size).outstanding = _
    unfold Thread.setCapacity
    split
    · next inbox => simp [Thread.outstanding, inbox]
    · rfl
  | push => rfl
  | setCritical => rfl
  | setPriority => rfl
  | setWarnOnRunaway => rfl

/-- In every reachable state the pending calls and the scripts with an outstanding call belong
together, as long as numbers are new. -/
theorem Reachable.bridged {config : SchedulerConfig} {engine : Option Engine} {s : Scheduler}
    (reached : Reachable config engine s) (unwrapped : s.Unwrapped) :
    Moment.Bridged ⟨s, [], []⟩ := by
  have all := reached.keeps (P := fun m => m.Sound ∧
    (∀ pid ex, m.state.get? pid = some ex → ex.Coherent) ∧ (m.state.Unwrapped → m.Bridged))
    ⟨Reachable.empty.sound, ?_, fun _ => .empty config engine⟩ ?_ ?_
  · exact all.2.2 unwrapped
  · intro pid ex found
    exact absurd found (by simp [Scheduler.empty, get?])
  · rintro m entries m' - move ⟨sound, coherent, bridged⟩
    refine ⟨move.sound sound, move.coherent sound coherent, ?_⟩
    intro unwrapped
    have before : m.state.Unwrapped := Nat.lt_of_le_of_lt move.counts.issued unwrapped
    exact move.bridged sound coherent before (bridged before)
  · rintro s pid edit ex found ⟨sound, coherent, bridged⟩
    have number : (edit.apply ex).pid = pid := (edit.seat_apply ex).2.trans (pid_of_get? found)
    have calm : Calm s (s.store (edit.apply ex)) :=
      .store found number (edit.outstanding_apply ex)
    refine ⟨sound.edit found edit, ?_, ?_⟩
    · intro other ex' live
      obtain ⟨old, was, rfl | rfl⟩ := get?_edit found live
      · exact coherent other ex' was
      · exact (coherent other old was).edit edit
    · intro unwrapped
      exact (bridged unwrapped).calm calm (fun _ _ gone => follows_store.gone gone)
        follows_store.counts

/-! ### Scripts that the engine manages -/

/-- The engine manages the script `pid`, which is in its list: exactly the call `call` is pending for
it and outstanding on its thread, and no other script has a call of that number. -/
structure Scheduler.Manages (s : Scheduler) (pid : Pid) (call : PendingCall) : Prop where
  held : pid ∈ s.external
  mine : s.calls.filter (fun other => other.pid = pid) = [call]
  outstanding : s.outstanding? pid = some call.id
  keyed : s.calls.filter (fun other => other.id = call.id) = [call]
  alone : ∀ other, s.outstanding? other = some call.id → other = pid

/-- Of entries with different keys one has a given key. -/
theorem filter_eq_of_nodup {α β : Type} [DecidableEq β] {key : α → β} {entries : List α}
    (nodup : (entries.map key).Nodup) {entry : α} (mem : entry ∈ entries) :
    entries.filter (fun other => key other = key entry) = [entry] := by
  induction entries with
  | nil => exact absurd mem List.not_mem_nil
  | cons first rest ih =>
    obtain ⟨new, nodup⟩ := List.nodup_cons.mp nodup
    rcases List.mem_cons.mp mem with rfl | mem
    · have others : rest.filter (fun other => key other = key entry) = [] := by
        refine List.filter_eq_nil_iff.mpr ?_
        intro other live same
        exact new (of_decide_eq_true same ▸ List.mem_map_of_mem live)
      rw [List.filter_cons_of_pos (by simp), others]
    · have ne : key first ≠ key entry := fun same => new (same ▸ List.mem_map_of_mem mem)
      rw [List.filter_cons_of_neg (by simpa using ne), ih nodup mem]

/-- While no settled calls are taken out, the script of a pending call is managed by the engine. -/
theorem Moment.Bridged.manages {s : Scheduler} {away : List Pid} {call : PendingCall}
    (h : Bridged ⟨s, away, []⟩) (placed : Placed away s)
    (coherent : ∀ pid ex, s.get? pid = some ex → ex.Coherent) (pending : call ∈ s.calls) :
    s.Manages call.pid call := by
  have pids : (s.calls.map PendingCall.pid).Nodup := by simpa using h.once
  have ids : (s.calls.map PendingCall.id).Nodup := by
    refine List.pairwise_map.mpr (h.increasing.imp ?_)
    intro a b less same
    rw [same] at less
    exact Nat.lt_irrefl _ less
  have keyed := filter_eq_of_nodup ids pending
  have own : s.outstanding? call.pid = some call.id := h.owners call pending
  refine ⟨?_, filter_eq_of_nodup pids pending, own, keyed, ?_⟩
  · obtain ⟨ex, found, outstanding⟩ := live_of_outstanding? own
    refine (placed.external call.pid).mpr ?_
    rw [seat_of_get? found]
    exact (coherent _ ex found).external.mp (by rw [outstanding]; rfl)
  · intro other outstanding
    obtain ⟨theirs, mem, rfl⟩ :=
      List.mem_map.mp ((h.covered other _ outstanding).resolve_right List.not_mem_nil)
    have same : theirs.id = call.id := by
      have own : s.outstanding? theirs.pid = some theirs.id := h.owners theirs mem
      exact Option.some.inj (own.symm.trans outstanding)
    have found : theirs ∈ s.calls.filter fun other => other.id = call.id :=
      List.mem_filter.mpr ⟨mem, decide_eq_true same⟩
    rw [keyed] at found
    rw [List.mem_singleton.mp found]

/-- In every reachable state exactly one call is pending for a script in the list of the engine, as
long as numbers are new. -/
theorem Reachable.manages {config : SchedulerConfig} {engine : Option Engine} {s : Scheduler}
    {pid : Pid} (reached : Reachable config engine s) (unwrapped : s.Unwrapped)
    (held : pid ∈ s.external) : ∃ call, s.Manages pid call := by
  have bridged := reached.bridged unwrapped
  have place : (s.seat pid).list = .external := (reached.placed.external pid).mp held
  cases found : s.get? pid with
  | none =>
    rw [seat_of_not_live found] at place
    exact absurd place (by simp [Seat.free])
  | some ex =>
    rw [seat_of_get? found] at place
    obtain ⟨id, call⟩ := Option.isSome_iff_exists.mp ((reached.coherent found).external.mpr place)
    have outstanding : s.outstanding? pid = some id := (outstanding?_of_get? found).trans call
    obtain ⟨call, pending, rfl⟩ :=
      List.mem_map.mp ((bridged.covered pid id outstanding).resolve_right List.not_mem_nil)
    exact ⟨call, bridged.manages reached.placed (fun _ _ => reached.coherent) pending⟩

end ScriptScheduler
