import ScriptScheduler.Proofs.Coherence

/-!
# Removed scripts and those they leave

A script that is removed leaves its child without a parent and its parent with a result; nothing
else happens to other scripts (`get?_remove`), and the ready queue changes only by the parent that
is put at its end (`ready_remove`). A move removes at most one script: it retires the script after
its last change, or it hands the script back (`Departs`).
-/

namespace ScriptScheduler

namespace Executor

/-- A parent that has got the result of its child and has been made ready. -/
def resumed (ex : Executor) (result : Val) : Executor :=
  (({ ex with child := none }.setResultSlot result).revive).mapThread Thread.freed

/-- A script after the script `gone` has been removed. -/
def bereft (ex gone : Executor) : Executor :=
  let left := if gone.child = some ex.pid then { ex with parent := none } else ex
  if gone.parent = some ex.pid ∧ ex.child = some gone.pid then
    left.resumed (gone.result.getD .sentinel)
  else left

/-- The parent and the child of a script. -/
def kin (ex : Executor) : Option Pid × Option Pid := (ex.parent, ex.child)

/-- A parent whose child is removed has no child any more. -/
theorem child_bereft (ex gone : Executor) : (ex.bereft gone).child =
    if gone.parent = some ex.pid ∧ ex.child = some gone.pid then none else ex.child := by
  unfold bereft
  dsimp only
  split
  · rfl
  · split <;> rfl

/-- A parent whose child is removed finds the child's result on its stack. -/
theorem stack_bereft (ex gone : Executor) : (ex.bereft gone).stack =
    if gone.parent = some ex.pid ∧ ex.child = some gone.pid then
      gone.result.getD .sentinel :: ex.stack.tail
    else ex.stack := by
  unfold bereft
  dsimp only
  split <;> split <;> rfl

/-- A parent whose child is removed is revived. -/
theorem thread_bereft (ex gone : Executor) : (ex.bereft gone).thread =
    if gone.parent = some ex.pid ∧ ex.child = some gone.pid then ex.thread.revive.freed
    else ex.thread := by
  unfold bereft
  dsimp only
  split <;> split <;> rfl

/-- A child whose parent is removed has no parent any more. -/
theorem parent_bereft (ex gone : Executor) : (ex.bereft gone).parent =
    if gone.child = some ex.pid then none else ex.parent := by
  unfold bereft
  dsimp only
  split <;> split <;> rfl

end Executor

namespace Scheduler

variable {s t : Scheduler} {pid : Pid} {ex gone : Executor}

/-! ### The other scripts -/

/-- A child whose parent is removed, and the other scripts. -/
theorem get?_orphan (s : Scheduler) (child : Option Pid) (pid : Pid) :
    (s.orphan child).get? pid =
      (s.get? pid).map fun ex =>
        if child = some ex.pid then { ex with parent := none } else ex := by
  unfold orphan
  cases child with
  | none => simp
  | some child =>
    dsimp only
    rw [get?_modify (f := fun ex => { ex with parent := none }) fun _ same => same]
    split
    · next same =>
      cases found : s.get? child with
      | none => simp [same, found]
      | some ex => simp [same, found, pid_of_get? found]
    · next ne =>
      cases found : s.get? pid with
      | none => rfl
      | some ex => simp [pid_of_get? found, Ne.symm ne]

/-- A parent that gets the result of its child, and the other scripts. -/
theorem get?_resumeParent (s : Scheduler) (parent child : Pid) (result : Val) (pid : Pid) :
    (s.resumeParent parent child result).get? pid =
      (s.get? pid).map fun ex =>
        if parent = ex.pid ∧ ex.child = some child then ex.resumed result else ex := by
  unfold resumeParent
  cases found : s.get? parent with
  | none =>
    cases live : s.get? pid with
    | none => rfl
    | some ex =>
      have ne : parent ≠ ex.pid := by
        rintro rfl
        rw [pid_of_get? live] at found
        exact absurd (found.symm.trans live) (by simp)
      simp [ne]
  | some waiting =>
    have number : waiting.pid = parent := pid_of_get? found
    let told := ({ waiting with child := none }.setResultSlot result).revive
    have same : told.pid = parent := number
    dsimp only
    -- the parent gets the result only if it still waits for this very child
    by_cases link : waiting.child = some child
    · rw [if_pos link]
      change ((s.store told).schedule parent).get? pid = _
      by_cases isParent : pid = parent
      · rw [isParent, get?_schedule_self, get?_store found same, found]
        simp [number, link, Executor.resumed, told]
      · rw [get?_schedule_of_ne _ isParent, get?_store_of_ne (same.symm ▸ isParent)]
        cases live : s.get? pid with
        | none => rfl
        | some ex => simp [pid_of_get? live, Ne.symm isParent]
    · rw [if_neg link]
      cases live : s.get? pid with
      | none => rfl
      | some ex =>
        have other : ¬ (parent = ex.pid ∧ ex.child = some child) := by
          rintro ⟨rfl, linked⟩
          rw [pid_of_get? live, live] at found
          rw [Option.some.inj found] at linked
          exact link linked
        simp [other]

/-- A state in which a removed script has been struck out everywhere and its parent has not been
told yet. -/
def struck (s : Scheduler) (gone : Executor) : Scheduler :=
  ({ (s.detach gone.pid).erase gone.pid with
    requests := dropFromTable gone.requests.ids s.requests }.forgetCalls gone.pid).orphan gone.child

/-- A script is removed by being struck out and its parent being told. -/
theorem remove_struck (s : Scheduler) (gone : Executor) :
    (s.remove gone).value.2 = (s.struck gone).notifyParent gone := remove_state s gone

/-- When a script is struck out its child loses its parent. -/
theorem get?_struck (s : Scheduler) (gone : Executor) {pid : Pid} (ne : pid ≠ gone.pid) :
    (s.struck gone).get? pid = (s.get? pid).map fun ex =>
      if gone.child = some ex.pid then { ex with parent := none } else ex := by
  unfold struck
  rw [get?_orphan]
  refine congrArg _ (Eq.trans ?_ (get?_detach_of_ne s ne))
  exact get?_erase_of_ne ne

/-- Those who are left by a removed script. -/
theorem get?_remove (s : Scheduler) (gone : Executor) {pid : Pid} (ne : pid ≠ gone.pid) :
    (s.remove gone).value.2.get? pid = (s.get? pid).map fun ex => ex.bereft gone := by
  rw [remove_struck]
  unfold notifyParent
  cases parent : gone.parent with
  | none =>
    dsimp only
    rw [get?_struck s gone ne]
    cases s.get? pid with
    | none => rfl
    | some ex => simp [Executor.bereft, parent]
  | some parent' =>
    dsimp only
    rw [get?_resumeParent, get?_struck s gone ne]
    cases s.get? pid with
    | none => rfl
    | some ex =>
      simp only [Option.map_some, Executor.bereft, parent, Option.some.injEq]
      split <;> rfl

/-- Whom a retired script leaves. -/
theorem get?_retire (s : Scheduler) (gone : Executor) (reason : ExitReason) {pid : Pid}
    (ne : pid ≠ gone.pid) :
    (s.retire gone reason).value.2.get? pid = (s.get? pid).map fun ex => ex.bereft gone := by
  rw [retire_state]
  exact get?_remove s gone ne

/-- A live script that is handed back is removed. -/
theorem deschedule_eq (found : s.get? pid = some ex) : s.deschedule pid =
    ⟨(some (s.remove ex).value.1, (s.remove ex).value.2), (s.remove ex).entries⟩ := by
  unfold deschedule
  rw [found]
  exact congrArg (Logged.mk (some (s.remove ex).value.1, (s.remove ex).value.2)) (List.append_nil _)

/-! ### The ready queue -/

/-- Leaving a hold list does not change the ready queue. -/
theorem ready_leaveHoldList (s : Scheduler) (ex : Executor) :
    (s.leaveHoldList ex).ready = s.ready := by
  unfold leaveHoldList
  split <;> try rfl
  split <;> rfl

/-- A live script that is detached leaves the ready queue. -/
theorem ready_detach (found : s.get? pid = some ex) :
    (s.detach pid).ready = s.ready.filter fun other => other ≠ pid := by
  unfold detach
  rw [found]
  change (s.leaveHoldList ex).ready.filter _ = _
  rw [ready_leaveHoldList]

/-- A detached script is not ready, if scripts that are not live are not. -/
theorem not_mem_ready_detach (dead : s.get? pid = none → pid ∉ s.ready) :
    pid ∉ (s.detach pid).ready := by
  cases found : s.get? pid with
  | none =>
    have same : s.detach pid = s := by simp [detach, found]
    rw [same]
    exact dead found
  | some ex =>
    rw [ready_detach found]
    simp

/-- A script that is made ready goes to the end of the ready queue, unless it is fixed where it
is. -/
theorem ready_schedule (found : s.get? pid = some ex) :
    (s.schedule pid).ready =
      if ex.thread.holdList.isFixed then s.ready
      else (s.ready.filter fun other => other ≠ pid) ++ [pid] := by
  unfold schedule isMovable
  rw [found]
  dsimp only
  by_cases fixed : ex.thread.holdList.isFixed = true
  · simp [fixed]
  · have moved : ((s.detach pid).enqueue pid).ready = (s.detach pid).ready ++ [pid] := rfl
    simp [fixed, moved, ready_detach found]

/-- A live script that is put to sleep leaves the ready queue, unless it is fixed where it is. -/
theorem ready_hold (found : s.get? pid = some ex) :
    (s.hold pid).ready =
      if ex.thread.holdList.isFixed then s.ready
      else s.ready.filter fun other => other ≠ pid := by
  unfold hold
  rw [found]
  dsimp only
  by_cases fixed : ex.thread.holdList.isFixed = true
  · rw [if_pos fixed, if_pos fixed]
  · rw [if_neg fixed, if_neg fixed]
    split
    · exact ready_detach found
    · exact ready_detach found

/-- Whether the script `parent` waits for the script `child` and may be moved. -/
def isHeir (s : Scheduler) (parent child : Pid) : Bool :=
  match s.get? parent with
  | some ex => ex.child = some child && !ex.thread.holdList.isFixed
  | none => false

/-- The parent that becomes ready when the script `gone` is removed. -/
def heir? (s : Scheduler) (gone : Executor) : Option Pid :=
  gone.parent.filter fun parent => s.isHeir parent gone.pid

/-- A parent that gets the result of its child goes to the end of the ready queue, unless it is
fixed where it is. -/
theorem ready_resumeParent (s : Scheduler) (parent child : Pid) (result : Val) :
    (s.resumeParent parent child result).ready =
      if s.isHeir parent child then (s.ready.filter fun other => other ≠ parent) ++ [parent]
      else s.ready := by
  unfold resumeParent isHeir
  cases found : s.get? parent with
  | none => rfl
  | some ex =>
    have number : ex.pid = parent := pid_of_get? found
    let told := ({ ex with child := none }.setResultSlot result).revive
    have same : told.pid = parent := number
    dsimp only
    by_cases link : ex.child = some child
    · rw [if_pos link]
      change ((s.store told).schedule parent).ready = _
      rw [ready_schedule (get?_store found same)]
      change (if ex.thread.holdList.isFixed = true then s.ready
        else (s.ready.filter fun other => other ≠ parent) ++ [parent]) = _
      by_cases fixed : ex.thread.holdList.isFixed = true
      · simp [fixed]
      · simp [fixed, link]
    · rw [if_neg link]
      simp [link]

/-- When a script is struck out its parent still waits for it. -/
theorem isHeir_struck (s : Scheduler) (gone : Executor) {parent : Pid} (ne : parent ≠ gone.pid) :
    (s.struck gone).isHeir parent gone.pid = s.isHeir parent gone.pid := by
  unfold isHeir
  rw [get?_struck s gone ne]
  cases s.get? parent with
  | none => rfl
  | some ex =>
    dsimp only [Option.map_some]
    split <;> rfl

/-- What the removal of a live script does to the ready queue. -/
theorem ready_remove (found : s.get? gone.pid = some ex) (apart : gone.parent ≠ some gone.pid) :
    (s.remove gone).value.2.ready =
      match s.heir? gone with
      | some parent =>
        ((s.ready.filter fun other => other ≠ gone.pid).filter fun other => other ≠ parent) ++
          [parent]
      | none => s.ready.filter fun other => other ≠ gone.pid := by
  have ready : (s.struck gone).ready = s.ready.filter fun other => other ≠ gone.pid := by
    rw [← ready_detach found]
    unfold struck orphan
    split <;> rfl
  rw [remove_struck]
  unfold notifyParent heir?
  cases parent : gone.parent with
  | none => exact ready
  | some parent' =>
    have ne : parent' ≠ gone.pid := fun eq => apart (eq ▸ parent)
    dsimp only
    rw [ready_resumeParent, isHeir_struck s gone ne, ready]
    by_cases heir : s.isHeir parent' gone.pid = true
    · simp [Option.filter, heir]
    · simp [Option.filter, heir]

/-! ### Changes of a single script -/

/-- The parent and the child of the live script with a given number. -/
def kin? (s : Scheduler) (pid : Pid) : Option (Option Pid × Option Pid) :=
  (s.get? pid).map Executor.kin

/-- The state `s'` differs from `s` at most in the script `pid` and in its place, and the script
keeps its parent and its child. -/
structure Alters (pid : Pid) (s s' : Scheduler) : Prop where
  others : ∀ other, other ≠ pid → s'.get? other = s.get? other
  kin : s'.kin? pid = s.kin? pid
  ready : (s'.ready.filter fun other => other ≠ pid) = s.ready.filter fun other => other ≠ pid

namespace Alters

variable {s₁ s₂ : Scheduler}

/-- Scripts and queue that stay as they are. -/
theorem of_same (scripts : ∀ other, s₁.get? other = s.get? other) (ready : s₁.ready = s.ready) :
    Alters pid s s₁ where
  others other _ := scripts other
  kin := by unfold kin?; rw [scripts]
  ready := by rw [ready]

/-- A script may be changed twice. -/
theorem trans (h₁ : Alters pid s s₁) (h₂ : Alters pid s₁ s₂) : Alters pid s s₂ where
  others other ne := (h₂.others other ne).trans (h₁.others other ne)
  kin := h₂.kin.trans h₁.kin
  ready := h₂.ready.trans h₁.ready

/-- A change of a script keeps the set of live scripts. -/
theorem isSome_get? (h : Alters pid s s₁) (other : Pid) :
    (s₁.get? other).isSome = (s.get? other).isSome := by
  by_cases same : other = pid
  · have kin := congrArg Option.isSome h.kin
    unfold kin? at kin
    rwa [Option.isSome_map, Option.isSome_map, ← same] at kin
  · rw [h.others other same]

/-- A script that is stored anew. -/
theorem store {new : Executor} (found : s.get? pid = some ex) (number : new.pid = pid)
    (kin : new.kin = ex.kin) : Alters pid s (s.store new) where
  others other ne := get?_store_of_ne (number.symm ▸ ne)
  kin := by
    unfold kin?
    rw [get?_store found number, found]
    exact congrArg some kin
  ready := rfl

/-- A script that is changed. -/
theorem modify {f : Executor → Executor} (keeps : ∀ ex, ex.pid = pid → (f ex).pid = pid)
    (kin : ∀ ex, (f ex).kin = ex.kin) : Alters pid s (s.modify pid f) where
  others other ne := get?_modify_of_ne keeps ne
  kin := by
    unfold kin?
    rw [get?_modify_self keeps, Option.map_map]
    congr 1
    funext ex
    exact kin ex
  ready := rfl

/-- A thread that is changed. -/
theorem mapThread (g : Thread → Thread) :
    Alters pid s (s.modify pid fun ex => ex.mapThread g) :=
  modify (fun _ same => same) fun _ => rfl

/-- A script that leaves its place. -/
theorem detach : Alters pid s (s.detach pid) where
  others other ne := get?_detach_of_ne s ne
  kin := by
    unfold kin?
    rw [get?_detach_self, Option.map_map]
    rfl
  ready := by
    cases found : s.get? pid with
    | none => simp [Scheduler.detach, found]
    | some ex => rw [ready_detach found, List.filter_filter]; simp

/-- A script that is put at the end of the ready queue. -/
theorem enqueue : Alters pid s (s.enqueue pid) where
  others _ _ := rfl
  kin := rfl
  ready := by simp [Scheduler.enqueue]

/-- A script that is made ready. -/
theorem schedule : Alters pid s (s.schedule pid) := by
  unfold Scheduler.schedule
  split
  · exact detach.trans enqueue
  · exact of_same (fun _ => rfl) rfl

/-- A script that is put to sleep. -/
theorem hold : Alters pid s (s.hold pid) := by
  unfold Scheduler.hold
  split
  · exact of_same (fun _ => rfl) rfl
  · split
    · exact of_same (fun _ => rfl) rfl
    · split
      · exact { detach.trans (mapThread _) with }
      · exact { detach.trans (mapThread _) with }

/-- A script that is parked for the debugger. -/
theorem parkDebugger : Alters pid s (s.parkDebugger pid) :=
  { mapThread _ with }

/-- A script that is handed to the engine. -/
theorem parkExternal : Alters pid s (s.parkExternal pid) :=
  { detach.trans (mapThread _) with }

/-! ### Requests -/

/-- A script that is answered keeps its parent and its child. -/
theorem kin_answered (ex : Executor) (value : Val) :
    (ex.answered value).kin = ex.kin ∧ (ex.answered value).pid = ex.pid := by
  unfold Executor.answered
  split <;> exact ⟨rfl, rfl⟩

/-- A script one of whose requests is resolved. -/
theorem resolve {request : Request} (value : Option Val) :
    Alters request.pid s (s.resolve request value).value := by
  cases found : s.get? request.pid with
  | none =>
    rw [resolve_of_not_live found]
    exact of_same (fun _ => rfl) rfl
  | some ex =>
    rw [resolve_eq found]
    have own : ex.pid = request.pid := pid_of_get? found
    let taken : Scheduler := { s with requests := s.requests.take request }
    have live : taken.get? request.pid = some ex := found
    have same : Alters request.pid s taken := of_same (fun _ => rfl) rfl
    obtain ⟨kin, number⟩ := kin_answered
      { ex with requests := ex.requests.remove request.kind request.id } (value.getD .sentinel)
    exact (same.trans (store live (number.trans own) kin)).trans schedule

/-- A script whose requests are aborted. -/
theorem abortEach (ids : List RequestId) :
    ∀ {s : Scheduler}, (∀ r ∈ s.requests.pending, r.id ∈ ids → r.pid = pid) →
      Alters pid s (Scheduler.abortEach ids s).value.2 := by
  induction ids with
  | nil => exact fun _ => of_same (fun _ => rfl) rfl
  | cons id rest ih =>
    intro s owned
    have first : Alters pid s (s.abortRequest id).value.2 ∧
        ∀ r ∈ (s.abortRequest id).value.2.requests.pending, r ∈ s.requests.pending := by
      unfold Scheduler.abortRequest
      split
      · exact ⟨of_same (fun _ => rfl) rfl, fun r mem => mem⟩
      · next request pending =>
        have found := RequestTable.get?_of_unhandled? pending
        obtain ⟨mem, same⟩ := RequestTable.mem_of_get? found
        have own : request.pid = pid := owned request mem (same ▸ List.mem_cons_self)
        exact ⟨own ▸ resolve none, fun r mem => thins_resolve.requests.subset mem⟩
    refine first.1.trans (ih ?_)
    intro r mem asked
    exact owned r (first.2 r mem) (List.mem_cons_of_mem _ asked)

/-- A script that makes a request. -/
theorem register {entity : EntityId} {kind : RequestKind} {wake : Nat} {callback : Callback} :
    Alters pid s (s.register pid entity kind wake callback).value.2 := by
  have made := registered s pid entity kind wake callback
  generalize (s.register pid entity kind wake callback).value.1 = id at made
  generalize (s.register pid entity kind wake callback).value.2 = after at made ⊢
  cases made with
  | refused => exact of_same (fun _ => rfl) rfl
  | @takenBack ex found =>
    have number : ex.pid = pid := pid_of_get? found
    have revived : Alters pid s (s.store ex.revive) := store found number rfl
    exact { revived with }
  | @asked ex holder table found =>
    let asking : Executor := { (ex.suspend wake).openResultSlot with requests := holder }
    have same : asking.pid = ex.pid ∧ asking.kin = ex.kin := by
      unfold asking Executor.openResultSlot Executor.suspend
      split <;> split <;> exact ⟨rfl, rfl⟩
    have counted : Alters pid s { s with issued := s.issued + 1, requests := table } :=
      of_same (fun _ => rfl) rfl
    exact (counted.trans (store found (same.1.trans (pid_of_get? found)) same.2)).trans hold

/-- A sleeper that is woken. -/
theorem wake (indexed : Indexed s) : Alters pid s (s.wake pid).value := by
  unfold Scheduler.wake
  cases found : s.get? pid with
  | none => exact of_same (fun _ => rfl) rfl
  | some ex =>
    have number : ex.pid = pid := pid_of_get? found
    let up := { ex.mapThread Thread.detached with sleepCycles := ex.sleepCycles + 1 }
    have stored : Alters pid s (s.store up) := store found number rfl
    dsimp only
    split
    · have revived : Alters pid s (s.store up.revive) := store found number rfl
      exact revived.trans schedule
    · refine (stored.trans (abortEach _ ?_)).trans schedule
      intro r pending asked
      have holder : ex.requests = .ofRequests (s.ownedBy pid) := by
        rw [← holderOf_of_get? found, indexed.owners]
      have asked : r.id ∈ ex.requests.ids := asked
      rw [holder] at asked
      obtain ⟨other, owned, same⟩ := Holder.mem_ids_ofRequests.mp asked
      obtain ⟨mem, own⟩ := List.mem_filter.mp owned
      rw [Holder.eq_of_id indexed.table.nodup pending mem same.symm]
      exact of_decide_eq_true own

/-! ### Control -/

/-- A script that is sent an event. -/
theorem signalEvent {event : Val} : Alters pid s (s.signalEvent pid event).value.2 := by
  unfold Scheduler.signalEvent
  split
  · exact of_same (fun _ => rfl) rfl
  · next ex found =>
    have number : ex.pid = pid := pid_of_get? found
    unfold Executor.signalEvent
    by_cases awaits : ex.awaitsEvent = true
    · rw [if_pos awaits]
      have woken : Alters pid s (s.store (ex.setResultSlot event).revive) :=
        store found number rfl
      exact woken.trans schedule
    · rw [if_neg awaits]
      cases posted : ex.thread.post event with
      | error cause => exact of_same (fun _ => rfl) rfl
      | ok thread => exact store found number rfl

/-- A script that is halted. -/
theorem halt {s' : Scheduler} (halted : s.halt pid = .ok s') : Alters pid s s' := by
  have marked : Alters pid (s.detach pid)
      ((s.detach pid).modify pid fun ex => { ex with halted := true }) :=
    modify (fun _ same => same) fun _ => rfl
  obtain ⟨-, -, -, rfl⟩ := halt_ok halted
  exact (detach.trans marked).trans parkDebugger

/-- A script that is released. -/
theorem release {s' : Scheduler} (released : s.release pid = .ok s') : Alters pid s s' := by
  have marked : Alters pid (s.detach pid) (s.unhalted pid) :=
    modify (fun _ same => same) fun _ => rfl
  obtain ⟨-, ex, -, rfl⟩ := release_ok released
  split
  · exact (detach.trans marked).trans hold
  · exact (detach.trans marked).trans schedule

end Alters

/-! ### Departures -/

/-- The script `gone` leaves: it is retired after its last change, with a record of its exit, or it
is handed back as it is. -/
inductive Departs (s : Scheduler) (gone : Executor) : Scheduler → Prop
  | retired {t : Scheduler} (alters : Alters gone.pid s t) (kin : s.kin? gone.pid = some gone.kin)
      (exits : t.exits = s.exits) (reason : ExitReason) :
      Departs s gone (t.retire gone reason).value.2
  | handedBack (found : s.get? gone.pid = some gone) : Departs s gone (s.remove gone).value.2

namespace Departs

variable {s' : Scheduler}

/-- A script that leaves is gone. -/
theorem get?_self (h : Departs s gone s') : s'.get? gone.pid = none := by
  cases h with
  | retired => exact Evolves.get?_retire_self _ gone _
  | handedBack => exact Evolves.get?_remove_self s gone

/-- Whom a script leaves. -/
theorem get?_of_ne (h : Departs s gone s') {pid : Pid} (ne : pid ≠ gone.pid) :
    s'.get? pid = (s.get? pid).map fun ex => ex.bereft gone := by
  cases h with
  | retired alters => rw [get?_retire _ gone _ ne, alters.others pid ne]
  | handedBack => exact get?_remove s gone ne

/-- A script that leaves was live. -/
theorem live (h : Departs s gone s') : s.kin? gone.pid = some gone.kin := by
  cases h with
  | retired _ kin => exact kin
  | handedBack found =>
    unfold kin?
    rw [found]
    rfl

/-- Whoever has not left is live as before. -/
theorem isSome_get? (h : Departs s gone s') {pid : Pid} (ne : pid ≠ gone.pid) :
    (s'.get? pid).isSome = (s.get? pid).isSome := by
  rw [h.get?_of_ne ne, Option.isSome_map]

/-- What becomes of the ready queue when a script leaves. -/
theorem ready (h : Departs s gone s') (apart : gone.parent ≠ some gone.pid) :
    s'.ready =
      match s.heir? gone with
      | some parent =>
        ((s.ready.filter fun other => other ≠ gone.pid).filter fun other => other ≠ parent) ++
          [parent]
      | none => s.ready.filter fun other => other ≠ gone.pid := by
  cases h with
  | @retired t alters kin _ reason =>
    have live : t.kin? gone.pid = some gone.kin := alters.kin.trans kin
    unfold kin? at live
    obtain ⟨ex, found, -⟩ := Option.map_eq_some_iff.mp live
    have heir : t.heir? gone = s.heir? gone := by
      unfold heir? isHeir
      cases parent : gone.parent with
      | none => rfl
      | some parent' =>
        have ne : parent' ≠ gone.pid := fun same => apart (same ▸ parent)
        simp only [Option.filter, alters.others parent' ne]
    rw [retire_state]
    change (t.remove gone).value.2.ready = _
    rw [ready_remove found apart, heir, alters.ready]
  | handedBack found => exact ready_remove found apart

/-- A script that is retired after changes of its own. -/
theorem of_retire (last : Executor) (number : last.pid = pid) (alters : Alters pid s t)
    (kin : s.kin? pid = some last.kin) (exits : t.exits = s.exits) (reason : ExitReason) :
    Departs s last (t.retire last reason).value.2 := by
  subst number
  exact .retired alters kin exits reason

/-- A script that is retired from outside leaves with its result. -/
theorem retire (found : s.get? pid = some ex) (result : Val) (reason : ExitReason) :
    Departs s { ex with result := some result }
      (s.retire { ex with result := some result } reason).value.2 := by
  have kin : s.kin? pid = some ex.kin := by
    unfold kin?
    rw [found]
    rfl
  have number : ex.pid = pid := pid_of_get? found
  exact of_retire { ex with result := some result } number (.of_same (fun _ => rfl) rfl) kin rfl
    reason

/-- An engine script whose call is done leaves. -/
theorem completeExternal {s₁ : Scheduler} (alters : Alters pid s s₁) (exits : s₁.exits = s.exits)
    (found : s₁.get? pid = some ex) (value : Val) :
    Departs s (ex.finishEngine value) (s₁.completeExternal pid value).value.2 := by
  obtain rfl : ex.pid = pid := pid_of_get? found
  have stored : Alters ex.pid s₁ (s₁.store (ex.finishEngine value)) := .store found rfl rfl
  have kin : s.kin? ex.pid = some ex.kin := by
    rw [← alters.kin]
    unfold kin?
    rw [found]
    rfl
  let done : Scheduler :=
    { s₁.store (ex.finishEngine value) with external := s₁.external.erase ex.pid }
  have altered : Alters ex.pid s done := { alters.trans stored with }
  unfold Scheduler.completeExternal
  rw [found]
  exact of_retire (ex.finishEngine value) rfl altered kin exits _

/-- A script that calls the engine leaves if the call is done, and no other script is changed if
its call is deferred. -/
theorem invoke {s₁ : Scheduler} {function : FunctionRef} {id : RequestId}
    (alters : Alters ex.pid s s₁) (exits : s₁.exits = s.exits)
    (found : s₁.get? ex.pid = some ex) :
    Alters ex.pid s (s₁.invoke ex function id).value.2 ∨
      ∃ gone, gone.pid = ex.pid ∧ Departs s gone (s₁.invoke ex function id).value.2 := by
  let clear : Executor := { ex with stack := [] }
  have cleared : Alters ex.pid s (s₁.store clear) := alters.trans (.store found rfl rfl)
  have live : (s₁.store clear).get? ex.pid = some clear := get?_store found rfl
  rcases invoke_state s₁ ex function id with ⟨value, eq⟩ | ⟨value, eq⟩ | ⟨settlement, eq⟩
  · rw [eq]
    exact .inr ⟨ex.finishEngine value, rfl, completeExternal alters exits found value⟩
  · rw [eq]
    exact .inr ⟨clear.finishEngine value, rfl, completeExternal cleared exits live value⟩
  · rw [eq]
    have deferred : Alters ex.pid s ((s₁.store clear).store
        (clear.mapThread fun t => t.setOutstanding (some id))) :=
      cleared.trans (.store live rfl rfl)
    exact .inl { deferred with }

/-- A script that has a turn leaves if the turn is its last one, and no other script is changed
else. -/
theorem turn {ran : Executor} {now : Nat} {limit : Option Nat} {outcome : SliceOutcome}
    (found : s.get? pid = some ex) (slice : Executor.Slice now limit ex ran outcome) :
    Alters pid s ((s.store ran).settle ran outcome).value.2 ∨
      ∃ gone, gone.pid = pid ∧ Departs s gone ((s.store ran).settle ran outcome).value.2 := by
  have carried := slice.carries
  have number : ran.pid = pid := carried.pid.trans (pid_of_get? found)
  have kin : ran.kin = ex.kin := Prod.ext carried.parent carried.child
  have stored : Alters pid s (s.store ran) := .store found number kin
  have known : s.kin? pid = some ran.kin := by
    unfold kin?
    rw [found, kin]
    rfl
  subst number
  have after := settle_state (s.store ran) ran outcome
  cases outcome with
  | preempted => rw [after]; exact .inl (stored.trans .enqueue)
  | blocked => rw [after]; exact .inl (stored.trans .hold)
  | halted => rw [after]; exact .inl (stored.trans .parkDebugger)
  | finished => rw [after]; exact .inr ⟨ran, rfl, of_retire ran rfl stored known rfl _⟩
  | faulted cause =>
    obtain ⟨result, reason, eq⟩ := after
    rw [eq]
    let last : Executor := { ran with result := some result }
    exact .inr ⟨last, rfl, of_retire last rfl stored known rfl reason⟩
  | runaway =>
    obtain ⟨result, reason, eq⟩ := after
    rw [eq]
    let last : Executor := { ran with result := some result }
    exact .inr ⟨last, rfl, of_retire last rfl stored known rfl reason⟩
  -- the script is with the engine when the call is made; it leaves if the reply comes at once
  | external =>
    have parked := get?_parkExternal_self (s.store ran) ran.pid
    rw [get?_store found rfl] at parked
    obtain ⟨function, named⟩ := function?_of_isEngine
      (carried.isEngine.trans slice.isEngine)
    rw [after, runExternal_eq parked named]
    have alters : Alters ran.pid s ((s.store ran).parkExternal ran.pid) :=
      stored.trans .parkExternal
    have exits : ((s.store ran).parkExternal ran.pid).exits = s.exits := by
      change ((s.store ran).parkExternal ran.pid).aside.exits = _
      rw [aside_parkExternal]
      rfl
    let counted : Scheduler := { (s.store ran).parkExternal ran.pid with
      issued := ((s.store ran).parkExternal ran.pid).issued + 1 }
    let handed : Executor := ran.mapThread fun t => { t.detached with holdList := .external }
    have altered : Alters handed.pid s counted := { alters with }
    have live : counted.get? handed.pid = some handed := parked
    exact invoke altered exits live

/-- The exit record of a removed script is that of the script as it was. -/
theorem exitOf_remove (s : Scheduler) (ex : Executor) (reason : ExitReason) :
    exitOf (s.remove ex).value.1 reason = exitOf ex reason := by
  obtain ⟨thread, stack, eq⟩ := dropRequests_value ((s.detach ex.pid).erase ex.pid).engine
    ex.requests.ids ((s.detach ex.pid).erase ex.pid).requests
    { ex.mapThread Thread.detached with requests := .empty }
  unfold remove
  simp only [Logged.bind_value, Logged.pure_value, eq]
  rfl

/-- A script that leaves is told of by the last exit record, or it is handed back. -/
theorem exits (h : Departs s gone s') :
    (∃ reason, s'.exits = s.exits ++ [exitOf gone reason]) ∨
      s'.exits = s.exits ∧ s.get? gone.pid = some gone := by
  have kept : ∀ t : Scheduler, (t.remove gone).value.2.exits = t.exits := by
    intro t
    have aside : (t.remove gone).value.2.aside.exits =
        ({ (t.detach gone.pid).erase gone.pid with
          requests := dropFromTable gone.requests.ids t.requests }.forgetCalls
            gone.pid).aside.exits := by
      rw [remove_state, aside_notifyParent, aside_orphan]
    have detached : (t.detach gone.pid).aside.exits = t.aside.exits := by rw [aside_detach]
    exact aside.trans detached
  cases h with
  | @retired t _ _ exits reason =>
    refine .inl ⟨reason, ?_⟩
    rw [retire_state]
    change (t.remove gone).value.2.exits ++ [exitOf (t.remove gone).value.1 reason] = _
    rw [kept, exits, exitOf_remove]
  | handedBack found => exact .inr ⟨kept s, found⟩

end Departs

end Scheduler

end ScriptScheduler
