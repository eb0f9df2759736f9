import ScriptScheduler.Proofs.Departures

/-!
# The ready queue

The ready queue is tidy when it holds no script twice and only live scripts that are in no hold
list. Every function of the scheduler keeps it tidy, except for the placement of a script after a
slice: a script that was made ready again before its turn is then queued twice if it is preempted,
and is both queued and parked if it halts (`Tidy.settle_iff`).
-/

namespace ScriptScheduler

namespace Scheduler

variable {s s' : Scheduler} {pid other : Pid} {ex new : Executor}

/-! ### Tidy queues -/

/-- The hold list of a live script. -/
def holdList? (s : Scheduler) (pid : Pid) : Option HoldList :=
  (s.get? pid).map fun ex => ex.thread.holdList

/-- A live script is in the hold list that its thread names. -/
theorem holdList?_of_get? (found : s.get? pid = some ex) :
    s.holdList? pid = some ex.thread.holdList := by
  unfold holdList?
  rw [found]
  rfl

/-- Scripts that stay as they are stay in their hold lists. -/
theorem holdList?_congr (same : s'.get? pid = s.get? pid) : s'.holdList? pid = s.holdList? pid := by
  unfold holdList?
  rw [same]

/-- The ready queue holds no script twice and only live scripts that are in no hold list. -/
structure Tidy (s : Scheduler) : Prop where
  nodup : s.ready.Nodup
  free : ∀ pid ∈ s.ready, s.holdList? pid = some .none

namespace Tidy

/-- A scheduler without scripts has a tidy queue. -/
theorem empty (config : SchedulerConfig) (engine : Option Engine) :
    (Scheduler.empty config engine).Tidy :=
  ⟨List.nodup_nil, fun _ mem => absurd mem (by simp [Scheduler.empty])⟩

/-- A queue stays tidy while no queued script is put into a hold list. -/
theorem congr (h : s.Tidy) (ready : s'.ready = s.ready)
    (free : ∀ pid ∈ s.ready, s.holdList? pid = some .none → s'.holdList? pid = some .none) :
    s'.Tidy where
  nodup := by rw [ready]; exact h.nodup
  free pid mem := by
    rw [ready] at mem
    exact free pid mem (h.free pid mem)

/-- A script that is not live is not ready. -/
theorem not_mem_of_not_live (h : s.Tidy) (dead : s.get? pid = none) : pid ∉ s.ready := by
  intro mem
  have free := h.free pid mem
  unfold holdList? at free
  rw [dead] at free
  exact absurd free (by decide)

/-- A script that is in a hold list is not ready. -/
theorem not_mem_of_held (h : s.Tidy) (found : s.get? pid = some ex)
    (held : ex.thread.holdList ≠ .none) : pid ∉ s.ready := by
  intro mem
  have free := h.free pid mem
  rw [holdList?_of_get? found] at free
  exact held (Option.some.inj free)

/-- A script that is not ready may change and go to any hold list. -/
theorem of_absent (h : s.Tidy) (absent : pid ∉ s.ready) (ready : s'.ready = s.ready)
    (others : ∀ other, other ≠ pid → s'.get? other = s.get? other) : s'.Tidy :=
  h.congr ready fun other mem free => by
    have ne : other ≠ pid := fun same => absent (same ▸ mem)
    rwa [holdList?_congr (others other ne)]

/-- A script changes that is not put into a hold list. -/
theorem modify {f : Executor → Executor} (h : s.Tidy)
    (keeps : ∀ ex, ex.pid = pid → (f ex).pid = pid)
    (free : ∀ ex, ex.thread.holdList = .none → (f ex).thread.holdList = .none) :
    (s.modify pid f).Tidy := by
  refine h.congr rfl ?_
  intro other _ was
  by_cases same : other = pid
  · rw [same] at was ⊢
    unfold holdList? at was ⊢
    obtain ⟨ex, found, list⟩ := Option.map_eq_some_iff.mp was
    rw [get?_modify_self keeps, found]
    exact congrArg some (free ex list)
  · rwa [holdList?_congr (get?_modify_of_ne keeps same)]

/-- A script is stored anew that is not put into a hold list. -/
theorem store (h : s.Tidy) (found : s.get? pid = some ex) (number : new.pid = pid)
    (free : ex.thread.holdList = .none → new.thread.holdList = .none) : (s.store new).Tidy := by
  refine h.congr rfl ?_
  intro other _ was
  by_cases same : other = pid
  · rw [same, holdList?_of_get? found] at was
    rw [same, holdList?_of_get? (get?_store found number), free (Option.some.inj was)]
  · rwa [holdList?_congr (get?_store_of_ne (number.symm ▸ same))]

/-! ### Placement -/

/-- A detached script is not ready. -/
theorem not_mem_detach (h : s.Tidy) (pid : Pid) : pid ∉ (s.detach pid).ready :=
  not_mem_ready_detach h.not_mem_of_not_live

/-- A script may leave its place. -/
theorem detach (h : s.Tidy) (pid : Pid) : (s.detach pid).Tidy := by
  cases found : s.get? pid with
  | none =>
    have same : s.detach pid = s := by simp [Scheduler.detach, found]
    rwa [same]
  | some ex =>
    constructor
    · rw [ready_detach found]
      exact h.nodup.filter _
    · intro other mem
      rw [ready_detach found] at mem
      obtain ⟨mem, ne⟩ := List.mem_filter.mp mem
      have ne : other ≠ pid := by simpa using ne
      rw [holdList?_congr (get?_detach_of_ne s ne)]
      exact h.free other mem

/-- A live script in no hold list may be put at the end of the queue if it is not in it yet. -/
theorem enqueue (h : s.Tidy) (absent : pid ∉ s.ready) (free : s.holdList? pid = some .none) :
    (s.enqueue pid).Tidy := by
  constructor
  · change (s.ready ++ [pid]).Nodup
    have alone : s.ready.Disjoint [pid] := by
      intro other mem same
      obtain rfl := List.mem_singleton.mp same
      exact absent mem
    exact h.nodup.append (List.nodup_singleton pid) alone
  · intro other mem
    have mem : other ∈ s.ready ++ [pid] := mem
    rcases List.mem_append.mp mem with mem | mem
    · exact h.free other mem
    · obtain rfl := List.mem_singleton.mp mem
      exact free

/-- A script that is made ready is queued once. -/
theorem schedule (h : s.Tidy) (pid : Pid) : (s.schedule pid).Tidy := by
  unfold Scheduler.schedule isMovable
  cases found : s.get? pid with
  | none => exact h
  | some ex =>
    dsimp only
    split
    · refine (h.detach pid).enqueue (h.not_mem_detach pid) ?_
      have detached := get?_detach_self s pid
      rw [found] at detached
      exact holdList?_of_get? detached
    · exact h

/-- A script that is not ready may go to any hold list. -/
theorem mapThread {g : Thread → Thread} (h : s.Tidy) (absent : pid ∉ s.ready) :
    (s.modify pid fun ex => ex.mapThread g).Tidy :=
  h.of_absent absent rfl fun _ => get?_mapThread_of_ne g

/-- A script that is put to sleep leaves the queue. -/
theorem hold (h : s.Tidy) (pid : Pid) : (s.hold pid).Tidy := by
  have asleep : ∀ g : Thread → Thread,
      ((s.detach pid).modify pid fun ex => ex.mapThread g).Tidy :=
    fun g => (h.detach pid).mapThread (h.not_mem_detach pid)
  unfold Scheduler.hold
  split
  · exact h
  · split
    · exact h
    · split
      · exact { asleep _ with }
      · exact { asleep _ with }

/-- A script that is parked for the debugger must not be queued. -/
theorem parkDebugger (h : s.Tidy) (absent : pid ∉ s.ready) : (s.parkDebugger pid).Tidy :=
  { h.mapThread absent with }

/-- A script that goes to the engine leaves the queue. -/
theorem parkExternal (h : s.Tidy) (pid : Pid) : (s.parkExternal pid).Tidy :=
  { (h.detach pid).mapThread (h.not_mem_detach pid) with }

/-! ### Removal -/

/-- A parent that gets the result of its child is queued once. -/
theorem resumeParent {parent child : Pid} {result : Val} (h : s.Tidy) :
    (s.resumeParent parent child result).Tidy := by
  unfold Scheduler.resumeParent
  split
  · exact h
  · next ex found =>
    split
    · have number : ex.pid = parent := pid_of_get? found
      have told : (s.store (({ ex with child := none }.setResultSlot result).revive)).Tidy :=
        h.store found number fun free => free
      exact told.schedule parent
    · exact h

/-- A removed script leaves the queue. -/
theorem remove (h : s.Tidy) (ex : Executor) : (s.remove ex).value.2.Tidy := by
  have gone : ((s.detach ex.pid).erase ex.pid).Tidy :=
    (h.detach ex.pid).of_absent (h.not_mem_detach ex.pid) rfl fun _ => get?_erase_of_ne
  let left := { (s.detach ex.pid).erase ex.pid with
    requests := dropFromTable ex.requests.ids s.requests }.forgetCalls ex.pid
  have left_tidy : left.Tidy := { gone with }
  have orphaned : (left.orphan ex.child).Tidy := by
    unfold Scheduler.orphan
    split
    · exact left_tidy
    · exact left_tidy.modify (fun _ same => same) fun _ free => free
  rw [remove_state]
  change ((left.orphan ex.child).notifyParent ex).Tidy
  unfold Scheduler.notifyParent
  split
  · exact orphaned
  · exact orphaned.resumeParent

/-- A retired script leaves the queue. -/
theorem retire (h : s.Tidy) (ex : Executor) (reason : ExitReason) :
    (s.retire ex reason).value.2.Tidy := by
  rw [retire_state]
  exact { h.remove ex with }

/-! ### Engine programs -/

/-- An engine script whose call is done leaves the queue. -/
theorem completeExternal (h : s.Tidy) (pid : Pid) (value : Val) :
    (s.completeExternal pid value).value.2.Tidy := by
  unfold Scheduler.completeExternal
  cases found : s.get? pid with
  | none => exact h
  | some ex =>
    have number : ex.pid = pid := pid_of_get? found
    have list : (ex.finishEngine value).thread.holdList = ex.thread.holdList :=
      congrArg Seat.list (Executor.seat_finishEngine ex value)
    have stored : (s.store (ex.finishEngine value)).Tidy :=
      h.store found number fun free => list.trans free
    let done := { s.store (ex.finishEngine value) with external := s.external.erase pid }
    have done_tidy : done.Tidy := { stored with }
    exact done_tidy.retire _ _

/-- A script that goes to the engine leaves the queue. -/
theorem runExternal (h : s.Tidy) (pid : Pid) :
    (s.runExternal pid).value.2.Tidy ∧ pid ∉ (s.runExternal pid).value.2.ready := by
  let parked := { s.parkExternal pid with issued := (s.parkExternal pid).issued + 1 }
  have parked_tidy : parked.Tidy := { h.parkExternal pid with }
  have absent : pid ∉ parked.ready := h.not_mem_detach pid
  unfold Scheduler.runExternal
  dsimp only
  split
  · exact ⟨parked_tidy, absent⟩
  · next ex found =>
    have found : parked.get? pid = some ex := found
    have number : ex.pid = pid := pid_of_get? found
    split
    · exact ⟨parked_tidy, absent⟩
    · next function _ =>
      let id := (s.parkExternal pid).nextRequestId
      let clear : Executor := { ex with stack := [] }
      have cleared : (parked.store clear).Tidy :=
        parked_tidy.store found number fun free => free
      have completed : ∀ {t : Scheduler} (value : Val), t.Tidy →
          (t.completeExternal ex.pid value).value.2.Tidy ∧
            pid ∉ (t.completeExternal ex.pid value).value.2.ready := by
        intro t value tidy
        rw [number]
        have done := tidy.completeExternal pid value
        have dead := Evolves.get?_completeExternal_self t pid value
        exact ⟨done, done.not_mem_of_not_live dead⟩
      rcases invoke_state parked ex function id with ⟨value, eq⟩ | ⟨value, eq⟩ | ⟨settlement, eq⟩
      · rw [eq]
        exact completed value parked_tidy
      · rw [eq]
        exact completed value cleared
      · rw [eq]
        have stored : (parked.store clear).get? pid = some clear := get?_store found number
        have deferred : ((parked.store clear).store
            (clear.mapThread fun t => t.setOutstanding (some id))).Tidy :=
          cleared.store stored number fun free => (Executor.seat_setOutstanding _ _).1.trans free
        exact ⟨{ deferred with }, absent⟩

/-! ### After a slice -/

/-- A script that is neither preempted nor halts leaves the queue after its slice. -/
theorem settle_of_leaves {outcome : SliceOutcome} (h : s.Tidy) (found : s.get? ex.pid = some ex)
    (free : ex.thread.holdList = .none) (leaves : outcome ≠ .preempted ∧ outcome ≠ .halted) :
    (s.settle ex outcome).value.2.Tidy ∧ ex.pid ∉ (s.settle ex outcome).value.2.ready := by
  have gone : ∀ last reason, last.pid = ex.pid → (s.retire last reason).value.2.Tidy ∧
      ex.pid ∉ (s.retire last reason).value.2.ready := by
    intro last reason number
    have retired := h.retire last reason
    exact ⟨retired, retired.not_mem_of_not_live (number ▸ Evolves.get?_retire_self s last reason)⟩
  have after := settle_state s ex outcome
  cases outcome with
  | preempted => exact absurd rfl leaves.1
  | halted => exact absurd rfl leaves.2
  | blocked =>
    rw [after]
    refine ⟨h.hold ex.pid, ?_⟩
    intro mem
    -- to hold a script is to detach it first
    have absent := h.not_mem_detach ex.pid
    unfold Scheduler.hold at mem
    rw [found] at mem
    dsimp only at mem
    rw [free, if_neg (by simp [HoldList.isFixed])] at mem
    split at mem
    · exact absent mem
    · exact absent mem
  | finished =>
    rw [after]
    exact gone ex _ rfl
  | faulted cause =>
    obtain ⟨result, reason, eq⟩ := after
    rw [eq]
    exact gone { ex with result := some result } reason rfl
  | runaway =>
    obtain ⟨result, reason, eq⟩ := after
    rw [eq]
    exact gone { ex with result := some result } reason rfl
  | external =>
    rw [after]
    exact h.runExternal ex.pid

/-- The placement of a script after a slice keeps the queue tidy unless the script was made ready
again before its turn and is preempted or halts. -/
theorem settle_iff {outcome : SliceOutcome} (h : s.Tidy) (found : s.get? ex.pid = some ex)
    (free : ex.thread.holdList = .none) :
    (s.settle ex outcome).value.2.Tidy ↔
      (ex.pid ∈ s.ready → outcome ≠ .preempted ∧ outcome ≠ .halted) := by
  by_cases leaves : outcome ≠ .preempted ∧ outcome ≠ .halted
  · exact iff_of_true (h.settle_of_leaves found free leaves).1 fun _ => leaves
  · have after := settle_state s ex outcome
    cases outcome with
    | preempted =>
      rw [after]
      constructor
      · intro tidy mem
        have nodup : (s.ready ++ [ex.pid]).Nodup := tidy.nodup
        exact absurd (List.mem_singleton_self ex.pid) (List.disjoint_of_nodup_append nodup mem)
      · intro steady
        have absent : ex.pid ∉ s.ready := fun mem => (steady mem).1 rfl
        exact h.enqueue absent (free ▸ holdList?_of_get? found)
    | halted =>
      rw [after]
      constructor
      · intro tidy mem
        have parked := get?_parkDebugger_self s ex.pid
        rw [found] at parked
        have queued : ex.pid ∈ (s.parkDebugger ex.pid).ready := mem
        exact absurd queued (tidy.not_mem_of_held parked (by simp [Executor.mapThread]))
      · intro steady
        exact h.parkDebugger fun mem => (steady mem).2 rfl
    | blocked | finished | faulted | runaway | external => exact absurd ⟨by simp, by simp⟩ leaves

/-! ### Requests and events -/

/-- A script that is answered is queued once. -/
theorem resolve {request : Request} (h : s.Tidy) (value : Option Val) :
    (s.resolve request value).value.Tidy := by
  let taken : Scheduler := { s with requests := s.requests.take request }
  have taken_tidy : taken.Tidy := { h with }
  cases found : s.get? request.pid with
  | none =>
    rw [resolve_of_not_live found]
    exact taken_tidy
  | some ex =>
    rw [resolve_eq found]
    let asking := { ex with requests := ex.requests.remove request.kind request.id }
    have seat : (asking.answered (value.getD .sentinel)).seat = ex.seat :=
      Executor.seat_answered asking _
    have own : ex.pid = request.pid := pid_of_get? found
    have number : (asking.answered (value.getD .sentinel)).pid = request.pid :=
      (Alters.kin_answered asking _).2.trans own
    have live : taken.get? request.pid = some ex := found
    have told : (taken.store (asking.answered (value.getD .sentinel))).Tidy :=
      taken_tidy.store live number fun free => (congrArg Seat.list seat).trans free
    exact told.schedule request.pid

/-- An answer keeps the queue tidy. -/
theorem respond (h : s.Tidy) (id : RequestId) (response : Val) :
    (s.respond id response).value.2.Tidy := by
  unfold Scheduler.respond
  split
  · exact h
  · exact h.resolve _

/-- An abort keeps the queue tidy. -/
theorem abortRequest (h : s.Tidy) (id : RequestId) : (s.abortRequest id).value.2.Tidy := by
  unfold Scheduler.abortRequest
  split
  · exact h
  · exact h.resolve none

/-- Aborts one after the other keep the queue tidy. -/
theorem abortEach (ids : List RequestId) :
    ∀ {s : Scheduler}, s.Tidy → (abortEach ids s).value.2.Tidy := by
  induction ids with
  | nil => exact fun h => h
  | cons id rest ih => exact fun h => ih (h.abortRequest id)

/-- A script that makes a request leaves the queue, or it stays where it is. -/
theorem register {entity : EntityId} {kind : RequestKind} {wake : Nat} {callback : Callback}
    (h : s.Tidy) : (s.register pid entity kind wake callback).value.2.Tidy := by
  have made := registered s pid entity kind wake callback
  generalize (s.register pid entity kind wake callback).value.1 = id at made
  generalize (s.register pid entity kind wake callback).value.2 = after at made ⊢
  cases made with
  | refused => exact h
  | @takenBack ex found =>
    have number : ex.pid = pid := pid_of_get? found
    have revived : (s.store ex.revive).Tidy := h.store found number fun free => free
    exact { revived with }
  | @asked ex holder table found =>
    let counted : Scheduler := { s with issued := s.issued + 1, requests := table }
    have counted_tidy : counted.Tidy := { h with }
    have live : counted.get? pid = some ex := found
    let asking : Executor := { (ex.suspend wake).openResultSlot with requests := holder }
    have seat : asking.seat = ex.seat :=
      (Executor.seat_openResultSlot (ex.suspend wake)).trans (Executor.seat_suspend ex wake)
    have number : asking.pid = pid := by
      refine Eq.trans ?_ (pid_of_get? found)
      unfold asking Executor.openResultSlot Executor.suspend
      split <;> split <;> rfl
    have stored : (counted.store asking).Tidy :=
      counted_tidy.store live number fun free => (congrArg Seat.list seat).trans free
    exact stored.hold pid

/-- A sleeper that is woken is queued once. -/
theorem wake (h : s.Tidy) (pid : Pid) : (s.wake pid).value.Tidy := by
  unfold Scheduler.wake
  cases found : s.get? pid with
  | none => exact h
  | some ex =>
    have number : ex.pid = pid := pid_of_get? found
    let up := { ex.mapThread Thread.detached with sleepCycles := ex.sleepCycles + 1 }
    have stored : (s.store up).Tidy := h.store found number fun _ => rfl
    have revived : (s.store up.revive).Tidy := h.store found number fun _ => rfl
    dsimp only
    split
    · exact revived.schedule pid
    · exact (abortEach _ stored).schedule pid

/-- Sleepers that are woken one after the other are queued once. -/
theorem wakeDue (now count : Nat) :
    ∀ {s : Scheduler}, s.Tidy → (wakeDue now count s).value.Tidy := by
  induction count with
  | zero => exact fun h => h
  | succ count ih =>
    intro s h
    unfold Scheduler.wakeDue
    split
    · exact h
    · next key pid rest _ =>
      split
      · exact h
      · have taken : Tidy { s with timeouts := rest } := { h with }
        exact ih (taken.wake pid)

/-- A script that gets an event is queued once if it wakes. -/
theorem signalEvent (h : s.Tidy) (pid : Pid) (event : Val) :
    (s.signalEvent pid event).value.2.Tidy := by
  unfold Scheduler.signalEvent
  split
  · exact h
  · next ex found =>
    have number : ex.pid = pid := pid_of_get? found
    have stored : ∀ {new : Executor} {delivery : Delivery},
        ex.signalEvent event = .ok (delivery, new) → (s.store new).Tidy := by
      intro new delivery delivered
      obtain ⟨seat, same⟩ := Executor.seat_signalEvent delivered
      exact h.store found (same.trans number) fun free => (congrArg Seat.list seat).trans free
    split
    · next ran delivered => exact (stored delivered).schedule pid
    · next ran delivered => exact stored delivered
    · exact h

/-! ### The debugger -/

/-- A halted script leaves the queue. -/
theorem halt (h : s.Tidy) (halted : s.halt pid = .ok s') : s'.Tidy := by
  have marked : ((s.detach pid).modify pid fun ex => { ex with halted := true }).Tidy :=
    (h.detach pid).modify (fun _ same => same) fun _ free => free
  obtain ⟨-, -, -, rfl⟩ := halt_ok halted
  exact marked.parkDebugger (h.not_mem_detach pid)

/-- A released script is queued once, or it sleeps on. -/
theorem release (h : s.Tidy) (released : s.release pid = .ok s') : s'.Tidy := by
  have marked : (s.unhalted pid).Tidy :=
    (h.detach pid).modify (fun _ same => same) fun _ free => free
  obtain ⟨-, ex, -, rfl⟩ := release_ok released
  split
  · exact marked.hold pid
  · exact marked.schedule pid

/-! ### Launching -/

/-- A new script that is not queued yet. -/
theorem enroll {program : Program} {options : Options} (h : s.Tidy) (numbers : s.Numbered)
    (prepared : s.prepare program options = .ok ex) :
    (s.enroll ex).value.Tidy ∧ ex.pid ∉ s.ready ∧
      (s.enroll ex).value.get? ex.pid = some ex ∧ ex.thread.holdList = .none := by
  have dead : s.get? ex.pid = none := pid_of_prepare prepared ▸ numbers.get?_nextPid
  have absent := h.not_mem_of_not_live dead
  exact ⟨h.of_absent absent rfl fun _ => get?_enroll_of_ne, absent, get?_enroll_self dead,
    (unheld_of_prepare prepared).1⟩

/-- A launched script is queued once. -/
theorem startScriptWith {program : Program} {options : Options} {ran : Logged (Pid × Scheduler)}
    (h : s.Tidy) (numbers : s.Numbered)
    (started : s.startScriptWith program options = .ok ran) : ran.value.2.Tidy := by
  obtain ⟨ex, prepared, rfl⟩ := startScriptWith_launched started
  obtain ⟨enrolled, absent, found, list⟩ := h.enroll numbers prepared
  exact enrolled.enqueue absent (list ▸ holdList?_of_get? found)

/-- A parent that launches a child leaves the queue, and the child is queued once. -/
theorem runScript {parent : Pid} {program : Program} {ran : Logged (Pid × Scheduler)}
    (h : s.Tidy) (numbers : s.Numbered) (launched : s.runScript parent program = .ok ran) :
    ran.value.2.Tidy := by
  obtain ⟨waiting, child, live, -, prepared, eq⟩ := runScript_eq launched
  obtain ⟨enrolled, absent, found, list⟩ := h.enroll numbers prepared
  obtain ⟨self, -, -⟩ := get?_awaitChild numbers prepared live
  have linked : ((s.enroll child).value.modify child.pid fun ex =>
      { ex with parent := some parent }).Tidy :=
    enrolled.modify (fun _ same => same) fun _ free => free
  have asleep : ((s.enroll child).value.awaitChild parent child.pid).Tidy := by
    refine Tidy.hold (linked.modify ?_ ?_) parent
    · intro ex same
      unfold Executor.suspend
      split <;> exact same
    · intro ex free
      exact (congrArg Seat.list (Executor.seat_suspend _ _)).trans free
  have apart : child.pid ≠ parent := (apart_of_prepare numbers prepared live).symm
  have others : child.pid ∉ ((s.enroll child).value.awaitChild parent child.pid).ready := by
    intro mem
    have kept : child.pid ∈ ((s.enroll child).value.awaitChild parent child.pid).ready.filter
        fun other => other ≠ parent := List.mem_filter.mpr ⟨mem, decide_eq_true apart⟩
    unfold awaitChild at kept
    rw [Alters.hold.ready] at kept
    exact absent (List.mem_filter.mp kept).1
  rw [eq]
  refine asleep.enqueue others ?_
  rw [holdList?_of_get? self]
  exact congrArg some list

/-! ### Operations -/

/-- A program that is run to its end does not stay in the queue. -/
theorem runToCompletion {patience now : Nat} {program : Program} {ran : Logged (Val × Scheduler)}
    (h : s.Tidy) (numbers : s.Numbered)
    (runs : s.runToCompletion patience now program = .ok (some ran)) : ran.value.2.Tidy := by
  unfold Scheduler.runToCompletion at runs
  split at runs
  · exact absurd runs (by simp)
  · next ex prepared =>
    obtain ⟨slice, sliced, rfl⟩ := Option.map_eq_some_iff.mp (Except.ok.inj runs)
    obtain ⟨enrolled, absent, found, list⟩ := h.enroll numbers prepared
    have runs : ex.Runs s.config.maxRunawayCycles slice.entries slice.value.1 slice.value.2 :=
      ⟨_, _, _, sliced⟩
    obtain ⟨_, slice'⟩ := runs.slice
    have carried := slice'.carries
    have stored : ((s.enroll ex).value.store slice.value.1).Tidy :=
      enrolled.store found carried.pid fun free => carried.holdList.trans free
    have live := get?_store found carried.pid
    rw [← carried.pid] at live absent
    exact (stored.settle_iff live (carried.holdList.trans list)).mpr fun mem =>
      absurd mem absent

/-- The scripts of settled calls leave the queue. -/
theorem completeEach (settled : List Completion) :
    ∀ {s : Scheduler}, s.Tidy → (completeEach settled s).value.Tidy := by
  induction settled with
  | nil => exact fun h => h
  | cons done rest ih => exact fun h => ih (h.completeExternal done.pid done.value)

/-- The scripts of settled calls leave the queue. -/
theorem pumpExternal (h : s.Tidy) : s.pumpExternal.value.2.Tidy := by
  have taken : Tidy { s with calls := s.calls.filter fun call => call.settlement.isNone } :=
    { h with }
  exact completeEach _ taken

/-- Scripts that are shut down leave the queue. -/
theorem shutdownEach (pids : List Pid) :
    ∀ {s : Scheduler}, s.Tidy → (shutdownEach pids s).value.Tidy := by
  induction pids with
  | nil => exact fun h => h
  | cons pid rest ih =>
    intro s h
    unfold Scheduler.shutdownEach
    split
    · exact ih h
    · exact ih (h.retire _ _)

/-- Waking the sleepers whose clock has come queues each of them once. -/
theorem checkBlocked (h : s.Tidy) (now left : Nat) : (s.checkBlocked now left).value.2.Tidy := by
  have woken : (Scheduler.wakeDue now s.timeouts.length s).value.Tidy := wakeDue _ _ h
  unfold Scheduler.checkBlocked
  simp only [Logged.bind_value]
  split
  · exact woken
  · exact woken

/-- A script that is killed leaves the queue. -/
theorem kill {ran : Logged (ScriptExit × Scheduler)} (h : s.Tidy) (killed : s.kill pid = .ok ran) :
    ran.value.2.Tidy := by
  obtain ⟨ex, -, rfl⟩ := kill_ok killed
  exact h.retire _ _

/-- When all scripts are shut down they leave the queue. -/
theorem shutdown (h : s.Tidy) : s.shutdown.value.Tidy := by
  unfold Scheduler.shutdown
  split
  · exact h
  · exact shutdownEach _ h

/-- A script that is handed back leaves the queue. -/
theorem deschedule (h : s.Tidy) (pid : Pid) : (s.deschedule pid).value.2.Tidy := by
  unfold Scheduler.deschedule
  split
  · exact h
  · exact h.remove _

/-- The answer of an entity keeps the queue tidy. -/
theorem respondToEntity (h : s.Tidy) (entity : EntityId) (kind : RequestKind)
    (hint : Option RequestId) (response : Val) :
    (s.respondToEntity entity kind hint response).value.2.Tidy := by
  unfold Scheduler.respondToEntity
  split
  · exact h
  · exact h.respond _ response

/-- When all requests of a script are aborted the queue stays tidy. -/
theorem abortAll (h : s.Tidy) (pid : Pid) : (s.abortAll pid).value.2.Tidy := by
  unfold Scheduler.abortAll
  split
  · exact h
  · exact abortEach _ h

/-- When all requests to an entity are aborted the queue stays tidy. -/
theorem entityDisconnected (h : s.Tidy) (entity : EntityId) :
    (s.entityDisconnected entity).value.2.Tidy := by
  unfold Scheduler.entityDisconnected
  split
  · exact h
  · exact abortEach _ h

/-- An edited script stays where it is. -/
theorem edit {change : Edit} (h : s.Tidy) (edited : s.edit pid change = .ok s') : s'.Tidy := by
  obtain ⟨ex, found, rfl⟩ := edit_ok edited
  obtain ⟨seat, same⟩ := change.seat_apply ex
  exact h.store found (same.trans (pid_of_get? found)) fun free =>
    (congrArg Seat.list seat).trans free

/-- Every operation except a pass keeps the queue tidy. -/
theorem perform {patience : Nat} {op : Operation} {ran : Logged (Answer × Scheduler)}
    (h : s.Tidy) (numbers : s.Numbered) (noPass : ∀ now, op ≠ .runReady now)
    (performed : s.perform patience op = some ran) : ran.value.2.Tidy := by
  cases op with
  | start program =>
    obtain rfl := Option.some.inj performed
    exact (undone_startScriptWith _ _).attempt h fun _ => h.startScriptWith numbers
  | startWith program options =>
    obtain rfl := Option.some.inj performed
    exact (undone_startScriptWith _ _).attempt h fun _ => h.startScriptWith numbers
  | runScript parent program =>
    obtain rfl := Option.some.inj performed
    exact (undone_runScript _ _).attempt h fun _ => h.runScript numbers
  | runToCompletion now program =>
    rcases perform_runToCompletion performed with ⟨cause, -, rfl⟩ | ⟨done, eq, rfl⟩
    · exact h
    · exact h.runToCompletion numbers eq
  -- a pass may let a parent run twice, which is looked at on its own
  | runReady now => exact absurd rfl (noPass now)
  | checkBlocked now left =>
    obtain rfl := Option.some.inj performed
    exact h.checkBlocked now left
  | pumpExternal =>
    obtain rfl := Option.some.inj performed
    exact h.pumpExternal
  | settleCall id settlement =>
    obtain rfl := Option.some.inj performed
    exact { h with }
  | signal pid event =>
    obtain rfl := Option.some.inj performed
    exact h.signalEvent pid event
  | halt pid =>
    obtain rfl := Option.some.inj performed
    exact (undone_halt pid).attemptQuietly h fun _ => h.halt
  | release pid =>
    obtain rfl := Option.some.inj performed
    exact (undone_release pid).attemptQuietly h fun _ => h.release
  | kill pid =>
    obtain rfl := Option.some.inj performed
    exact (undone_kill pid).attempt h fun _ => h.kill
  | shutdown =>
    obtain rfl := Option.some.inj performed
    exact h.shutdown
  | deschedule pid =>
    obtain rfl := Option.some.inj performed
    exact h.deschedule pid
  | request pid entity kind callback =>
    obtain rfl := Option.some.inj performed
    exact h.register
  | requestWithTimeout now pid entity kind timeout callback =>
    obtain rfl := Option.some.inj performed
    exact h.register
  | respond id response =>
    obtain rfl := Option.some.inj performed
    exact h.respond id response
  | respondToEntity entity kind hint response =>
    obtain rfl := Option.some.inj performed
    exact h.respondToEntity entity kind hint response
  | abort id =>
    obtain rfl := Option.some.inj performed
    exact h.abortRequest id
  | abortAll pid =>
    obtain rfl := Option.some.inj performed
    exact h.abortAll pid
  | entityDisconnected entity =>
    obtain rfl := Option.some.inj performed
    exact h.entityDisconnected entity
  | edit pid change =>
    obtain rfl := Option.some.inj performed
    exact (undone_edit pid change).attemptQuietly h fun _ => h.edit
  | takeExits =>
    obtain rfl := Option.some.inj performed
    exact { h with }

end Tidy

end Scheduler

end ScriptScheduler
