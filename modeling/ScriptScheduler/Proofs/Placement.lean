import ScriptScheduler.Proofs.HoldLists
import ScriptScheduler.Proofs.Slices

/-!
# Places along moves

Every move keeps the hold lists in order: what is away during a pass are the scripts that have not
had their turn yet, and between operations nothing is away.
-/

namespace ScriptScheduler

/-! ### Changes that keep the seat -/

namespace Executor

variable {ex ran : Executor}

/-- What a script keeps while it runs includes its seat. -/
theorem Carries.seat (h : Carries ex ran) : ran.seat = ex.seat := by
  unfold Executor.seat
  rw [h.holdList, h.timer]

/-- An answer does not move a script. -/
theorem seat_answered (ex : Executor) (value : Val) : (ex.answered value).seat = ex.seat := by
  unfold answered
  split <;> rfl

/-- The suspension of a script does not move it. -/
theorem seat_suspend (ex : Executor) (wake : Nat) : (ex.suspend wake).seat = ex.seat := by
  unfold suspend
  split <;> rfl

/-- Room for an answer does not move a script. -/
theorem seat_openResultSlot (ex : Executor) : ex.openResultSlot.seat = ex.seat := by
  unfold openResultSlot
  split <;> rfl

/-- The outstanding call of a thread has nothing to do with its place. -/
theorem seat_setOutstanding (t : Thread) (call : Option RequestId) :
    (t.setOutstanding call).holdList = t.holdList ∧ (t.setOutstanding call).timer = t.timer := by
  unfold Thread.setOutstanding
  split <;> exact ⟨rfl, rfl⟩

/-- The end of an engine call does not move a script. -/
theorem seat_finishEngine (ex : Executor) (value : Val) :
    (ex.finishEngine value).seat = ex.seat := by
  obtain ⟨list, timer⟩ := seat_setOutstanding ex.thread none
  unfold seat finishEngine
  rw [list, timer]

/-- An event does not move a script. -/
theorem seat_signalEvent {event : Val} {delivery : Delivery}
    (delivered : ex.signalEvent event = .ok (delivery, ran)) :
    ran.seat = ex.seat ∧ ran.pid = ex.pid := by
  unfold signalEvent at delivered
  split at delivered
  · obtain ⟨-, rfl⟩ := Prod.mk.inj (Except.ok.inj delivered)
    exact ⟨rfl, rfl⟩
  · split at delivered
    · next thread posted =>
      obtain ⟨-, rfl⟩ := Prod.mk.inj (Except.ok.inj delivered)
      obtain ⟨capacity, events, -, rfl⟩ := Thread.post_ok posted
      exact ⟨rfl, rfl⟩
    · exact absurd delivered (by simp)

end Executor

/-- An edit keeps the number and the seat of a script. -/
theorem Edit.seat_apply (edit : Edit) (ex : Executor) :
    (edit.apply ex).seat = ex.seat ∧ (edit.apply ex).pid = ex.pid := by
  cases edit with
  | push value => exact ⟨rfl, rfl⟩
  | setCritical critical => exact ⟨rfl, rfl⟩
  | setPriority priority => exact ⟨rfl, rfl⟩
  | setWarnOnRunaway warn => exact ⟨rfl, rfl⟩
  | setEventQueueSize size =>
    unfold apply Executor.setEventQueueSize Thread.setCapacity
    refine ⟨?_, rfl⟩
    unfold Executor.seat
    dsimp only
    split <;> rfl

namespace Scheduler

variable {s s' : Scheduler} {away : List Pid} {pid : Pid} {ex : Executor}

/-- A script that is live after an edit was live before, and it has been edited or is as it was. -/
theorem get?_edit {other : Pid} {new : Executor} {edit : Edit} (found : s.get? pid = some ex)
    (live : (s.store (edit.apply ex)).get? other = some new) :
    ∃ old, s.get? other = some old ∧ (new = old ∨ new = edit.apply old) := by
  have number : (edit.apply ex).pid = pid := (edit.seat_apply ex).2.trans (pid_of_get? found)
  by_cases same : other = pid
  · subst same
    exact ⟨ex, found, .inr (Option.some.inj ((get?_store found number).symm.trans live)).symm⟩
  · rw [get?_store_of_ne (number.symm ▸ same)] at live
    exact ⟨new, live, .inl rfl⟩

namespace Placed

/-- A script may always be counted as away. -/
theorem also (h : Placed away s) (pid : Pid) : Placed (pid :: away) s :=
  h.mono fun _ mem => List.mem_cons_of_mem _ mem

/-- A new version of the live script `ex` with the seat of `ex`. -/
theorem store_of_get? {new : Executor} (h : Placed away s) (found : s.get? ex.pid = some ex)
    (number : new.pid = ex.pid) (same : new.seat = ex.seat) : Placed away (s.store new) := by
  refine h.store ?_
  intro old live
  rw [number, found] at live
  rw [same, Option.some.inj live]

/-! ### Removal -/

/-- A parent that gets the result of its child finds its place. -/
theorem resumeParent {parent child : Pid} {result : Val} (h : Placed away s) :
    Placed away (s.resumeParent parent child result) := by
  unfold Scheduler.resumeParent
  split
  · exact h
  · next ex found =>
    have number := pid_of_get? found
    have live : s.get? ex.pid = some ex := number ▸ found
    split
    · refine Placed.schedule (Placed.also ?_ parent)
      exact h.store_of_get? live rfl rfl
    · exact h

/-- A child whose parent is removed stays where it is. -/
theorem orphan {child : Option Pid} (h : Placed away s) : Placed away (s.orphan child) := by
  unfold Scheduler.orphan
  split
  · exact h
  · exact h.modify (fun _ same => same) fun _ _ => rfl

/-- A parent that is told about the end of its child finds its place. -/
theorem notifyParent (h : Placed away s) : Placed away (s.notifyParent ex) := by
  unfold Scheduler.notifyParent
  split
  · exact h
  · exact h.resumeParent

/-- A script that is detached and forgotten is in no list, and the others keep their places. -/
theorem forget (h : Placed (pid :: away) s) : Placed away ((s.detach pid).erase pid) := by
  have erased : Placed (pid :: away) ((s.detach pid).erase pid) :=
    ((h.detach pid).mono fun other mem => by simpa using mem).erase (seat_detach_self s pid)
  refine erased.settled ?_
  intro live
  rw [get?_erase_self] at live
  exact absurd live (by decide)

/-- A removed script is in no list, and the others keep their places. -/
theorem remove (h : Placed (ex.pid :: away) s) : Placed away (s.remove ex).value.2 := by
  rw [remove_state]
  refine Placed.notifyParent (Placed.orphan ?_)
  exact h.forget.congr rfl (fun _ => rfl) fun _ live => live

/-- A retired script is in no list, and the others keep their places. -/
theorem retire {reason : ExitReason} (h : Placed (ex.pid :: away) s) :
    Placed away (s.retire ex reason).value.2 := by
  rw [retire_state]
  exact h.remove.congr rfl (fun _ => rfl) fun _ live => live

/-! ### Engine calls -/

/-- A script that is taken off the list of the engine is detached as if it were still there. -/
theorem detach_erase_external (h : Placed away s) (found : s.get? pid = some ex) :
    { s with external := s.external.erase pid }.detach pid = s.detach pid := by
  by_cases held : ex.thread.holdList = .external
  · have twice : (s.external.erase pid).erase pid = s.external.erase pid :=
      List.erase_of_not_mem (nodup_of_sorted h.sortedExternal).not_mem_erase
    have same : { s with external := s.external.erase pid }.get? pid = some ex := found
    unfold Scheduler.detach
    rw [same, found]
    unfold Scheduler.leaveHoldList
    simp only [held, pid_of_get? found, twice]
  · have absent : pid ∉ s.external := by
      rw [h.external, seat_of_get? found]
      exact held
    rw [List.erase_of_not_mem absent]

/-- An engine script whose call is done is retired as if it were still on the list of the
engine. -/
theorem completeExternal_eq (h : Placed away s) (value : Val) (found : s.get? pid = some ex) :
    ∃ reason, (s.completeExternal pid value).value.2 =
      ((s.store (ex.finishEngine value)).retire (ex.finishEngine value) reason).value.2 := by
  have number := pid_of_get? found
  have known : s.get? ex.pid = some ex := number.symm ▸ found
  have stored : Placed away (s.store (ex.finishEngine value)) :=
    h.store_of_get? known rfl (Executor.seat_finishEngine ex value)
  have live : (s.store (ex.finishEngine value)).get? pid = some (ex.finishEngine value) :=
    get?_store found number
  have detached := stored.detach_erase_external live
  rw [← number] at detached
  have retired := retire_congr (ex.finishEngine value) (congrArg (fun s => s.erase ex.pid) detached)
  unfold Scheduler.completeExternal
  rw [found]
  simp only [Logged.bind_value, Logged.pure_value]
  rw [← number]
  exact ⟨_, congrArg (fun ran => ran.value.2) (retired _)⟩

/-- An engine script whose call is done is in no list, and the others keep their places. -/
theorem completeExternal (h : Placed (pid :: away) s) (value : Val) :
    Placed away (s.completeExternal pid value).value.2 := by
  cases found : s.get? pid with
  | none =>
    rw [completeExternal_of_not_live found]
    refine h.settled ?_
    intro live
    rw [found] at live
    exact absurd live (by decide)
  | some ex =>
    obtain ⟨reason, eq⟩ := h.completeExternal_eq value found
    have number := pid_of_get? found
    rw [eq]
    refine retire ?_
    have known : s.get? ex.pid = some ex := number.symm ▸ found
    have stored : Placed (pid :: away) (s.store (ex.finishEngine value)) :=
      h.store_of_get? known rfl (Executor.seat_finishEngine ex value)
    exact number ▸ stored

/-- A script whose call is deferred keeps its place. -/
theorem defer {new : Executor} {id : RequestId} {settlement : Option Settlement}
    (h : Placed away s) (found : s.get? ex.pid = some ex) (number : new.pid = ex.pid)
    (same : new.seat = ex.seat) : Placed away (s.defer new id settlement) := by
  obtain ⟨list, timer⟩ := Executor.seat_setOutstanding new.thread (some id)
  have seat : (new.mapThread fun t => t.setOutstanding (some id)).seat = ex.seat := by
    rw [← same]
    unfold Executor.seat Executor.mapThread
    rw [list, timer]
  have stored : Placed away (s.store (new.mapThread fun t => t.setOutstanding (some id))) :=
    h.store_of_get? found number seat
  exact stored.congr rfl (fun _ => rfl) fun _ live => live

/-- A script that calls the engine keeps its place or is retired. -/
theorem invoke {function : FunctionRef} {id : RequestId} (h : Placed away s)
    (found : s.get? ex.pid = some ex) : Placed away (s.invoke ex function id).value.2 := by
  have cleared : Placed away (s.store { ex with stack := [] }) := h.store_of_get? found rfl rfl
  rcases invoke_state s ex function id with ⟨value, eq⟩ | ⟨value, eq⟩ | ⟨settlement, eq⟩
  · rw [eq]
    exact (h.also ex.pid).completeExternal value
  · rw [eq]
    exact (cleared.also ex.pid).completeExternal value
  · rw [eq]
    exact cleared.defer (get?_store_self found) rfl rfl

/-- A script that goes to the engine is placed there or retired. -/
theorem runExternal (h : Placed (pid :: away) s) (live : (s.get? pid).isSome = true) :
    Placed away (s.runExternal pid).value.2 := by
  have parked : Placed away
      { s.parkExternal pid with issued := (s.parkExternal pid).issued + 1 } :=
    (h.parkExternal live).congr rfl (fun _ => rfl) fun _ live => live
  unfold Scheduler.runExternal
  dsimp only
  split
  · exact parked
  · next ex found =>
    split
    · exact parked
    · exact parked.invoke (pid_of_get? found ▸ found)

/-! ### Slices -/

/-- A script that has had its turn is placed or retired. -/
theorem settle {outcome : SliceOutcome} (h : Placed (ex.pid :: away) s)
    (found : s.get? ex.pid = some ex) (free : ex.thread.holdList = .none) :
    Placed away (s.settle ex outcome).value.2 := by
  have live : (s.get? ex.pid).isSome = true := by rw [found]; rfl
  have seat : s.seat ex.pid = .free := h.free_of_list (by rw [seat_of_get? found]; exact free)
  have after := settle_state s ex outcome
  cases outcome with
  | preempted => rw [after]; exact h.enqueue (by simp)
  | blocked => rw [after]; exact h.hold
  | halted => rw [after]; exact h.parkDebugger live seat
  | external => rw [after]; exact h.runExternal live
  | finished => rw [after]; exact h.retire
  | faulted cause =>
    obtain ⟨result, reason, eq⟩ := after
    rw [eq]
    exact retire h
  | runaway =>
    obtain ⟨result, reason, eq⟩ := after
    rw [eq]
    exact retire h

/-! ### Requests -/

/-- Whoever is answered finds a place. -/
theorem deliver {request : Request} {value : Option Val} (h : Placed (request.pid :: away) s) :
    Placed away (s.deliver request value).value := by
  rw [deliver_state]
  split
  · next gone =>
    refine h.settled ?_
    intro live
    rw [gone] at live
    exact absurd live (by decide)
  · next ex found =>
    have number := pid_of_get? found
    refine Placed.schedule ?_
    refine h.store_of_get? (number ▸ found) ?_ ?_
    · unfold Executor.answered
      split <;> rfl
    · exact Executor.seat_answered _ _

/-- Whoever is answered finds a place. -/
theorem resolve {request : Request} {value : Option Val} (h : Placed away s) :
    Placed away (s.resolve request value).value := by
  have taken : Placed away { s with requests := s.requests.take request } :=
    h.congr rfl (fun _ => rfl) fun _ live => live
  exact deliver (taken.also request.pid)

/-- Whoever is told of an abort finds a place. -/
theorem abortEach (ids : List RequestId) :
    ∀ {s : Scheduler}, Placed away s → Placed away (abortEach ids s).value.2 := by
  induction ids with
  | nil => exact fun h => h
  | cons id rest ih =>
    intro s h
    refine ih (s := (s.abortRequest id).value.2) ?_
    unfold Scheduler.abortRequest
    split
    · exact h
    · exact h.resolve

/-- A script that makes a request finds a place. -/
theorem register {entity : EntityId} {kind : RequestKind} {wake : Nat} {callback : Callback}
    (h : Placed away s) : Placed away (s.register pid entity kind wake callback).value.2 := by
  have made := registered s pid entity kind wake callback
  generalize (s.register pid entity kind wake callback).value.1 = id at made
  generalize (s.register pid entity kind wake callback).value.2 = after at made ⊢
  cases made with
  | refused => exact h
  | @takenBack ex found =>
    have counted : Placed away { s with issued := s.issued + 1 } :=
      h.congr rfl (fun _ => rfl) fun _ live => live
    have live : s.get? ex.pid = some ex := pid_of_get? found ▸ found
    exact counted.store_of_get? live rfl rfl
  | @asked ex holder table found =>
    have tabled : Placed away { s with issued := s.issued + 1, requests := table } :=
      h.congr rfl (fun _ => rfl) fun _ live => live
    refine Placed.hold (Placed.also ?_ pid)
    refine tabled.store_of_get? (pid_of_get? found ▸ found) ?_ ?_
    · unfold Executor.openResultSlot Executor.suspend
      split <;> split <;> rfl
    · exact (Executor.seat_openResultSlot _).trans (Executor.seat_suspend _ _)

/-! ### Waking -/

/-- The first timer is taken out and its script leaves the hold list. -/
theorem takeTimer {key : TimerKey} {rest : List (TimerKey × Pid)} (h : Placed away s)
    (new : Executor) (first : s.timeouts = (key, pid) :: rest)
    (found : s.get? pid = some ex) (number : new.pid = pid) (free : new.seat = .free) :
    Placed (pid :: away) ({ s with timeouts := rest }.store new) := by
  have timer : (s.seat pid).timer = some key :=
    (h.timeouts pid key).mp (by rw [first]; exact List.mem_cons_self)
  have list : (s.seat pid).list = .timeout := (h.timer_iff pid).mp (by rw [timer]; rfl)
  have live : (s.get? pid).isSome = true := by rw [found]; rfl
  have seats : ∀ other, ({ s with timeouts := rest }.store new).seat other =
      if other = pid then .free else s.seat other := by
    subst number
    exact seat_of_modify (s := { s with timeouts := rest }) (fun _ _ => rfl) live rfl
      fun _ _ => free
  have sorted := h.sortedTimers
  rw [first, List.pairwise_cons] at sorted
  have elsewhere : ∀ {pids : List Pid} {held : HoldList}, held ≠ .none → held ≠ .timeout →
      (∀ other, other ∈ pids ↔ (s.seat other).list = held) → ∀ other,
      other ∈ pids ↔ (({ s with timeouts := rest }.store new).seat other).list = held := by
    intro pids held some untimed holds other
    rw [seats, holds]
    by_cases same : other = pid
    · simp [same, Seat.free, some.symm, list, untimed.symm]
    · rw [if_neg same]
  constructor
  case sortedTimers => exact sorted.2
  case seqs =>
    intro entry mem
    exact h.seqs entry (by rw [first]; exact List.mem_cons_of_mem _ mem)
  case sortedUntimed => exact h.sortedUntimed
  case sortedDebugger => exact h.sortedDebugger
  case sortedExternal => exact h.sortedExternal
  case timeouts =>
    intro other key'
    rw [seats]
    change (key', other) ∈ rest ↔ _
    by_cases same : other = pid
    · subst same
      simp only [if_true, Seat.free]
      refine iff_of_false ?_ (by simp)
      intro mem
      -- a script has one timer, and it was the first one
      have held := (h.timeouts other key').mp (by rw [first]; exact List.mem_cons_of_mem _ mem)
      rw [timer] at held
      obtain rfl := Option.some.inj held
      exact TimerKey.not_before_self _ (sorted.1 _ mem)
    · rw [if_neg same, ← h.timeouts, first, List.mem_cons, Prod.mk.injEq]
      simp [same]
  case untimed => exact elsewhere (by decide) (by decide) h.untimed
  case debugger => exact elsewhere (by decide) (by decide) h.debugger
  case external => exact elsewhere (by decide) (by decide) h.external
  case timer_iff =>
    intro other
    rw [seats]
    by_cases same : other = pid
    · simp [same, Seat.free]
    · rw [if_neg same]
      exact h.timer_iff other
  case ready =>
    intro other live none
    by_cases same : other = pid
    · exact .inr (List.mem_cons.mpr (.inl same))
    · rw [seats, if_neg same] at none
      rw [get?_store_of_ne (number ▸ same)] at live
      exact (h.ready other live none).imp_right (List.mem_cons_of_mem _)

/-- A sleeper that is woken becomes ready. -/
theorem wake {key : TimerKey} {rest : List (TimerKey × Pid)} (h : Placed away s)
    (first : s.timeouts = (key, pid) :: rest) :
    Placed away ({ s with timeouts := rest }.wake pid).value := by
  have timer : (s.seat pid).timer = some key :=
    (h.timeouts pid key).mp (by rw [first]; exact List.mem_cons_self)
  cases found : s.get? pid with
  | none =>
    rw [seat_of_not_live found] at timer
    exact absurd timer (by simp [Seat.free])
  | some ex =>
    have number := pid_of_get? found
    have live : { s with timeouts := rest }.get? pid = some ex := found
    unfold Scheduler.wake
    rw [live]
    dsimp only
    split
    · have taken := h.takeTimer (Executor.revive
        { ex.mapThread Thread.detached with sleepCycles := ex.sleepCycles + 1 })
        first found number rfl
      exact taken.schedule
    · have taken := h.takeTimer
        { ex.mapThread Thread.detached with sleepCycles := ex.sleepCycles + 1 }
        first found number rfl
      exact (taken.abortEach _).schedule

/-! ### Launching -/

/-- A new script that is ready. -/
theorem start {program : Program} {options : Options} (h : Placed away s) (numbers : s.Numbered)
    (prepared : s.prepare program options = .ok ex) :
    Placed (ex.pid :: away) (s.enroll ex).value := by
  obtain ⟨list, timer⟩ := unheld_of_prepare prepared
  refine h.enroll (pid_of_prepare prepared ▸ numbers.get?_nextPid) ?_
  unfold Executor.seat
  rw [list, timer]
  rfl

/-- A parent that waits for its child finds a place. -/
theorem awaitChild {parent child : Pid} (h : Placed away s) :
    Placed away (s.awaitChild parent child) := by
  have linked : Placed away (s.modify child fun ex => { ex with parent := some parent }) :=
    h.modify (fun _ same => same) fun _ _ => rfl
  refine Placed.hold (Placed.also (linked.modify ?_ ?_) parent)
  · intro ex same
    unfold Executor.suspend
    split <;> exact same
  · intro ex _
    exact Executor.seat_suspend _ _

/-! ### Control -/

/-- Whoever gets an event finds a place. -/
theorem signalEvent {event : Val} (h : Placed away s) :
    Placed away (s.signalEvent pid event).value.2 := by
  unfold Scheduler.signalEvent
  split
  · exact h
  · next ex found =>
    have number := pid_of_get? found
    split
    · next ran delivered =>
      obtain ⟨seat, same⟩ := Executor.seat_signalEvent delivered
      exact ((h.store_of_get? (number ▸ found) same seat).also pid).schedule
    · next ran delivered =>
      obtain ⟨seat, same⟩ := Executor.seat_signalEvent delivered
      exact h.store_of_get? (number ▸ found) same seat
    · exact h

/-- A halted script is parked for the debugger. -/
theorem halt (h : Placed away s) (halted : s.halt pid = .ok s') : Placed away s' := by
  obtain ⟨ex, found, -, rfl⟩ := halt_ok halted
  have keeps : ∀ ex : Executor, ex.pid = pid → { ex with halted := true }.pid = pid :=
    fun _ same => same
  have marked := (h.detach pid).modify (f := fun ex => { ex with halted := true }) keeps
    fun _ _ => rfl
  refine marked.parkDebugger ?_ ?_
  · rw [isSome_get?_modify keeps, isSome_get?_detach, found]
    rfl
  · rw [seat_modify keeps (fun _ _ => rfl), seat_detach_self]

/-- A released script is ready or sleeps on. -/
theorem release (h : Placed away s) (released : s.release pid = .ok s') : Placed away s' := by
  have marked : Placed (pid :: away) (s.unhalted pid) :=
    (h.detach pid).modify (fun _ same => same) fun _ _ => rfl
  obtain ⟨-, ex, -, rfl⟩ := release_ok released
  split
  · exact marked.hold
  · exact marked.schedule

end Placed

end Scheduler

open Scheduler

/-- Moves keep the hold lists in order. -/
theorem Move.placed {m m' : Moment} {entries : List Entry} (move : Move m entries m')
    (numbers : m.state.Numbered) (h : Placed m.away m.state) : Placed m'.away m'.state := by
  cases move with
  | tell => exact h
  | tellEngine => exact h
  | start prepared => exact (h.start numbers prepared).enqueue (by simp)
  | startChild launched =>
    obtain ⟨waiting, child, -, -, prepared, eq⟩ := runScript_eq launched
    dsimp only
    rw [eq]
    exact (h.start numbers prepared).awaitChild.enqueue (by simp)
  | startAway prepared => exact h.start numbers prepared
  | takeBatch =>
    exact { h with
      ready := fun pid live none => .inr ((h.ready pid live none).resolve_right (by simp)) }
  | skip idle =>
    refine h.settled ?_
    intro live none
    obtain ⟨ex, found⟩ := Option.isSome_iff_exists.mp live
    rw [seat_of_get? found] at none
    exact idle ex found none
  | @turn s _ _ pid ex ran _ _ found free runs =>
    obtain ⟨now, slice⟩ := runs.slice
    have carried := slice.carries
    have number := pid_of_get? found
    have stored := h.store_of_get? (number.symm ▸ found) carried.pid carried.seat
    have same : ran.pid = pid := carried.pid.trans number
    refine Placed.settle (same.symm ▸ stored) ?_ (carried.holdList.trans free)
    exact get?_store_self (same.symm ▸ found)
  | collect => exact h.congr rfl (fun _ => rfl) fun _ live => live
  | complete => exact (h.also _).completeExternal _
  | settleCall => exact h.congr rfl (fun _ => rfl) fun _ live => live
  | signal => exact h.signalEvent
  | halt halted => exact h.halt halted
  | release released => exact h.release released
  | @retire s _ _ pid ex found result reason =>
    exact Placed.retire (h.also _)
  | deschedule pid =>
    dsimp only [Scheduler.deschedule]
    split
    · exact h
    · next ex _ => exact (h.also ex.pid).remove
  | request => exact h.register
  | resolve => exact h.resolve
  | wake first => exact h.wake first
  | takeExits => exact h.congr rfl (fun _ => rfl) fun _ live => live

/-- In every reachable state the hold lists are in order. -/
theorem Reachable.placed {config : SchedulerConfig} {engine : Option Engine} {s : Scheduler}
    (reached : Reachable config engine s) : Placed [] s := by
  refine reached.keeps (P := fun m => Placed m.away m.state) (.empty config engine) ?_ ?_
  · exact fun m entries m' numbers move h => move.placed numbers h
  · intro s pid edit ex found h
    obtain ⟨seat, number⟩ := edit.seat_apply ex
    exact h.store_of_get? (pid_of_get? found ▸ found) number seat

end ScriptScheduler
