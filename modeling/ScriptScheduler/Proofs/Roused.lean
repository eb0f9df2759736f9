import ScriptScheduler.Proofs.Links

/-!
# Ready scripts are awake

In every reachable state the scripts in the ready queue are live and none of them has a timer
(`Reachable.roused`). A script comes into the queue when it is launched, when it is made ready,
which takes it out of its hold list, and when it is preempted. It leaves the queue before it is put
to sleep and when it is removed.
-/

namespace ScriptScheduler

/-- Making a revived script ready sets no timer. -/
theorem Thread.timer_freed {t : Thread} (awake : t.timer = none) : t.freed.timer = none := by
  unfold freed
  split
  · exact awake
  · rfl

/-- Whoever is left by a removed script has no timer if it had none or becomes ready. -/
theorem Executor.timer_bereft {ex gone : Executor}
    (awake : ex.thread.timer = none ∨
      (gone.parent = some ex.pid ∧ ex.child = some gone.pid) ∧
        ex.thread.holdList.isFixed = false) : (ex.bereft gone).thread.timer = none := by
  rw [thread_bereft]
  rcases awake with awake | ⟨heir, loose⟩
  · split
    · exact Thread.timer_freed awake
    · exact awake
  · have moved : ex.thread.revive.holdList.isFixed = false := loose
    rw [if_pos heir]
    unfold Thread.freed
    rw [moved]
    rfl

namespace Scheduler

variable {s s' : Scheduler} {pid : Pid} {ex new gone : Executor}

/-- Whether a script is live and has no timer. -/
def isAwake (s : Scheduler) (pid : Pid) : Bool :=
  (s.get? pid).any fun ex => ex.thread.timer.isNone

/-- A live script without a timer is awake. -/
theorem isAwake_of_get? (found : s.get? pid = some ex) :
    s.isAwake pid = true ↔ ex.thread.timer = none := by
  unfold isAwake
  rw [found]
  exact Option.isNone_iff_eq_none

/-- Whoever is awake is live and has no timer. -/
theorem get?_of_isAwake (awake : s.isAwake pid = true) :
    ∃ ex, s.get? pid = some ex ∧ ex.thread.timer = none := by
  cases found : s.get? pid with
  | none =>
    unfold isAwake at awake
    rw [found] at awake
    exact absurd awake (by simp)
  | some ex => exact ⟨ex, rfl, (isAwake_of_get? found).mp awake⟩

/-- All scripts in the ready queue are awake. -/
def Roused (s : Scheduler) : Prop := ∀ pid ∈ s.ready, s.isAwake pid = true

namespace Roused

/-- A scheduler without scripts has an empty queue. -/
theorem empty (config : SchedulerConfig) (engine : Option Engine) :
    (Scheduler.empty config engine).Roused :=
  fun _ mem => absurd mem (by simp [Scheduler.empty])

/-- A sleeper is not ready. -/
theorem not_mem_of_timer (h : s.Roused) (found : s.get? pid = some ex)
    (asleep : ex.thread.timer ≠ none) : pid ∉ s.ready :=
  fun mem => asleep ((isAwake_of_get? found).mp (h pid mem))

/-- A script that is not live is not ready. -/
theorem not_mem_of_not_live (h : s.Roused) (dead : s.get? pid = none) : pid ∉ s.ready := by
  intro mem
  obtain ⟨ex, found, -⟩ := get?_of_isAwake (h pid mem)
  rw [dead] at found
  exact absurd found (by simp)

/-- The ready scripts stay awake if the queue gets no longer and no thread in it gets a timer. -/
theorem congr (h : s.Roused) (fewer : s'.ready ⊆ s.ready)
    (same : ∀ pid ∈ s'.ready, s'.get? pid = s.get? pid) : s'.Roused := by
  intro pid mem
  unfold isAwake
  rw [same pid mem]
  exact h pid (fewer mem)

/-- When a script has changed, only the script itself need be looked at. -/
theorem altered (h : s.Roused) (alters : Alters pid s s')
    (own : pid ∈ s'.ready → s'.isAwake pid = true) : s'.Roused := by
  intro other mem
  by_cases same : other = pid
  · exact same ▸ own (same ▸ mem)
  · have kept : other ∈ s'.ready.filter fun other => other ≠ pid :=
      List.mem_filter.mpr ⟨mem, by simpa using same⟩
    rw [alters.ready] at kept
    unfold isAwake
    rw [alters.others other same]
    exact h other (List.mem_filter.mp kept).1

/-- When a script has left, its parent may be ready in addition. -/
theorem departed (h : s.Roused) (departs : Departs s gone s')
    (apart : gone.parent ≠ some gone.pid) : s'.Roused := by
  have stays : ∀ pid ∈ s.ready.filter fun other => other ≠ gone.pid, s'.isAwake pid = true := by
    intro pid mem
    obtain ⟨mem, ne⟩ := List.mem_filter.mp mem
    have ne : pid ≠ gone.pid := of_decide_eq_true ne
    obtain ⟨ex, found, awake⟩ := get?_of_isAwake (h pid mem)
    have left := departs.get?_of_ne ne
    rw [found] at left
    exact (isAwake_of_get? left).mpr (Executor.timer_bereft (.inl awake))
  intro pid mem
  rw [departs.ready apart] at mem
  cases heir : s.heir? gone with
  | none =>
    rw [heir] at mem
    exact stays pid mem
  | some parent =>
    rw [heir] at mem
    rcases List.mem_append.mp mem with mem | last
    · exact stays pid (List.mem_filter.mp mem).1
    · obtain rfl := List.mem_singleton.mp last
      -- the parent is awake because the end of its child has just revived it
      obtain ⟨link, isHeir⟩ := Option.filter_eq_some_iff.mp heir
      have ne : pid ≠ gone.pid := fun same => apart (same ▸ link)
      have left := departs.get?_of_ne ne
      unfold Scheduler.isHeir at isHeir
      cases found : s.get? pid with
      | none =>
        rw [found] at isHeir
        exact absurd isHeir (by simp)
      | some ex =>
        rw [found] at isHeir left
        obtain ⟨child, loose⟩ := Bool.and_eq_true_iff.mp isHeir
        have linked : gone.parent = some ex.pid := pid_of_get? found ▸ link
        refine (isAwake_of_get? left).mpr (Executor.timer_bereft (.inr ⟨⟨linked, ?_⟩, ?_⟩))
        · exact of_decide_eq_true child
        · simpa using loose

/-! ### Placement -/

/-- A script is stored anew that gets no timer. -/
theorem store (h : s.Roused) (found : s.get? pid = some ex) (number : new.pid = pid)
    (awake : ex.thread.timer = none → new.thread.timer = none) : (s.store new).Roused := by
  intro other mem
  by_cases same : other = pid
  · subst same
    have was := (isAwake_of_get? found).mp (h other mem)
    exact (isAwake_of_get? (get?_store found number)).mpr (awake was)
  · unfold isAwake
    rw [get?_store_of_ne (number.symm ▸ same)]
    exact h other mem

/-- A script is changed that gets no timer. -/
theorem modify {f : Executor → Executor} (h : s.Roused)
    (keeps : ∀ ex, ex.pid = pid → (f ex).pid = pid)
    (awake : ∀ ex, ex.thread.timer = none → (f ex).thread.timer = none) :
    (s.modify pid f).Roused := by
  intro other mem
  obtain ⟨ex, found, none⟩ := get?_of_isAwake (h other mem)
  by_cases same : other = pid
  · subst same
    have changed : (s.modify other f).get? other = some (f ex) := by
      rw [get?_modify_self keeps, found]
      rfl
    exact (isAwake_of_get? changed).mpr (awake ex none)
  · unfold isAwake
    rw [get?_modify_of_ne keeps same]
    exact h other mem

/-- A detached script is not ready. -/
theorem not_mem_detach (h : s.Roused) (pid : Pid) : pid ∉ (s.detach pid).ready :=
  not_mem_ready_detach h.not_mem_of_not_live

/-- A script may leave its place. -/
theorem detach (h : s.Roused) (pid : Pid) : (s.detach pid).Roused :=
  h.altered .detach fun mem => absurd mem (h.not_mem_detach pid)

/-- A live script without a timer may be put at the end of the queue. -/
theorem enqueue (h : s.Roused) (awake : s.isAwake pid = true) : (s.enqueue pid).Roused :=
  h.altered .enqueue fun _ => awake

/-- A script that is made ready has no timer. -/
theorem schedule (h : s.Roused) (pid : Pid) : (s.schedule pid).Roused := by
  unfold Scheduler.schedule isMovable
  cases found : s.get? pid with
  | none => exact h
  | some ex =>
    dsimp only
    split
    · have detached := get?_detach_self s pid
      rw [found] at detached
      exact (h.detach pid).enqueue ((isAwake_of_get? detached).mpr rfl)
    · exact h

/-- A script that is put to sleep is not ready. -/
theorem hold (h : s.Roused) (pid : Pid) : (s.hold pid).Roused := by
  cases found : s.get? pid with
  | none =>
    have same : s.hold pid = s := by simp [Scheduler.hold, found]
    rwa [same]
  | some ex =>
    by_cases fixed : ex.thread.holdList.isFixed = true
    · have same : s.hold pid = s := by simp [Scheduler.hold, found, fixed]
      rwa [same]
    · refine h.altered .hold fun mem => absurd mem ?_
      unfold Scheduler.hold
      rw [found]
      dsimp only
      rw [if_neg fixed]
      split
      · exact h.not_mem_detach pid
      · exact h.not_mem_detach pid

/-- A script that is parked for the debugger gets no timer. -/
theorem parkDebugger (h : s.Roused) (pid : Pid) : (s.parkDebugger pid).Roused :=
  h.modify (f := fun ex => ex.mapThread fun t => { t with holdList := .debugger })
    (fun _ same => same) fun _ awake => awake

/-- A script that is handed to the engine is not ready. -/
theorem parkExternal (h : s.Roused) (pid : Pid) : (s.parkExternal pid).Roused :=
  h.altered .parkExternal fun mem => absurd mem (h.not_mem_detach pid)

/-! ### Removal and engine calls -/

/-- A script that is retired leaves the queue. -/
theorem retire (h : s.Roused) (linked : Linked s) (found : s.get? gone.pid = some ex)
    (kin : gone.kin = ex.kin) (reason : ExitReason) : (s.retire gone reason).value.2.Roused := by
  have known : s.kin? gone.pid = some gone.kin := by
    unfold kin?
    rw [found, kin]
    rfl
  have departs := Departs.of_retire gone rfl (.of_same (fun _ => rfl) rfl) known rfl reason
  exact h.departed departs (linked.fatherless departs)

/-- An engine script whose call is done leaves the queue. -/
theorem completeExternal (h : s.Roused) (linked : Linked s) (pid : Pid) (value : Val) :
    (s.completeExternal pid value).value.2.Roused := by
  cases found : s.get? pid with
  | none => rwa [completeExternal_of_not_live found]
  | some ex =>
    have departs := Departs.completeExternal (.of_same (fun _ => rfl) rfl) rfl found value
    exact h.departed departs (linked.fatherless departs)

/-- A script that goes to the engine leaves the queue. -/
theorem runExternal (h : s.Roused) (linked : Linked s) (pid : Pid) :
    (s.runExternal pid).value.2.Roused := by
  let parked : Scheduler :=
    { s.parkExternal pid with issued := (s.parkExternal pid).issued + 1 }
  have parked_roused : parked.Roused := h.parkExternal pid
  have parked_linked : Linked parked :=
    (linked.altered .parkExternal).congr (fun _ => rfl) fun _ => rfl
  unfold Scheduler.runExternal
  dsimp only
  split
  · exact parked_roused
  · next ex found =>
    have found : parked.get? pid = some ex := found
    have number : ex.pid = pid := pid_of_get? found
    split
    · exact parked_roused
    · next function _ =>
      let clear : Executor := { ex with stack := [] }
      have cleared : (parked.store clear).Roused :=
        parked_roused.store found number fun awake => awake
      have stored : (parked.store clear).get? pid = some clear := get?_store found number
      rcases invoke_state parked ex function (s.parkExternal pid).nextRequestId with
        ⟨value, eq⟩ | ⟨value, eq⟩ | ⟨settlement, eq⟩
      · rw [eq]
        exact parked_roused.completeExternal parked_linked ex.pid value
      · rw [eq]
        have alters : Alters pid parked (parked.store clear) := .store found number rfl
        exact cleared.completeExternal (parked_linked.altered alters) ex.pid value
      · rw [eq]
        refine cleared.store stored number fun awake => ?_
        exact (Executor.seat_setOutstanding _ _).2.trans awake

/-! ### Slices -/

/-- A script that has had its turn is put back into the queue without a timer, or it leaves the
queue. -/
theorem settle {outcome : SliceOutcome} (h : s.Roused) (linked : Linked s)
    (found : s.get? ex.pid = some ex) (awake : ex.thread.timer = none) :
    (s.settle ex outcome).value.2.Roused := by
  have ended : ∀ (result : Val) (reason : ExitReason),
      (s.retire { ex with result := some result } reason).value.2.Roused := by
    intro result reason
    have last : s.get? { ex with result := some result }.pid = some ex := found
    exact h.retire linked last rfl reason
  have after := settle_state s ex outcome
  cases outcome with
  | preempted => rw [after]; exact h.enqueue ((isAwake_of_get? found).mpr awake)
  | blocked => rw [after]; exact h.hold ex.pid
  | halted => rw [after]; exact h.parkDebugger ex.pid
  | external => rw [after]; exact h.runExternal linked ex.pid
  | finished => rw [after]; exact h.retire linked found rfl _
  | faulted | runaway =>
    obtain ⟨result, reason, eq⟩ := after
    rw [eq]
    exact ended result reason

/-! ### Requests and events -/

/-- A script that is answered has no timer if it becomes ready. -/
theorem resolve {request : Request} (h : s.Roused) (value : Option Val) :
    (s.resolve request value).value.Roused := by
  let taken : Scheduler := { s with requests := s.requests.take request }
  have taken_roused : taken.Roused := h
  cases found : s.get? request.pid with
  | none => rwa [resolve_of_not_live found]
  | some ex =>
    rw [resolve_eq found]
    let asking : Executor := { ex with requests := ex.requests.remove request.kind request.id }
    have live : taken.get? request.pid = some ex := found
    have own : ex.pid = request.pid := pid_of_get? found
    have number := (Alters.kin_answered asking (value.getD .sentinel)).2
    have seat := Executor.seat_answered asking (value.getD .sentinel)
    refine Roused.schedule (taken_roused.store live (number.trans own) ?_) _
    exact fun awake => (congrArg Seat.timer seat).trans awake

/-- Scripts that are told of aborts have no timer if they become ready. -/
theorem abortEach (ids : List RequestId) :
    ∀ {s : Scheduler}, s.Roused → (Scheduler.abortEach ids s).value.2.Roused := by
  induction ids with
  | nil => exact fun h => h
  | cons id rest ih =>
    intro s h
    refine ih (s := (s.abortRequest id).value.2) ?_
    unfold Scheduler.abortRequest
    split
    · exact h
    · exact h.resolve none

/-- A script that makes a request is not ready. -/
theorem register {entity : EntityId} {kind : RequestKind} {wake : Nat} {callback : Callback}
    (h : s.Roused) (pid : Pid) : (s.register pid entity kind wake callback).value.2.Roused := by
  have made := registered s pid entity kind wake callback
  generalize (s.register pid entity kind wake callback).value.1 = id at made
  generalize (s.register pid entity kind wake callback).value.2 = after at made ⊢
  cases made with
  | refused => exact h
  | @takenBack ex found =>
    have number : ex.pid = pid := pid_of_get? found
    exact h.store found number fun awake => awake
  | @asked ex holder table found =>
    let counted : Scheduler := { s with issued := s.issued + 1, requests := table }
    let asking : Executor := { (ex.suspend wake).openResultSlot with requests := holder }
    have counted_roused : counted.Roused := h
    have number : asking.pid = ex.pid := by
      unfold asking Executor.openResultSlot Executor.suspend
      split <;> split <;> rfl
    have seat : asking.seat = ex.seat :=
      (Executor.seat_openResultSlot _).trans (Executor.seat_suspend _ _)
    refine Roused.hold (counted_roused.store found (number.trans (pid_of_get? found)) ?_) pid
    exact fun awake => (congrArg Seat.timer seat).trans awake

/-- A sleeper that is woken has no timer. -/
theorem wake (h : s.Roused) (pid : Pid) : (s.wake pid).value.Roused := by
  unfold Scheduler.wake
  split
  · exact h
  · next ex found =>
    have number : ex.pid = pid := pid_of_get? found
    let up : Executor := { ex.mapThread Thread.detached with sleepCycles := ex.sleepCycles + 1 }
    have stored : (s.store up).Roused := h.store found number fun _ => rfl
    have revived : (s.store up.revive).Roused := h.store found number fun _ => rfl
    dsimp only
    split
    · exact revived.schedule pid
    · exact (stored.abortEach _).schedule pid

/-- A script that is sent an event has no timer if it becomes ready. -/
theorem signalEvent (h : s.Roused) (pid : Pid) (event : Val) :
    (s.signalEvent pid event).value.2.Roused := by
  unfold Scheduler.signalEvent
  split
  · exact h
  · next ex found =>
    have told : ∀ {delivery : Delivery} {ran : Executor},
        ex.signalEvent event = .ok (delivery, ran) → (s.store ran).Roused := by
      intro delivery ran delivered
      obtain ⟨seat, same⟩ := Executor.seat_signalEvent delivered
      exact h.store found (same.trans (pid_of_get? found))
        fun awake => (congrArg Seat.timer seat).trans awake
    split
    · next delivered => exact (told delivered).schedule pid
    · next delivered => exact told delivered
    · exact h

/-! ### Control -/

/-- A script that is halted is not ready. -/
theorem halt (h : s.Roused) (halted : s.halt pid = .ok s') : s'.Roused := by
  refine h.altered (.halt halted) fun mem => absurd mem ?_
  obtain ⟨-, -, -, rfl⟩ := halt_ok halted
  exact h.not_mem_detach pid

/-- A script that is released has no timer if it becomes ready. -/
theorem release (h : s.Roused) (released : s.release pid = .ok s') : s'.Roused := by
  have marked : (s.unhalted pid).Roused :=
    (h.detach pid).modify (fun _ same => same) fun _ awake => awake
  obtain ⟨-, ex, -, rfl⟩ := release_ok released
  split
  · exact marked.hold pid
  · exact marked.schedule pid

/-! ### Launching -/

/-- A new script is not in the queue yet. -/
theorem enroll {program : Program} {options : Options} (h : s.Roused) (numbers : s.Numbered)
    (prepared : s.prepare program options = .ok ex) : (s.enroll ex).value.Roused := by
  have new := numbers.get?_nextPid
  refine h.congr (fun _ mem => mem) fun pid mem => get?_enroll_of_ne ?_
  rintro rfl
  rw [pid_of_prepare prepared] at mem
  exact h.not_mem_of_not_live new mem

/-- A parent that waits for its child is not ready. -/
theorem awaitChild (h : s.Roused) (parent child : Pid) : (s.awaitChild parent child).Roused := by
  have linked : (s.modify child fun ex => { ex with parent := some parent }).Roused :=
    h.modify (fun _ same => same) fun _ awake => awake
  refine Roused.hold (linked.modify ?_ ?_) parent
  · intro ex same
    unfold Executor.suspend
    split <;> exact same
  · intro ex awake
    exact (congrArg Seat.timer (Executor.seat_suspend _ _)).trans awake

end Roused

end Scheduler

open Scheduler

/-- Moves keep ready scripts awake. -/
theorem Move.roused {m m' : Moment} {entries : List Entry} (move : Move m entries m')
    (sound : m.Sound) (linked : Linked m.state) (h : m.state.Roused) : m'.state.Roused := by
  cases move with
  | tell | tellEngine | skip | collect | settleCall | takeExits => exact h
  | @start s _ _ _ _ ex prepared =>
    have live : (s.enroll ex).value.get? ex.pid = some ex :=
      get?_enroll_self (get?_of_prepare sound.numbers prepared)
    exact (h.enroll sound.numbers prepared).enqueue
      ((isAwake_of_get? live).mpr (unheld_of_prepare prepared).2)
  | @startChild s _ _ parent program ran launched =>
    obtain ⟨waiting, child, found, -, prepared, eq⟩ := runScript_eq launched
    obtain ⟨self, -, -⟩ := get?_awaitChild sound.numbers prepared found
    dsimp only
    rw [eq]
    exact ((h.enroll sound.numbers prepared).awaitChild parent child.pid).enqueue
      ((isAwake_of_get? self).mpr (unheld_of_prepare prepared).2)
  | startAway prepared => exact h.enroll sound.numbers prepared
  | takeBatch => exact fun pid mem => absurd mem List.not_mem_nil
  | @turn s _ _ pid ex ran outcome _ found free runs =>
    obtain ⟨now, slice⟩ := runs.slice
    have carried := slice.carries
    have number : ran.pid = pid := carried.pid.trans (pid_of_get? found)
    have kin : ran.kin = ex.kin := Prod.ext carried.parent carried.child
    -- who has a turn is on no list and so has no timer that could fire
    have seat : s.seat pid = .free := sound.placed.free_of_list (by
      rw [seat_of_get? found]
      exact free)
    have untimed : ex.thread.timer = none := by
      rw [seat_of_get? found] at seat
      exact congrArg Seat.timer seat
    have awake : ran.thread.timer = none := carried.timer.trans untimed
    subst number
    exact (h.store found rfl fun _ => awake).settle (linked.altered (.store found rfl kin))
      (get?_store found rfl) awake
  | complete => exact h.completeExternal linked _ _
  | signal pid event => exact h.signalEvent pid event
  | halt halted => exact h.halt halted
  | release released => exact h.release released
  | @retire s _ _ pid ex found result reason =>
    exact h.departed (.retire found result reason) (linked.fatherless (.retire found result reason))
  | @deschedule s _ _ pid =>
    dsimp only [Scheduler.deschedule]
    split
    · exact h
    · next ex found =>
      have departs : Departs s ex (s.remove ex).value.2 :=
        .handedBack (pid_of_get? found ▸ found)
      exact h.departed departs (linked.fatherless departs)
  | request pid => exact h.register pid
  | resolve _ value => exact h.resolve value
  | @wake s _ _ _ _ pid rest =>
    have taken : { s with timeouts := rest }.Roused := h
    exact taken.wake pid

/-- In every reachable state the ready scripts are awake. -/
theorem Reachable.roused {config : SchedulerConfig} {engine : Option Engine} {s : Scheduler}
    (reached : Reachable config engine s) : s.Roused := by
  refine (reached.keeps (P := fun m => m.Sound ∧ Linked m.state ∧ m.state.Roused)
    ⟨Reachable.empty.sound, .empty config engine, .empty config engine⟩ ?_ ?_).2.2
  · rintro m entries m' - move ⟨sound, linked, h⟩
    exact ⟨move.sound sound, linked.shift sound.numbers (move.shift sound.numbers sound.indexed),
      move.roused sound linked h⟩
  · rintro s pid edit ex found ⟨sound, linked, h⟩
    obtain ⟨seat, number⟩ := edit.seat_apply ex
    refine ⟨sound.edit found edit, ?_, ?_⟩
    · exact linked.altered (.store found (number.trans (pid_of_get? found)) (edit.kin_apply ex))
    · exact h.store found (number.trans (pid_of_get? found))
        fun awake => (congrArg Seat.timer seat).trans awake

end ScriptScheduler
