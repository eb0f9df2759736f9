import ScriptScheduler.Proofs.Placement
import ScriptScheduler.Proofs.RequestTable

/-!
# The three views of the pending requests

A pending request is in the table, in the holder of the entity that is asked and in the holder of
the script that asks. `Indexed` says that the three agree: the table is consistent and every live
script has the holder of its pending requests. Every move keeps it, whether or not numbers of
requests have been used again.
-/

namespace ScriptScheduler

namespace Scheduler

variable {s s' : Scheduler} {pid : Pid} {ex : Executor} {f : Executor → Executor}

/-! ### The holders of scripts -/

/-- The holder of a live script, and an empty one for a script that is not live. -/
def holderOf (s : Scheduler) (pid : Pid) : Holder :=
  ((s.get? pid).map Executor.requests).getD .empty

/-- The pending requests of a script. -/
def ownedBy (s : Scheduler) (pid : Pid) : List Request :=
  s.requests.pending.filter fun r => r.pid = pid

/-- The holder of a live script is its own. -/
theorem holderOf_of_get? (found : s.get? pid = some ex) : s.holderOf pid = ex.requests := by
  simp [holderOf, found]

/-- A script that is not live holds nothing. -/
theorem holderOf_of_not_live (gone : s.get? pid = none) : s.holderOf pid = .empty := by
  simp [holderOf, gone]

/-- Changes of threads do not change holders. -/
theorem Rethreads.holderOf (h : Rethreads s s') (pid : Pid) : s'.holderOf pid = s.holderOf pid := by
  unfold Scheduler.holderOf
  rw [h.view fun _ _ => rfl]

/-- A change of a script that keeps its holder keeps all holders. -/
theorem holderOf_modify (keeps : ∀ ex, ex.pid = pid → (f ex).pid = pid)
    (same : ∀ ex, s.get? pid = some ex → (f ex).requests = ex.requests) (other : Pid) :
    (s.modify pid f).holderOf other = s.holderOf other := by
  unfold holderOf
  rw [get?_modify keeps]
  split
  · next eq =>
    subst eq
    cases found : s.get? other with
    | none => rfl
    | some ex => exact same ex found
  · rfl

/-- A new version of a live script with the same holder keeps all holders. -/
theorem holderOf_store {new : Executor} (found : s.get? ex.pid = some ex)
    (number : new.pid = ex.pid) (same : new.requests = ex.requests) (other : Pid) :
    (s.store new).holderOf other = s.holderOf other := by
  refine holderOf_modify (fun _ _ => rfl) ?_ other
  intro old live
  rw [number, found] at live
  rw [same, Option.some.inj live]

/-- The table is consistent and every script has the holder of its pending requests. -/
structure Indexed (s : Scheduler) : Prop where
  table : s.requests.Consistent
  owners : ∀ pid, s.holderOf pid = .ofRequests (s.ownedBy pid)

namespace Indexed

/-- A scheduler without scripts has no requests. -/
theorem empty (config : SchedulerConfig) (engine : Option Engine) :
    Indexed (.empty config engine) :=
  ⟨.empty, fun _ => rfl⟩

/-- The agreement of the views hangs on the table and the holders alone. -/
theorem congr (h : Indexed s) (requests : s'.requests = s.requests)
    (holders : ∀ pid, s'.holderOf pid = s.holderOf pid) : Indexed s' where
  table := requests ▸ h.table
  owners pid := by
    unfold ownedBy
    rw [holders, requests, h.owners]
    rfl

/-- The owner of a pending request is live. -/
theorem live (h : Indexed s) {request : Request} (pending : request ∈ s.requests.pending) :
    (s.get? request.pid).isSome = true := by
  have owned : request ∈ s.ownedBy request.pid := List.mem_filter.mpr ⟨pending, by simp⟩
  cases found : s.get? request.pid with
  | some ex => rfl
  | none =>
    have holder := h.owners request.pid
    rw [holderOf_of_not_live found] at holder
    have mem : request.id ∈ (Holder.ofRequests (s.ownedBy request.pid)).ids :=
      Holder.mem_ids_ofRequests.mpr ⟨request, owned, rfl⟩
    rw [← holder] at mem
    exact absurd mem (by simp [Holder.ids, Holder.empty])

/-- A change of threads keeps the views in agreement. -/
theorem rethreads (h : Indexed s) (threads : Rethreads s s')
    (requests : s'.requests = s.requests) : Indexed s' :=
  h.congr requests threads.holderOf

/-! ### Removal -/

/-- A parent that gets the result of its child. -/
theorem resumeParent {parent child : Pid} {result : Val} (h : Indexed s) :
    Indexed (s.resumeParent parent child result) := by
  unfold Scheduler.resumeParent
  split
  · exact h
  · next ex found =>
    have live : s.get? ex.pid = some ex := pid_of_get? found ▸ found
    split
    · have stored : Indexed
          (s.store ({ ex with child := none }.setResultSlot result).revive) :=
        h.congr rfl (holderOf_store live rfl rfl)
      exact stored.rethreads rethreads_schedule (requests_of_aside (by simp))
    · exact h

/-- A parent that is told about the end of its child. -/
theorem notifyParent (h : Indexed s) : Indexed (s.notifyParent ex) := by
  unfold Scheduler.notifyParent
  split
  · exact h
  · exact h.resumeParent

/-- A child whose parent is removed. -/
theorem orphan {child : Option Pid} (h : Indexed s) : Indexed (s.orphan child) := by
  unfold Scheduler.orphan
  split
  · exact h
  · exact h.congr rfl (holderOf_modify (fun _ same => same) fun _ _ => rfl)

/-- The requests of a removed script are gone with it. -/
theorem remove (h : Indexed s) (holder : s.holderOf ex.pid = ex.requests) :
    Indexed (s.remove ex).value.2 := by
  obtain ⟨consistent, pending⟩ := h.table.dropFromTable ex.requests.ids
  rw [remove_state]
  refine Indexed.notifyParent (Indexed.orphan ⟨consistent, ?_⟩)
  intro other
  -- exactly the requests of the script have been dropped
  have dropped : ∀ r ∈ s.requests.pending, r.id ∈ ex.requests.ids ↔ r.pid = ex.pid := by
    intro r mem
    rw [← holder, h.owners, Holder.mem_ids_ofRequests]
    constructor
    · rintro ⟨other, owned, same⟩
      obtain ⟨also, own⟩ := List.mem_filter.mp owned
      rw [← Holder.eq_of_id h.table.nodup also mem same]
      simpa using own
    · exact fun own => ⟨r, List.mem_filter.mpr ⟨mem, by simpa using own⟩, rfl⟩
  have owned : List.filter (fun r => r.pid = other)
      (dropFromTable ex.requests.ids s.requests).pending =
      if other = ex.pid then [] else s.ownedBy other := by
    rw [pending, List.filter_filter]
    split
    · next same =>
      rw [List.filter_eq_nil_iff]
      intro r mem
      have := dropped r mem
      rw [same]
      simp_all
    · next ne =>
      refine List.filter_congr ?_
      intro r mem
      have := dropped r mem
      by_cases own : r.pid = other
      · have kept : ¬ r.id ∈ ex.requests.ids := fun drop => ne (own ▸ this.mp drop)
        simp [own, kept]
      · simp [own]
  unfold ownedBy
  change _ = Holder.ofRequests (List.filter (fun r => r.pid = other)
    (dropFromTable ex.requests.ids s.requests).pending)
  rw [owned]
  split
  · next same =>
    rw [same]
    exact holderOf_of_not_live get?_erase_self
  · next ne =>
    have kept : ((s.detach ex.pid).erase ex.pid).holderOf other =
        (s.detach ex.pid).holderOf other := by
      unfold holderOf
      rw [get?_erase_of_ne ne]
    rw [← h.owners]
    exact kept.trans (rethreads_detach.holderOf other)

/-- The requests of a retired script are gone with it. -/
theorem retire {reason : ExitReason} (h : Indexed s) (holder : s.holderOf ex.pid = ex.requests) :
    Indexed (s.retire ex reason).value.2 := by
  rw [retire_state]
  exact (h.remove holder).congr rfl fun _ => rfl

/-! ### Engine calls -/

/-- The requests of an engine script whose call is done are gone with it. -/
theorem completeExternal (h : Indexed s) (value : Val) :
    Indexed (s.completeExternal pid value).value.2 := by
  unfold Scheduler.completeExternal
  cases found : s.get? pid with
  | none => exact h
  | some ex =>
    have number : ex.pid = pid := pid_of_get? found
    have live : s.get? ex.pid = some ex := number.symm ▸ found
    have stored : Indexed (s.store (ex.finishEngine value)) :=
      h.congr rfl (holderOf_store live rfl rfl)
    have done : Indexed
        { s.store (ex.finishEngine value) with external := s.external.erase pid } :=
      stored.congr rfl fun _ => rfl
    have holder : (s.store (ex.finishEngine value)).holderOf ex.pid = ex.requests := by
      have same : ∀ pid, (s.store (ex.finishEngine value)).holderOf pid = s.holderOf pid :=
        holderOf_store live rfl rfl
      rw [same, holderOf_of_get? live]
    exact done.retire holder

/-- A call of the engine keeps the views in agreement. -/
theorem invoke {function : FunctionRef} {id : RequestId} (h : Indexed s)
    (found : s.get? ex.pid = some ex) : Indexed (s.invoke ex function id).value.2 := by
  have cleared : Indexed (s.store { ex with stack := [] }) :=
    h.congr rfl (holderOf_store found rfl rfl)
  rcases invoke_state s ex function id with ⟨value, eq⟩ | ⟨value, eq⟩ | ⟨settlement, eq⟩
  · rw [eq]
    exact h.completeExternal value
  · rw [eq]
    exact cleared.completeExternal value
  · rw [eq]
    let clear : Executor := { ex with stack := [] }
    have live : (s.store clear).get? clear.pid = some clear := get?_store_self found
    exact cleared.congr rfl (holderOf_store live rfl rfl)

/-- A script that goes to the engine keeps the views in agreement. -/
theorem runExternal (h : Indexed s) : Indexed (s.runExternal pid).value.2 := by
  have parked : Indexed { s.parkExternal pid with issued := (s.parkExternal pid).issued + 1 } :=
    (h.rethreads rethreads_parkExternal (requests_of_aside (by simp))).congr rfl fun _ => rfl
  unfold Scheduler.runExternal
  dsimp only
  split
  · exact parked
  · next ex found =>
    split
    · exact parked
    · exact parked.invoke (pid_of_get? found ▸ found)

/-! ### Slices -/

/-- A script that has had its turn keeps the views in agreement. -/
theorem settle {outcome : SliceOutcome} (h : Indexed s) (found : s.get? ex.pid = some ex) :
    Indexed (s.settle ex outcome).value.2 := by
  have holder : s.holderOf ex.pid = ex.requests := holderOf_of_get? found
  have after := settle_state s ex outcome
  cases outcome with
  | preempted => rw [after]; exact h.congr rfl fun _ => rfl
  | blocked =>
    rw [after]
    exact h.rethreads rethreads_hold (requests_of_aside (by simp))
  | halted =>
    rw [after]
    exact h.rethreads rethreads_parkDebugger (requests_of_aside (by simp))
  | external => rw [after]; exact h.runExternal
  | finished => rw [after]; exact h.retire holder
  | faulted cause =>
    obtain ⟨result, reason, eq⟩ := after
    rw [eq]
    exact h.retire holder
  | runaway =>
    obtain ⟨result, reason, eq⟩ := after
    rw [eq]
    exact h.retire holder

/-! ### Requests -/

/-- A request that is resolved leaves all three views. -/
theorem resolve {request : Request} {value : Option Val} (h : Indexed s)
    (mem : request ∈ s.requests.pending) : Indexed (s.resolve request value).value := by
  obtain ⟨consistent, pending⟩ := h.table.take mem
  obtain ⟨ex, found⟩ := Option.isSome_iff_exists.mp (h.live mem)
  have number : ex.pid = request.pid := pid_of_get? found
  have owned : request ∈ s.ownedBy request.pid := List.mem_filter.mpr ⟨mem, by simp⟩
  have nodup : ((s.ownedBy request.pid).map Request.id).Nodup :=
    h.table.nodup.sublist ((List.filter_sublist ..).map _)
  have left : ex.requests.remove request.kind request.id =
      .ofRequests ((s.ownedBy request.pid).filter fun r => r.id ≠ request.id) := by
    rw [← holderOf_of_get? found, h.owners, Holder.remove_ofRequests nodup owned]
  let answered := { ex with
    requests := ex.requests.remove request.kind request.id }.answered (value.getD .sentinel)
  have same : answered.pid = ex.pid ∧
      answered.requests = ex.requests.remove request.kind request.id := by
    unfold answered Executor.answered
    split <;> exact ⟨rfl, rfl⟩
  rw [resolve_eq found]
  change Indexed (({ s with requests := s.requests.take request }.store answered).schedule
    request.pid)
  refine rethreads ?_ rethreads_schedule (requests_of_aside (by simp))
  refine ⟨consistent, ?_⟩
  intro other
  have taken : ({ s with requests := s.requests.take request }.store answered).ownedBy other =
      (s.ownedBy other).filter fun r => r.id ≠ request.id := by
    change ((s.requests.take request).pending.filter fun r => r.pid = other) = _
    rw [pending]
    unfold ownedBy
    rw [List.filter_filter, List.filter_filter]
    refine List.filter_congr ?_
    intro r _
    rw [Bool.and_comm]
  rw [taken]
  -- the request leaves the list of its owner, and no other list has it
  by_cases asked : other = request.pid
  · subst asked
    have stored := get?_store_self (s := { s with requests := s.requests.take request })
      (by rw [same.1, number]; exact found)
    rw [same.1, number] at stored
    rw [holderOf_of_get? stored, same.2, left]
  · have kept : ({ s with requests := s.requests.take request }.store answered).holderOf other =
        s.holderOf other := by
      unfold holderOf
      rw [get?_store_of_ne (by rw [same.1, number]; exact asked)]
      rfl
    rw [kept, h.owners]
    congr 1
    refine (List.filter_eq_self.mpr ?_).symm
    intro r live
    -- a request of another script has another number
    obtain ⟨live, own⟩ := List.mem_filter.mp live
    have apart : r.id ≠ request.id := by
      intro eq
      rw [Holder.eq_of_id h.table.nodup live mem eq] at own
      exact asked (of_decide_eq_true own).symm
    simpa using apart

/-- Aborted requests leave all three views. -/
theorem abortEach (ids : List RequestId) :
    ∀ {s : Scheduler}, Indexed s → Indexed (abortEach ids s).value.2 := by
  induction ids with
  | nil => exact fun h => h
  | cons id rest ih =>
    intro s h
    refine ih (s := (s.abortRequest id).value.2) ?_
    unfold Scheduler.abortRequest
    split
    · exact h
    · next request pending =>
      have found := RequestTable.get?_of_unhandled? pending
      exact h.resolve (RequestTable.mem_of_get? found).1

/-- A request that is made enters all three views, or none if it is taken back. -/
theorem register {entity : EntityId} {kind : RequestKind} {wake : Nat} {callback : Callback}
    (h : Indexed s) : Indexed (s.register pid entity kind wake callback).value.2 := by
  have made := registered s pid entity kind wake callback
  generalize (s.register pid entity kind wake callback).value.1 = id at made
  generalize (s.register pid entity kind wake callback).value.2 = after at made ⊢
  cases made with
  | refused => exact h
  | @takenBack ex found =>
    have counted : Indexed { s with issued := s.issued + 1 } := h.congr rfl fun _ => rfl
    have live : s.get? ex.pid = some ex := pid_of_get? found ▸ found
    exact counted.congr rfl (holderOf_store (s := { s with issued := s.issued + 1 }) live rfl rfl)
  | @asked ex holder table found able added inserted =>
    have number : ex.pid = pid := pid_of_get? found
    have live : s.get? ex.pid = some ex := number.symm ▸ found
    obtain ⟨consistent, pending, -⟩ := h.table.insert? inserted rfl
    refine rethreads ?_ rethreads_hold (requests_of_aside (by simp))
    refine ⟨consistent, ?_⟩
    intro other
    -- the holder of the script and the table grow by the same request
    let asking := { (ex.suspend wake).openResultSlot with requests := holder }
    let tabled := { s with issued := s.issued + 1, requests := table }
    have same : asking.pid = ex.pid := by
      unfold asking Executor.openResultSlot Executor.suspend
      split <;> split <;> rfl
    have owned : (tabled.store asking).ownedBy other =
        s.ownedBy other ++ if pid = other
          then [{ id := s.nextRequestId, pid, entity, kind, callback }] else [] := by
      change (table.pending.filter fun r => r.pid = other) = _
      rw [pending, List.filter_append]
      congr 1
      by_cases eq : pid = other <;> simp [eq]
    change (tabled.store asking).holderOf other = _
    change _ = Holder.ofRequests ((tabled.store asking).ownedBy other)
    rw [owned]
    by_cases asked : pid = other
    · subst asked
      rw [if_pos rfl]
      have stored := get?_store_self (s := tabled)
        (by rw [same]; exact live)
      rw [same, number] at stored
      rw [holderOf_of_get? stored]
      rw [← holderOf_of_get? found, h.owners] at added
      exact (Holder.add?_ofRequests added).1
    · rw [if_neg asked, List.append_nil, ← h.owners]
      unfold holderOf
      rw [get?_store_of_ne (by rw [same, number]; exact Ne.symm asked)]
      rfl

/-! ### Waking, launching and control -/

/-- The requests of a sleeper that is woken leave all three views. -/
theorem wake (h : Indexed s) : Indexed (s.wake pid).value := by
  unfold Scheduler.wake
  cases found : s.get? pid with
  | none => exact h
  | some ex =>
    have live : s.get? ex.pid = some ex := pid_of_get? found ▸ found
    dsimp only
    split
    · have woken : Indexed (s.store (Executor.revive
          { ex.mapThread Thread.detached with sleepCycles := ex.sleepCycles + 1 })) :=
        h.congr rfl (holderOf_store live rfl rfl)
      exact woken.rethreads rethreads_schedule (requests_of_aside (by simp))
    · have woken : Indexed (s.store
          { ex.mapThread Thread.detached with sleepCycles := ex.sleepCycles + 1 }) :=
        h.congr rfl (holderOf_store live rfl rfl)
      exact (woken.abortEach _).rethreads rethreads_schedule (requests_of_aside (by simp))

/-- A new script has no requests. -/
theorem enroll (h : Indexed s) (new : s.get? ex.pid = none) (unasked : ex.requests = .empty) :
    Indexed (s.enroll ex).value := by
  refine h.congr rfl ?_
  intro other
  by_cases same : other = ex.pid
  · rw [same, holderOf_of_get? (get?_enroll_self new), holderOf_of_not_live new, unasked]
  · unfold holderOf
    rw [get?_enroll_of_ne same]

/-- A launched script has no requests. -/
theorem start {program : Program} {options : Options} (h : Indexed s) (numbers : s.Numbered)
    (prepared : s.prepare program options = .ok ex) : Indexed (s.enroll ex).value := by
  refine h.enroll (pid_of_prepare prepared ▸ numbers.get?_nextPid) ?_
  obtain ⟨runtime, thread, -, rfl⟩ := prepare_eq prepared
  rfl

/-- A parent that waits for its child keeps its requests. -/
theorem awaitChild {parent child : Pid} (h : Indexed s) : Indexed (s.awaitChild parent child) := by
  have linked : Indexed (s.modify child fun ex => { ex with parent := some parent }) :=
    h.congr rfl (holderOf_modify (fun _ same => same) fun _ _ => rfl)
  have waits : Indexed ((s.modify child fun ex => { ex with parent := some parent }).modify parent
      fun ex => ({ ex with child := some child }.push .sentinel).suspend Clock.never) := by
    refine linked.congr rfl (holderOf_modify ?_ ?_)
    · intro ex same
      unfold Executor.suspend
      split <;> exact same
    · intro ex _
      unfold Executor.suspend
      split <;> rfl
  exact waits.rethreads rethreads_hold (requests_of_aside aside_hold)

/-- An event has nothing to do with requests. -/
theorem signalEvent {event : Val} (h : Indexed s) : Indexed (s.signalEvent pid event).value.2 := by
  have keeps : ∀ {ex ran : Executor} {delivery : Delivery},
      ex.signalEvent event = .ok (delivery, ran) → ran.requests = ex.requests := by
    intro ex ran delivery delivered
    unfold Executor.signalEvent at delivered
    split at delivered
    · obtain ⟨-, rfl⟩ := Prod.mk.inj (Except.ok.inj delivered)
      rfl
    · split at delivered
      · obtain ⟨-, rfl⟩ := Prod.mk.inj (Except.ok.inj delivered)
        rfl
      · exact absurd delivered (by simp)
  unfold Scheduler.signalEvent
  split
  · exact h
  · next ex found =>
    have live : s.get? ex.pid = some ex := pid_of_get? found ▸ found
    split
    · next ran delivered =>
      have stored : Indexed (s.store ran) := h.congr rfl (holderOf_store live
        (Executor.seat_signalEvent delivered).2 (keeps delivered))
      exact stored.rethreads rethreads_schedule (requests_of_aside (by simp))
    · next ran delivered =>
      have number := (Executor.seat_signalEvent delivered).2
      exact h.congr rfl (holderOf_store live number (keeps delivered))
    · exact h

/-- Halting a script has nothing to do with requests. -/
theorem halt (h : Indexed s) (halted : s.halt pid = .ok s') : Indexed s' := by
  have detached : Indexed (s.detach pid) :=
    h.rethreads rethreads_detach (requests_of_aside (by simp))
  have marked : Indexed ((s.detach pid).modify pid fun ex => { ex with halted := true }) :=
    detached.congr rfl (holderOf_modify (fun _ same => same) fun _ _ => rfl)
  obtain ⟨-, -, -, rfl⟩ := halt_ok halted
  exact marked.rethreads rethreads_parkDebugger (requests_of_aside (by simp))

/-- Releasing a script has nothing to do with requests. -/
theorem release (h : Indexed s) (released : s.release pid = .ok s') : Indexed s' := by
  have detached : Indexed (s.detach pid) :=
    h.rethreads rethreads_detach (requests_of_aside (by simp))
  have marked : Indexed (s.unhalted pid) :=
    detached.congr rfl (holderOf_modify (fun _ same => same) fun _ _ => rfl)
  obtain ⟨-, ex, -, rfl⟩ := release_ok released
  split
  · exact marked.rethreads rethreads_hold (requests_of_aside (by simp))
  · exact marked.rethreads rethreads_schedule (requests_of_aside (by simp))

end Indexed

end Scheduler

open Scheduler

/-- Moves keep the three views in agreement. -/
theorem Move.indexed {m m' : Moment} {entries : List Entry} (move : Move m entries m')
    (numbers : m.state.Numbered) (h : Indexed m.state) : Indexed m'.state := by
  cases move with
  | tell => exact h
  | tellEngine => exact h
  | start prepared => exact (h.start numbers prepared).congr rfl fun _ => rfl
  | startChild launched =>
    obtain ⟨waiting, child, -, -, prepared, eq⟩ := runScript_eq launched
    dsimp only
    rw [eq]
    exact (h.start numbers prepared).awaitChild.congr rfl fun _ => rfl
  | startAway prepared => exact h.start numbers prepared
  | takeBatch => exact h.congr rfl fun _ => rfl
  | skip => exact h
  | @turn s _ _ pid ex ran _ _ found free runs =>
    obtain ⟨now, slice⟩ := runs.slice
    have carried := slice.carries
    have live : s.get? ex.pid = some ex := pid_of_get? found ▸ found
    have stored : Indexed (s.store ran) :=
      h.congr rfl (holderOf_store live carried.pid carried.requests)
    exact stored.settle (get?_store_self (by rw [carried.pid]; exact live))
  | collect => exact h.congr rfl fun _ => rfl
  | complete => exact h.completeExternal _
  | settleCall => exact h.congr rfl fun _ => rfl
  | signal => exact h.signalEvent
  | halt halted => exact h.halt halted
  | release released => exact h.release released
  | @retire s _ _ pid ex found result reason =>
    have holder : s.holderOf ex.pid = ex.requests :=
      holderOf_of_get? (pid_of_get? found ▸ found)
    exact h.retire holder
  | @deschedule s _ _ pid =>
    dsimp only [Scheduler.deschedule]
    cases found : s.get? pid with
    | none => exact h
    | some ex => exact h.remove (holderOf_of_get? (pid_of_get? found ▸ found))
  | request => exact h.register
  | resolve pending =>
    have found := RequestTable.get?_of_unhandled? pending
    exact h.resolve (RequestTable.mem_of_get? found).1
  | @wake s _ _ _ _ _ rest =>
    have taken : Indexed { s with timeouts := rest } := h.congr rfl fun _ => rfl
    exact taken.wake
  | takeExits => exact h.congr rfl fun _ => rfl

/-- An edit keeps the requests of a script. -/
theorem Edit.requests_apply (edit : Edit) (ex : Executor) :
    (edit.apply ex).requests = ex.requests := by
  cases edit <;> rfl

/-- In every reachable state the three views of the pending requests agree. -/
theorem Reachable.indexed {config : SchedulerConfig} {engine : Option Engine} {s : Scheduler}
    (reached : Reachable config engine s) : Indexed s := by
  refine reached.keeps (P := fun m => Indexed m.state) (.empty config engine) ?_ ?_
  · exact fun m entries m' numbers move h => move.indexed numbers h
  · intro s pid edit ex found h
    have live : s.get? ex.pid = some ex := pid_of_get? found ▸ found
    exact h.congr rfl (holderOf_store live (edit.seat_apply ex).2 (edit.requests_apply ex))

end ScriptScheduler
