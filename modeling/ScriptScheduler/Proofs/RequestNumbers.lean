import ScriptScheduler.Proofs.RequestIndex

/-!
# The numbers of requests and engine calls

Requests and deferred engine calls are numbered by one counter. As long as it has not come to its
end (`Unwrapped`), every number that is handed out is new, so no request is ever taken back and no
number belongs to a request and to a call.
-/

namespace ScriptScheduler

namespace Scheduler

variable {s s' : Scheduler} {pid : Pid} {ex : Executor}

/-- Numbers for requests have not started again. -/
def Unwrapped (s : Scheduler) : Prop := s.issued < UInt32.size - 1

/-- Pending requests and calls have numbers that have been handed out, none has the number of
another, and the requests are in the order of their numbers. -/
structure Fresh (s : Scheduler) : Prop where
  inOrder : s.requests.pending.Pairwise fun r later => r.id.number < later.id.number
  requests : ∀ r ∈ s.requests.pending, r.id.number ≤ s.issued
  calls : ∀ call ∈ s.calls, call.id.number ≤ s.issued
  apart : ∀ r ∈ s.requests.pending, ∀ call ∈ s.calls, r.id ≠ call.id

/-- A scheduler without scripts has neither requests nor calls. -/
theorem Fresh.empty (config : SchedulerConfig) (engine : Option Engine) :
    Fresh (.empty config engine) := by
  constructor <;> simp [Scheduler.empty]

/-- The next number comes after those that have been handed out. -/
theorem Unwrapped.number_nextRequestId (h : s.Unwrapped) :
    s.nextRequestId.number = s.issued + 1 := by
  unfold nextRequestId RequestId.ofCount
  exact congrArg (· + 1) (Nat.mod_eq_of_lt h)

/-! ### States with fewer requests and calls -/

/-- The state `s'` has no requests and calls that `s` does not have, and its requests are in the
same order. -/
structure Thins (s s' : Scheduler) : Prop where
  requests : s'.requests.pending.Sublist s.requests.pending
  calls : ∀ call ∈ s'.calls, ∃ old ∈ s.calls, old.id = call.id
  issued : s.issued ≤ s'.issued

namespace Thins

/-- A state that is the same aside from the scripts. -/
theorem of_aside (same : s'.aside = s.aside) : Thins s s' := by
  have requests : s'.requests = s.requests := requests_of_aside same
  have calls : s'.calls = s.calls := show s'.aside.calls = s.aside.calls by rw [same]
  have issued : s'.issued = s.issued := show s'.aside.issued = s.aside.issued by rw [same]
  refine ⟨requests ▸ .refl _, ?_, Nat.le_of_eq issued.symm⟩
  intro call mem
  exact ⟨call, calls ▸ mem, rfl⟩

/-- Requests and calls may become fewer twice. -/
theorem trans {s₁ s₂ : Scheduler} (h₁ : Thins s s₁) (h₂ : Thins s₁ s₂) : Thins s s₂ where
  requests := h₂.requests.trans h₁.requests
  calls call mem := by
    obtain ⟨mid, live, same⟩ := h₂.calls call mem
    obtain ⟨old, found, eq⟩ := h₁.calls mid live
    exact ⟨old, found, eq.trans same⟩
  issued := Nat.le_trans h₁.issued h₂.issued

/-- With fewer requests and calls the numbers stay apart. -/
theorem fresh (h : Thins s s') (fresh : Fresh s) : Fresh s' where
  inOrder := fresh.inOrder.sublist h.requests
  requests r mem := Nat.le_trans (fresh.requests r (h.requests.subset mem)) h.issued
  calls call mem := by
    obtain ⟨old, found, same⟩ := h.calls call mem
    exact Nat.le_trans (same ▸ fresh.calls old found) h.issued
  apart r mem call also := by
    obtain ⟨old, found, same⟩ := h.calls call also
    exact same ▸ fresh.apart r (h.requests.subset mem) old found

end Thins

/-- A new version of a script has nothing to do with requests and calls. -/
theorem thins_store : Thins s (s.store ex) := .of_aside rfl

/-- Making a script ready has nothing to do with requests and calls. -/
theorem thins_schedule : Thins s (s.schedule pid) := .of_aside aside_schedule

/-- A number that is handed out leaves the requests and calls alone. -/
theorem thins_count : Thins s { s with issued := s.issued + 1 } :=
  ⟨.refl _, fun call mem => ⟨call, mem, rfl⟩, Nat.le_succ _⟩

/-- Requests that are dropped from a table only become fewer. -/
theorem pending_dropFromTable (ids : List RequestId) :
    ∀ (table : RequestTable), (dropFromTable ids table).pending.Sublist table.pending := by
  induction ids with
  | nil => exact fun table => .refl _
  | cons id rest ih =>
    intro table
    unfold dropFromTable
    split
    · exact ih table
    · exact (ih _).trans List.filter_sublist

/-- A removed script takes its requests and calls with it. -/
theorem thins_remove : Thins s (s.remove ex).value.2 := by
  have detached : Thins s ((s.detach ex.pid).erase ex.pid) := .of_aside (by simp)
  rw [remove_state]
  have left : Thins s ({ (s.detach ex.pid).erase ex.pid with
      requests := dropFromTable ex.requests.ids s.requests }.forgetCalls ex.pid) := by
    refine ⟨pending_dropFromTable _ _, ?_, detached.issued⟩
    intro call mem
    exact detached.calls call (List.mem_filter.mp mem).1
  exact left.trans (.of_aside (by simp))

/-- A retired script takes its requests and calls with it. -/
theorem thins_retire {reason : ExitReason} : Thins s (s.retire ex reason).value.2 := by
  rw [retire_state]
  exact { thins_remove with }

/-- An engine script whose call is done takes its requests and calls with it. -/
theorem thins_completeExternal {value : Val} :
    Thins s (s.completeExternal pid value).value.2 := by
  unfold completeExternal
  split
  · exact .of_aside rfl
  · next ex _ =>
    have done : Thins s
        { s.store (ex.finishEngine value) with external := s.external.erase pid } := .of_aside rfl
    exact done.trans thins_retire

/-- A request that is resolved is gone. -/
theorem thins_resolve {request : Request} {value : Option Val} :
    Thins s (s.resolve request value).value := by
  have taken : Thins s { s with requests := s.requests.take request } :=
    ⟨List.filter_sublist, fun call mem => ⟨call, mem, rfl⟩, Nat.le_refl _⟩
  unfold resolve
  rw [deliver_state]
  split
  · exact taken
  · exact taken.trans (.of_aside (by simp))

/-- Requests that are aborted are gone. -/
theorem thins_abortEach (ids : List RequestId) :
    ∀ s : Scheduler, Thins s (abortEach ids s).value.2 := by
  induction ids with
  | nil => exact fun s => .of_aside rfl
  | cons id rest ih =>
    intro s
    refine Thins.trans ?_ (ih _)
    unfold abortRequest
    split
    · exact .of_aside rfl
    · exact thins_resolve

/-- The requests of a sleeper that is woken are gone. -/
theorem thins_wake : Thins s (s.wake pid).value := by
  unfold wake
  split
  · exact .of_aside rfl
  · dsimp only
    split
    · exact .of_aside (by simp)
    · exact thins_store.trans ((thins_abortEach _ _).trans thins_schedule)

/-! ### New requests and calls -/

/-- What a list of calls holds after an insertion. -/
theorem mem_of_mem_insertCall {call other : PendingCall} {calls : List PendingCall}
    (mem : other ∈ insertCall call calls) : other = call ∨ other ∈ calls := by
  induction calls with
  | nil => simpa [insertCall] using mem
  | cons first rest ih =>
    unfold insertCall at mem
    split at mem
    · simpa using mem
    · split at mem
      · exact (List.mem_cons.mp mem).imp_right (List.mem_cons_of_mem _)
      · rcases List.mem_cons.mp mem with rfl | mem
        · exact .inr List.mem_cons_self
        · exact (ih mem).imp_right (List.mem_cons_of_mem _)

/-- A call of the engine with a new number keeps the numbers apart. -/
theorem Fresh.invoke {function : FunctionRef} {id : RequestId} (h : Fresh s)
    (number : id.number ≤ s.issued) (new : ∀ r ∈ s.requests.pending, r.id ≠ id) :
    Fresh (s.invoke ex function id).value.2 := by
  rcases invoke_state s ex function id with ⟨value, eq⟩ | ⟨value, eq⟩ | ⟨settlement, eq⟩
  · rw [eq]
    exact thins_completeExternal.fresh h
  · rw [eq]
    exact (thins_store.trans thins_completeExternal).fresh h
  · rw [eq]
    refine ⟨h.inOrder, h.requests, ?_, ?_⟩
    · intro call mem
      rcases mem_of_mem_insertCall mem with rfl | mem
      · exact number
      · exact h.calls call mem
    · intro r pending call mem
      rcases mem_of_mem_insertCall mem with rfl | mem
      · exact new r pending
      · exact h.apart r pending call mem

/-- A script that goes to the engine calls it with a new number. -/
theorem Fresh.runExternal (h : Fresh s) (unwrapped : s.Unwrapped) :
    Fresh (s.runExternal pid).value.2 := by
  have same : (s.parkExternal pid).aside = s.aside := aside_parkExternal
  have issued : (s.parkExternal pid).issued = s.issued :=
    show (s.parkExternal pid).aside.issued = s.aside.issued by rw [same]
  have thin : Thins s (s.parkExternal pid) := .of_aside same
  have parked : Fresh (s.parkExternal pid) := thin.fresh h
  have number : (s.parkExternal pid).nextRequestId.number = (s.parkExternal pid).issued + 1 := by
    refine Unwrapped.number_nextRequestId ?_
    unfold Unwrapped
    rwa [issued]
  have counted : Fresh { s.parkExternal pid with issued := (s.parkExternal pid).issued + 1 } :=
    thins_count.fresh parked
  unfold Scheduler.runExternal
  dsimp only
  split
  · exact counted
  · split
    · exact counted
    · refine counted.invoke (Nat.le_of_eq number) ?_
      intro r mem eq
      have less := parked.requests r mem
      rw [eq, number] at less
      omega

/-- A request that is made gets a new number. -/
theorem Fresh.register {entity : EntityId} {kind : RequestKind} {wake : Nat} {callback : Callback}
    (h : Fresh s) (indexed : Indexed s) (unwrapped : s.Unwrapped) :
    Fresh (s.register pid entity kind wake callback).value.2 := by
  have counted : Fresh { s with issued := s.issued + 1 } := thins_count.fresh h
  have made := registered s pid entity kind wake callback
  generalize (s.register pid entity kind wake callback).value.1 = id at made
  generalize (s.register pid entity kind wake callback).value.2 = after at made ⊢
  cases made with
  | refused => exact h
  | takenBack => exact thins_store.fresh counted
  | @asked ex holder table found able added inserted =>
    obtain ⟨-, pending, -⟩ := indexed.table.insert? inserted rfl
    -- as numbers have not started again, this one is greater than all before
    have number := unwrapped.number_nextRequestId
    have tabled : Fresh { s with issued := s.issued + 1, requests := table } := by
      refine ⟨?_, ?_, counted.calls, ?_⟩
      · change table.pending.Pairwise _
        rw [pending]
        refine List.pairwise_append.mpr ⟨h.inOrder, List.pairwise_singleton _ _, ?_⟩
        intro r mem last isLast
        rw [List.mem_singleton.mp isLast]
        exact Nat.lt_of_le_of_lt (h.requests r mem) (by rw [number]; exact Nat.lt_succ_self _)
      · intro r mem
        change r ∈ table.pending at mem
        rw [pending] at mem
        rcases List.mem_append.mp mem with mem | mem
        · exact Nat.le_succ_of_le (h.requests r mem)
        · rw [List.mem_singleton.mp mem]
          exact Nat.le_of_eq number
      · intro r mem call also
        change r ∈ table.pending at mem
        rw [pending] at mem
        rcases List.mem_append.mp mem with mem | mem
        · exact h.apart r mem call also
        · rw [List.mem_singleton.mp mem]
          intro eq
          have less := h.calls call also
          rw [← eq] at less
          exact absurd less (by rw [number]; omega)
    exact (Thins.of_aside aside_hold).fresh (thins_store.fresh tabled)

/-- No pending request has the next number. -/
def NumberUnused (s : Scheduler) : Prop := ∀ r ∈ s.requests.pending, r.id ≠ s.nextRequestId

/-- As long as numbers are new the next one is not in use. -/
theorem Fresh.numberUnused (h : Fresh s) (unwrapped : s.Unwrapped) : s.NumberUnused := by
  intro r mem eq
  have less := h.requests r mem
  rw [eq, unwrapped.number_nextRequestId] at less
  omega

/-- If the next number is not in use no request is taken back. -/
theorem NumberUnused.not_taken_back (unused : s.NumberUnused) (indexed : Indexed s)
    {entity : EntityId} {kind : RequestKind} {callback : Callback}
    (found : s.get? pid = some ex) :
    (ex.requests.add? kind s.nextRequestId).isSome = true ∧
      (s.requests.insert? ⟨s.nextRequestId, pid, entity, kind, callback, false⟩).isSome = true := by
  constructor
  · rw [← holderOf_of_get? found, indexed.owners]
    exact Holder.add?_ofRequests_of_new fun r mem => unused r (List.mem_filter.mp mem).1
  · exact indexed.table.insert?_of_new unused

/-- A script that has had its turn keeps the numbers apart. -/
theorem Fresh.settle {outcome : SliceOutcome} (h : Fresh s) (unwrapped : s.Unwrapped) :
    Fresh (s.settle ex outcome).value.2 := by
  have after := settle_state s ex outcome
  cases outcome with
  | preempted => rw [after]; exact (Thins.of_aside aside_enqueue).fresh h
  | blocked => rw [after]; exact (Thins.of_aside aside_hold).fresh h
  | halted => rw [after]; exact (Thins.of_aside aside_parkDebugger).fresh h
  | external => rw [after]; exact h.runExternal unwrapped
  | finished => rw [after]; exact thins_retire.fresh h
  | faulted cause => obtain ⟨_, _, eq⟩ := after; rw [eq]; exact thins_retire.fresh h
  | runaway => obtain ⟨_, _, eq⟩ := after; rw [eq]; exact thins_retire.fresh h

/-- An event has nothing to do with requests and calls. -/
theorem thins_signalEvent {event : Val} : Thins s (s.signalEvent pid event).value.2 := by
  unfold signalEvent
  split
  · exact .of_aside rfl
  · split
    · exact thins_store.trans thins_schedule
    · exact thins_store
    · exact .of_aside rfl

/-- Halting a script has nothing to do with requests and calls. -/
theorem thins_halt (halted : s.halt pid = .ok s') : Thins s s' := .of_aside (aside_halt halted)

/-- Releasing a script has nothing to do with requests and calls. -/
theorem thins_release (released : s.release pid = .ok s') : Thins s s' :=
  .of_aside (aside_release released)

/-- A parent that waits for its child has nothing to do with requests and calls. -/
theorem thins_awaitChild {parent child : Pid} : Thins s (s.awaitChild parent child) :=
  .of_aside aside_awaitChild

end Scheduler

open Scheduler

/-- As long as numbers are new, moves keep the numbers of requests and calls apart. -/
theorem Move.fresh {m m' : Moment} {entries : List Entry} (move : Move m entries m')
    (indexed : Indexed m.state) (unwrapped : m.state.Unwrapped) (h : Fresh m.state) :
    Fresh m'.state := by
  cases move with
  | tell => exact h
  | tellEngine => exact h
  | start => exact { h with }
  | startChild launched =>
    obtain ⟨waiting, child, -, -, -, eq⟩ := runScript_eq launched
    dsimp only
    rw [eq]
    have enrolled : Fresh (Scheduler.enroll _ child).value := { h with }
    exact (Thins.of_aside aside_enqueue).fresh (thins_awaitChild.fresh enrolled)
  | startAway => exact { h with }
  | takeBatch => exact { h with }
  | skip => exact h
  | turn => exact (thins_store.fresh h).settle unwrapped
  | @collect s =>
    have fewer : Thins s
        { s with calls := s.calls.filter fun call => call.settlement.isNone } :=
      ⟨.refl _, fun call mem => ⟨call, (List.mem_filter.mp mem).1, rfl⟩, Nat.le_refl _⟩
    exact fewer.fresh h
  | complete => exact thins_completeExternal.fresh h
  | @settleCall s _ _ id settlement =>
    have same : Thins s (s.settleCall id settlement) := by
      refine ⟨.refl _, ?_, Nat.le_refl _⟩
      intro call mem
      obtain ⟨old, found, rfl⟩ := List.mem_map.mp mem
      exact ⟨old, found, by split <;> rfl⟩
    exact same.fresh h
  | signal => exact thins_signalEvent.fresh h
  | halt halted => exact (thins_halt halted).fresh h
  | release released => exact (thins_release released).fresh h
  | retire => exact thins_retire.fresh h
  | @deschedule s _ _ pid =>
    dsimp only [Scheduler.deschedule]
    cases s.get? pid with
    | none => exact h
    | some ex => exact thins_remove.fresh h
  | request => exact h.register indexed unwrapped
  | resolve => exact thins_resolve.fresh h
  | @wake s _ _ _ _ _ rest =>
    have taken : Fresh { s with timeouts := rest } := { h with }
    exact thins_wake.fresh taken
  | takeExits => exact { h with }

/-- In every reachable state the numbers of requests and calls are apart, as long as numbers are
new. -/
theorem Reachable.fresh {config : SchedulerConfig} {engine : Option Engine} {s : Scheduler}
    (reached : Reachable config engine s) (unwrapped : s.Unwrapped) : Fresh s := by
  have both := reached.keeps
    (P := fun m => Indexed m.state ∧ (m.state.Unwrapped → Fresh m.state))
    ⟨.empty config engine, fun _ => .empty config engine⟩ ?_ ?_
  · exact both.2 unwrapped
  · intro m entries m' numbers move h
    refine ⟨move.indexed numbers h.1, ?_⟩
    intro unwrapped
    have before : m.state.Unwrapped := Nat.lt_of_le_of_lt move.counts.issued unwrapped
    exact move.fresh h.1 before (h.2 before)
  · intro s pid edit ex found h
    have live : s.get? ex.pid = some ex := pid_of_get? found ▸ found
    refine ⟨h.1.congr rfl (holderOf_store live (edit.seat_apply ex).2 (edit.requests_apply ex)), ?_⟩
    exact fun unwrapped => thins_store.fresh (h.2 unwrapped)

/-! ### The agreement of the views -/

/-- The three views of the pending requests agree, and their numbers are apart from those of the
pending engine calls. -/
structure Scheduler.RequestsAgree (s : Scheduler) : Prop where
  /-- A request is pending for a script and under a kind if the script is live and holds it. -/
  scripts : ∀ id pid kind,
    (∃ r ∈ s.requests.pending, r.id = id ∧ r.pid = pid ∧ r.kind = kind) ↔
      ∃ ex, s.get? pid = some ex ∧ id ∈ ex.requests.queue kind
  /-- A request is pending to an entity and under a kind if the entity holds it. -/
  entities : ∀ id entity kind,
    (∃ r ∈ s.requests.pending, r.id = id ∧ r.entity = entity ∧ r.kind = kind) ↔
      ∃ holder, s.requests.holder? entity = some holder ∧ id ∈ holder.queue kind
  onceInTable : (s.requests.pending.map Request.id).Nodup
  onceInScripts : (s.executors.flatMap fun ex => ex.requests.ids).Nodup
  onceInEntities : (s.requests.entities.flatMap fun entry => entry.2.ids).Nodup
  unhandled : ∀ r ∈ s.requests.pending, r.handled = false
  inhabited : ∀ entry ∈ s.requests.entities, entry.2.isEmpty = false
  requestsBelow : ∀ r ∈ s.requests.pending, r.id.number < s.nextRequestId.number
  callsBelow : ∀ call ∈ s.calls, call.id.number < s.nextRequestId.number
  apart : ∀ r ∈ s.requests.pending, ∀ call ∈ s.calls, r.id ≠ call.id

namespace Scheduler

variable {s : Scheduler}

/-- The queues of the scripts hold what is pending for them. -/
theorem Indexed.mem_queue (h : Indexed s) (id : RequestId) (pid : Pid) (kind : RequestKind) :
    (∃ r ∈ s.requests.pending, r.id = id ∧ r.pid = pid ∧ r.kind = kind) ↔
      ∃ ex, s.get? pid = some ex ∧ id ∈ ex.requests.queue kind := by
  constructor
  · rintro ⟨r, pending, rfl, rfl, rfl⟩
    obtain ⟨ex, found⟩ := Option.isSome_iff_exists.mp (h.live pending)
    refine ⟨ex, found, ?_⟩
    rw [← holderOf_of_get? found, h.owners, Holder.queue_ofRequests]
    refine List.mem_map_of_mem (List.mem_filter.mpr ⟨?_, by simp⟩)
    exact List.mem_filter.mpr ⟨pending, by simp⟩
  · rintro ⟨ex, found, queued⟩
    rw [← holderOf_of_get? found, h.owners, Holder.queue_ofRequests] at queued
    obtain ⟨r, mem, rfl⟩ := List.mem_map.mp queued
    obtain ⟨owned, isKind⟩ := List.mem_filter.mp mem
    obtain ⟨pending, own⟩ := List.mem_filter.mp owned
    exact ⟨r, pending, rfl, of_decide_eq_true own, of_decide_eq_true isKind⟩

/-- The queues of the entities hold what is pending to them. -/
theorem Indexed.mem_entity_queue (h : Indexed s) (id : RequestId) (entity : EntityId)
    (kind : RequestKind) :
    (∃ r ∈ s.requests.pending, r.id = id ∧ r.entity = entity ∧ r.kind = kind) ↔
      ∃ holder, s.requests.holder? entity = some holder ∧ id ∈ holder.queue kind := by
  constructor
  · rintro ⟨r, pending, rfl, rfl, rfl⟩
    have asked : r ∈ s.requests.toEntity r.entity := List.mem_filter.mpr ⟨pending, by simp⟩
    have some : (s.requests.toEntity r.entity).isEmpty = false := by
      cases eq : s.requests.toEntity r.entity with
      | nil => rw [eq] at asked; exact absurd asked (by simp)
      | cons => rfl
    refine ⟨.ofRequests (s.requests.toEntity r.entity), ?_, ?_⟩
    · rw [h.table.holders, some]
      rfl
    · rw [Holder.queue_ofRequests]
      exact List.mem_map_of_mem (List.mem_filter.mpr ⟨asked, by simp⟩)
  · rintro ⟨holder, found, queued⟩
    rw [(h.table.eq_of_holder? found).1, Holder.queue_ofRequests] at queued
    obtain ⟨r, mem, rfl⟩ := List.mem_map.mp queued
    obtain ⟨asked, isKind⟩ := List.mem_filter.mp mem
    obtain ⟨pending, own⟩ := List.mem_filter.mp asked
    exact ⟨r, pending, rfl, of_decide_eq_true own, of_decide_eq_true isKind⟩

/-- No request is held twice by scripts. -/
theorem Indexed.nodup_scripts (h : Indexed s) (numbers : s.Numbered) :
    (s.executors.flatMap fun ex => ex.requests.ids).Nodup := by
  have holder : ∀ ex ∈ s.executors, ex.requests = .ofRequests (s.ownedBy ex.pid) := by
    intro ex live
    rw [← holderOf_of_get? (numbers.get?_of_mem live), h.owners]
  rw [List.nodup_flatMap]
  constructor
  · intro ex live
    rw [holder ex live]
    exact Holder.nodup_ids_ofRequests (h.table.nodup.sublist ((List.filter_sublist ..).map _))
  · refine numbers.increasing.imp_of_mem ?_
    intro a b liveA liveB less id memA memB
    -- a request that two scripts hold has two owners
    dsimp only at memA memB
    rw [holder a liveA, Holder.mem_ids_ofRequests] at memA
    rw [holder b liveB, Holder.mem_ids_ofRequests] at memB
    obtain ⟨r, ownedA, sameA⟩ := memA
    obtain ⟨r', ownedB, sameB⟩ := memB
    obtain ⟨pendingA, ownA⟩ := List.mem_filter.mp ownedA
    obtain ⟨pendingB, ownB⟩ := List.mem_filter.mp ownedB
    rw [Holder.eq_of_id h.table.nodup pendingB pendingA (sameB.trans sameA.symm)] at ownB
    rw [← of_decide_eq_true ownA, ← of_decide_eq_true ownB] at less
    exact Nat.lt_irrefl _ less

/-- No request is held twice by entities. -/
theorem Indexed.nodup_entities (h : Indexed s) :
    (s.requests.entities.flatMap fun entry => entry.2.ids).Nodup := by
  have holder : ∀ entry ∈ s.requests.entities,
      entry.2 = .ofRequests (s.requests.toEntity entry.1) := fun entry mem =>
    (h.table.eq_of_holder? (h.table.holder?_of_mem mem)).1
  rw [List.nodup_flatMap]
  constructor
  · intro entry mem
    rw [holder entry mem]
    exact Holder.nodup_ids_ofRequests (h.table.nodup.sublist ((List.filter_sublist ..).map _))
  · have different := List.pairwise_map.mp h.table.keys
    refine different.imp_of_mem ?_
    intro a b liveA liveB ne id memA memB
    dsimp only at memA memB
    rw [holder a liveA, Holder.mem_ids_ofRequests] at memA
    rw [holder b liveB, Holder.mem_ids_ofRequests] at memB
    obtain ⟨r, askedA, sameA⟩ := memA
    obtain ⟨r', askedB, sameB⟩ := memB
    obtain ⟨pendingA, ownA⟩ := List.mem_filter.mp askedA
    obtain ⟨pendingB, ownB⟩ := List.mem_filter.mp askedB
    rw [Holder.eq_of_id h.table.nodup pendingB pendingA (sameB.trans sameA.symm)] at ownB
    exact ne ((of_decide_eq_true ownA).symm.trans (of_decide_eq_true ownB))

end Scheduler

/-- In every reachable state whose request numbers have not started again, the table, the holders
of the scripts and the holders of the entities agree on the pending requests; each is there once,
none has been handled, and the numbers of requests and engine calls have been handed out and are
apart. -/
theorem Reachable.requestsAgree {config : SchedulerConfig} {engine : Option Engine}
    {s : Scheduler} (reached : Reachable config engine s) (unwrapped : s.Unwrapped) :
    s.RequestsAgree := by
  have indexed := reached.indexed
  have fresh := reached.fresh unwrapped
  have next := unwrapped.number_nextRequestId
  constructor
  · exact indexed.mem_queue
  · exact indexed.mem_entity_queue
  · exact indexed.table.nodup
  · exact indexed.nodup_scripts reached.numbered
  · exact indexed.nodup_entities
  · exact indexed.table.unhandled
  · intro entry mem
    obtain ⟨eq, some⟩ := indexed.table.eq_of_holder? (indexed.table.holder?_of_mem mem)
    rw [eq, Holder.isEmpty_ofRequests]
    exact some
  · intro r pending
    rw [next]
    exact Nat.lt_succ_of_le (fresh.requests r pending)
  · intro call pending
    rw [next]
    exact Nat.lt_succ_of_le (fresh.calls call pending)
  · exact fresh.apart

/-- A script is launched and asks an entity for a text. -/
def askingRun : List Operation :=
  [.start (.bytecode "asker" [.waitForEvent none, .ret]),
    .request ⟨1⟩ ⟨7⟩ .textEntry fun _ response => some response]

/-- After a script has asked, one request is pending and the views agree on it. -/
theorem requestsAgree_asking : ∃ s, performAll 1 askingRun (.empty {} none) = some s ∧
    s.Unwrapped ∧ s.requests.pending.length = 1 ∧ s.RequestsAgree := by
  have performed : performAll 1 askingRun (.empty {} none) = some _ := rfl
  refine ⟨_, performed, by unfold Unwrapped; decide, rfl, ?_⟩
  exact Reachable.requestsAgree (Reachable.empty.performAll performed)
    (by unfold Unwrapped; decide)

end ScriptScheduler
