import ScriptScheduler.Proofs.Wakeups

/-!
# Requests and their ends

A request is pending from the moment it is made until an operation ends it: an answer, an abort,
the wake clock of its owner or the removal of its owner. Such an operation takes the request out of
the table (`Operation.Hits.ends`), and then nothing remembers the request: answers and aborts under
its number change nothing (`Resolved.of_unlisted`).
-/

namespace ScriptScheduler

/-! ### Operations that end requests -/

/-- A script after the end of one of its requests. -/
def Executor.closed (ex : Executor) (request : Request) (value : Option Val) : Executor :=
  ({ ex with requests := ex.requests.remove request.kind request.id }.answered
    (value.getD .sentinel)).mapThread Thread.freed

/-- An engine script gets an answer through the engine, any other one in the slot on top of its
stack. -/
theorem Executor.stack_closed (ex : Executor) (request : Request) (value : Option Val) :
    (ex.closed request value).stack =
      if ex.isEngine then ex.stack else value.getD .sentinel :: ex.stack.tail := by
  have kind : { ex with requests := ex.requests.remove request.kind request.id }.isEngine =
      ex.isEngine := rfl
  unfold closed answered
  rw [kind]
  split <;> rfl

namespace Scheduler

variable {s : Scheduler} {pid : Pid} {ex : Executor}

/-- A request that is resolved leaves the table. -/
theorem requests_resolve (s : Scheduler) (request : Request) (value : Option Val) :
    (s.resolve request value).value.requests = s.requests.take request := by
  cases found : s.get? request.pid with
  | none =>
    rw [resolve_of_not_live found]
  | some ex =>
    rw [resolve_eq found]
    exact requests_of_aside aside_schedule

/-- Only the request that is resolved ends. -/
theorem eq_of_resolve {request r : Request} {value : Option Val} (indexed : Indexed s)
    (pending : request ∈ s.requests.pending) (also : r ∈ s.requests.pending)
    (ended : request ∉ (s.resolve r value).value.requests.pending) : request = r := by
  by_contra ne
  refine ended ?_
  rw [requests_resolve]
  refine List.mem_filter.mpr ⟨pending, decide_eq_true ?_⟩
  exact fun number => ne (Holder.eq_of_id indexed.table.nodup pending also number)

/-- After the abort of a request nothing is pending under its number. -/
theorem abortRequest_ends (indexed : Indexed s) (id : RequestId) :
    ∀ r ∈ (s.abortRequest id).value.2.requests.pending, r.id ≠ id := by
  unfold abortRequest
  split
  · next absent =>
    rintro r pending rfl
    rw [indexed.table.unhandled?_of_mem pending] at absent
    exact absurd absent (by simp)
  · next request pending =>
    have number : request.id = id :=
      (RequestTable.mem_of_get? (RequestTable.get?_of_unhandled? pending)).2
    intro r live
    change r ∈ (s.resolve request none).value.requests.pending at live
    rw [requests_resolve] at live
    rw [← number]
    exact of_decide_eq_true (List.mem_filter.mp live).2

/-- After the abort of requests nothing is pending under their numbers. -/
theorem abortEach_ends (ids : List RequestId) :
    ∀ {s : Scheduler}, Indexed s →
      ∀ id ∈ ids, ∀ r ∈ (abortEach ids s).value.2.requests.pending, r.id ≠ id := by
  induction ids with
  | nil => exact fun _ id mem => absurd mem List.not_mem_nil
  | cons first rest ih =>
    intro s indexed id mem r pending
    have after : Indexed (s.abortRequest first).value.2 := indexed.abortEach [first]
    rcases List.mem_cons.mp mem with rfl | mem
    · exact abortRequest_ends indexed id r ((thins_abortEach rest _).requests.subset pending)
    · exact ih after id mem r pending

/-- After scripts have been shut down they are not live any more. -/
theorem shutdownEach_ends (pids : List Pid) :
    ∀ s : Scheduler, (∀ pid ∈ pids, (shutdownEach pids s).value.get? pid = none) ∧
      Follows s (shutdownEach pids s).value := by
  induction pids with
  | nil => exact fun s => ⟨fun pid mem => absurd mem List.not_mem_nil, .refl s⟩
  | cons first rest ih =>
    intro s
    unfold shutdownEach
    cases found : s.get? first with
    | none =>
      obtain ⟨gone, follows⟩ := ih s
      refine ⟨?_, follows⟩
      intro pid mem
      rcases List.mem_cons.mp mem with rfl | mem
      · exact follows.gone found
      · exact gone pid mem
    | some ex =>
      let last := { ex with result := some (.fail ErrorCode.aborted "scheduler shut down") }
      obtain ⟨gone, follows⟩ := ih (s.retire last .shutdown).value.2
      have dead : (s.retire last .shutdown).value.2.get? first = none := by
        have number : ex.pid = first := pid_of_get? found
        rw [← number]
        exact Evolves.get?_retire_self s last _
      refine ⟨?_, follows_retire.trans follows⟩
      intro pid mem
      rcases List.mem_cons.mp mem with rfl | mem
      · exact follows.gone dead
      · exact gone pid mem

/-- After the shutdown no script is live. -/
theorem shutdown_ends (s : Scheduler) (pid : Pid) : s.shutdown.value.get? pid = none := by
  unfold shutdown
  split
  · next none =>
    have empty : s.executors = [] := List.isEmpty_iff.mp none
    change s.get? pid = Option.none
    unfold get?
    rw [empty]
    rfl
  · obtain ⟨gone, follows⟩ := shutdownEach_ends (s.executors.map Executor.pid) s
    change (shutdownEach (s.executors.map Executor.pid) s).value.get? pid = none
    cases found : s.get? pid with
    | none => exact follows.gone found
    | some ex =>
      refine gone pid ?_
      rw [← pid_of_get? found]
      exact List.mem_map_of_mem (mem_of_get? found)

/-- The end of a request changes its owner only. -/
theorem get?_resolve {request : Request} (found : s.get? request.pid = some ex)
    (value : Option Val) (pid : Pid) :
    (s.resolve request value).value.get? pid =
      if pid = request.pid then some (ex.closed request value) else s.get? pid := by
  let told := { ex with
    requests := ex.requests.remove request.kind request.id }.answered (value.getD .sentinel)
  have own : ex.pid = request.pid := pid_of_get? found
  have number : told.pid = request.pid := (Executor.kind_answered _ _).1.trans own
  have taken : { s with requests := s.requests.take request }.get? request.pid = some ex := found
  rw [resolve_eq found]
  split
  · next same =>
    rw [same, get?_schedule_self, get?_store taken number]
    rfl
  · next ne => rw [get?_schedule_of_ne _ ne, get?_store_of_ne (number ▸ ne)]; rfl

end Scheduler

/-! ### Replies -/

/-- The answers that the owner of a request can get: what the callback makes of a response, and the
sentinel if it makes nothing of it or there is no response. -/
inductive Request.Yields (request : Request) : Val → Prop
  | response (response : Val) :
      Yields request ((request.callback request.entity response).getD .sentinel)
  | sentinel : Yields request .sentinel

/-- The value with which an operation that ends a request fills the slot of the script: what the
callback makes of an answer, and the sentinel if it makes nothing of it or there is no answer. -/
def Operation.reply (request : Request) : Operation → Val
  | .respond _ response | .respondToEntity _ _ _ response =>
    (request.callback request.entity response).getD .sentinel
  | _ => .sentinel

/-- What an operation replies is an answer that the owner of the request can get. -/
theorem Operation.yields_reply (op : Operation) (request : Request) :
    request.Yields (op.reply request) := by
  cases op with
  | respond _ response => exact .response response
  | respondToEntity _ _ _ response => exact .response response
  | _ => exact .sentinel

/-! ### What is left of a request -/

namespace Scheduler

/-- A request is pending, its owner is live, and since the request was made the owner has not been
given an answer to it. -/
structure Awaits (request : Request) (entries : List Entry) (t : Scheduler) : Prop where
  pending : request ∈ t.requests.pending
  live : (t.get? request.pid).isSome = true
  unanswered : answersTo request.id entries = []

/-- Since the request was made its owner has been given exactly one answer to it; nothing remembers
the request, and who answers or aborts it changes nothing. -/
structure Resolved (request : Request) (owner : Executor) (entries : List Entry) (t : Scheduler) :
    Prop where
  once : ∃ value, request.Yields value ∧
    answersTo request.id entries = [owner.receipt request.id value]
  unlisted : ∀ r ∈ t.requests.pending, r.id ≠ request.id
  scripts : ∀ ex ∈ t.executors, request.id ∉ ex.requests.ids
  entities : ∀ entry ∈ t.requests.entities, request.id ∉ entry.2.ids
  respond : ∀ response, t.respond request.id response = pure (false, t)
  abort : t.abortRequest request.id = pure (false, t)
  respondToEntity : ∀ entity kind response,
    t.respondToEntity entity kind (some request.id) response = pure (none, t)

/-- A request that was answered once and has left the table is resolved. -/
theorem Resolved.of_unlisted {t : Scheduler} {request : Request} {owner : Executor}
    {entries : List Entry} (indexed : Indexed t) (numbers : t.Numbered)
    (once : ∃ value, request.Yields value ∧
      answersTo request.id entries = [owner.receipt request.id value])
    (unlisted : ∀ r ∈ t.requests.pending, r.id ≠ request.id) :
    Resolved request owner entries t := by
  have absent : t.requests.unhandled? request.id = none := by
    cases found : t.requests.unhandled? request.id with
    | none => rfl
    | some r =>
      obtain ⟨pending, same⟩ :=
        RequestTable.mem_of_get? (RequestTable.get?_of_unhandled? found)
      exact absurd same (unlisted r pending)
  have respond : ∀ response, t.respond request.id response = pure (false, t) := by
    intro response
    unfold Scheduler.respond
    rw [absent]
  have entities : ∀ entry ∈ t.requests.entities, request.id ∉ entry.2.ids := by
    rintro ⟨entity, holder⟩ mem held
    obtain ⟨kind, queued⟩ := Holder.mem_ids.mp held
    obtain ⟨r, pending, same, -⟩ := (indexed.mem_entity_queue request.id entity kind).mpr
      ⟨holder, indexed.table.holder?_of_mem mem, queued⟩
    exact unlisted r pending same
  refine ⟨once, unlisted, ?_, entities, respond, ?_, ?_⟩
  · intro ex live held
    obtain ⟨r, pending, same, -⟩ := (indexed.mem_ids (numbers.get?_of_mem live)).mp held
    exact unlisted r pending same
  · unfold abortRequest
    rw [absent]
  · intro entity kind response
    unfold Scheduler.respondToEntity findRequest?
    cases found : t.requests.holder? entity with
    | none => rfl
    | some holder =>
      have free : holder.has kind request.id = false := by
        unfold Holder.has
        rw [List.contains_eq_mem]
        refine decide_eq_false ?_
        intro queued
        obtain ⟨r, pending, same, -⟩ := (indexed.mem_entity_queue request.id entity kind).mpr
          ⟨holder, found, queued⟩
        exact unlisted r pending same
      simp [Holder.find?, free]

end Scheduler

/-! ### Operations that end a request -/

/-- The operations that are meant to end a pending request. -/
inductive Operation.Hits (t : Scheduler) (request : Request) : Operation → Prop
  | respond (response : Val) : Hits t request (.respond request.id response)
  | respondToEntity {entity : EntityId} {kind : RequestKind} {hint : Option RequestId}
      (found : t.findRequest? entity kind hint = some request.id) (response : Val) :
      Hits t request (.respondToEntity entity kind hint response)
  | abort : Hits t request (.abort request.id)
  | abortAll : Hits t request (.abortAll request.pid)
  | entityDisconnected : Hits t request (.entityDisconnected request.entity)
  /-- The wake clock of the owner has come. -/
  | checkBlocked {owner : Executor} {now : Nat} (found : t.get? request.pid = some owner)
      (due : owner.isDue now = true) (left : Nat) : Hits t request (.checkBlocked now left)
  | kill : Hits t request (.kill request.pid)
  | deschedule : Hits t request (.deschedule request.pid)
  | shutdown : Hits t request .shutdown

open Scheduler

/-- After an operation that is meant to end a pending request it is no longer pending. -/
theorem Operation.Hits.ends {t : Scheduler} {request : Request} {op : Operation} {patience : Nat}
    {ran : Logged (Answer × Scheduler)} (hits : op.Hits t request)
    (sound : Moment.Sound ⟨t, [], []⟩) (pending : request ∈ t.requests.pending)
    (performed : t.perform patience op = some ran) :
    request ∉ ran.value.2.requests.pending := by
  have indexed := sound.indexed
  obtain ⟨owner, found⟩ := Option.isSome_iff_exists.mp (indexed.live pending)
  have number : owner.pid = request.pid := pid_of_get? found
  have holder : t.holderOf owner.pid = owner.requests := number.symm ▸ holderOf_of_get? found
  have answered : ∀ response,
      request ∉ (t.respond request.id response).value.2.requests.pending := by
    intro response
    unfold Scheduler.respond
    rw [indexed.table.unhandled?_of_mem pending]
    change request ∉ (t.resolve request _).value.requests.pending
    rw [requests_resolve]
    intro live
    exact of_decide_eq_true (List.mem_filter.mp live).2 rfl
  -- an operation after which the owner is not live has ended the request
  have left : ∀ {s' : Scheduler}, Indexed s' → s'.get? request.pid = none →
      request ∉ s'.requests.pending := by
    intro s' after dead live
    have := after.live live
    rw [dead] at this
    exact absurd this (by decide)
  cases hits with
  | respond response =>
    obtain rfl := Option.some.inj performed
    exact answered response
  | respondToEntity asked response =>
    obtain rfl := Option.some.inj performed
    unfold Scheduler.respondToEntity
    rw [asked]
    exact answered response
  | abort =>
    obtain rfl := Option.some.inj performed
    exact fun live => abortRequest_ends indexed request.id request live rfl
  | abortAll =>
    obtain rfl := Option.some.inj performed
    have held : request.id ∈ owner.requests.ids :=
      (indexed.mem_ids found).mpr ⟨request, pending, rfl, rfl⟩
    unfold Scheduler.abortAll
    rw [found]
    exact fun live => abortEach_ends owner.requests.ids indexed request.id held request live rfl
  | entityDisconnected =>
    obtain rfl := Option.some.inj performed
    obtain ⟨holder, asked, queued⟩ :=
      (indexed.mem_entity_queue request.id request.entity request.kind).mp
        ⟨request, pending, rfl, rfl, rfl⟩
    unfold Scheduler.entityDisconnected
    rw [asked]
    exact fun live => abortEach_ends holder.ids indexed request.id
      (Holder.mem_ids.mpr ⟨_, queued⟩) request live rfl
  | @checkBlocked sleeper now live due idle =>
    obtain rfl := Option.some.inj performed
    intro still
    have early := ((pending_checkBlocked sound now idle request).mp still).2 sleeper live
    rw [due] at early
    exact absurd early (by decide)
  | kill =>
    obtain rfl := Option.some.inj performed
    let last := { owner with result := some (.fail ErrorCode.aborted "script killed") }
    have after : Indexed (t.retire last .killed).value.2 :=
      indexed.retire (show t.holderOf last.pid = last.requests from holder)
    have dead : (t.retire last .killed).value.2.get? request.pid = none :=
      number ▸ Evolves.get?_retire_self t last _
    rw [kill_of_get? found]
    exact left after dead
  | deschedule =>
    obtain rfl := Option.some.inj performed
    have after : Indexed (t.remove owner).value.2 :=
      indexed.remove holder
    have dead : (t.remove owner).value.2.get? request.pid = none :=
      number ▸ Evolves.get?_remove_self t owner
    unfold Scheduler.deschedule
    rw [found]
    exact left after dead
  | shutdown =>
    obtain rfl := Option.some.inj performed
    have moves : Moves ⟨t, [], []⟩ _ _ := shutdown_moves t fun _ => trivial
    have after : Indexed t.shutdown.value :=
      (moves.keeps (P := Moment.Sound) (fun _ _ _ => Move.sound) sound).indexed
    exact left after (shutdown_ends t request.pid)

/-! ### Requests of scripts -/

/-- The operations that make a request of a script to an entity. -/
inductive Operation.Asks (pid : Pid) (entity : EntityId) (kind : RequestKind)
    (callback : Callback) : Operation → Prop
  | request : Asks pid entity kind callback (.request pid entity kind callback)
  | requestWithTimeout (now timeout : Nat) :
      Asks pid entity kind callback (.requestWithTimeout now pid entity kind timeout callback)

/-- What making a request has done: the request is the last one in the table, under a number that
was not in use, and its owner holds it and sleeps. -/
theorem Scheduler.register_made {s : Scheduler} {pid : Pid} {entity : EntityId} {kind : RequestKind}
    {wake : Nat} {callback : Callback} {id : RequestId} (indexed : Indexed s)
    (made : (s.register pid entity kind wake callback).value.1 = some id) :
    (s.register pid entity kind wake callback).value.2.requests.pending =
        s.requests.pending ++ [({ id, pid, entity, kind, callback } : Request)] ∧
      (∀ r ∈ s.requests.pending, r.id ≠ id) ∧
      ∃ ex holder, s.get? pid = some ex ∧ ex.mayAsk = true ∧
        ex.requests.add? kind id = some holder ∧
        (s.register pid entity kind wake callback).value.2.get? pid =
          some ({ (ex.suspend wake).openResultSlot with requests := holder }.mapThread
            (Thread.held s.nextTimerSeq)) := by
  have outcome := registered s pid entity kind wake callback
  rw [made] at outcome
  generalize (s.register pid entity kind wake callback).value.2 = s' at outcome ⊢
  generalize numbered : some id = given at outcome
  cases outcome with
  | refused => exact absurd numbered (by simp)
  | takenBack => exact absurd numbered (by simp)
  | @asked ex holder table found able added inserted =>
    obtain rfl := Option.some.inj numbered
    obtain ⟨-, pending, new⟩ := indexed.table.insert? inserted rfl
    have number : { (ex.suspend wake).openResultSlot with requests := holder }.pid = pid := by
      have own : ex.pid = pid := pid_of_get? found
      unfold Executor.openResultSlot Executor.suspend
      split <;> split <;> exact own
    refine ⟨?_, new, ex, holder, found, able, added, ?_⟩
    · rw [requests_of_aside aside_hold]
      exact pending
    · rw [get?_hold_self,
        get?_store (s := { s with issued := s.issued + 1, requests := table }) found number]
      rfl

/-- A request that is made leaves the others pending. -/
theorem Scheduler.pending_register {s : Scheduler} {request : Request} (indexed : Indexed s)
    (old : request ∈ s.requests.pending) {pid : Pid} {entity : EntityId} {kind : RequestKind}
    {wake : Nat} {callback : Callback} :
    request ∈ (s.register pid entity kind wake callback).value.2.requests.pending := by
  have made := registered s pid entity kind wake callback
  generalize (s.register pid entity kind wake callback).value.1 = answer at made
  generalize (s.register pid entity kind wake callback).value.2 = s' at made ⊢
  cases made with
  | refused => exact old
  | takenBack => exact old
  | @asked _ _ table _ _ _ inserted =>
    obtain ⟨-, pending, -⟩ := indexed.table.insert? inserted rfl
    have kept : request ∈ table.pending := pending ▸ List.mem_append_left _ old
    rwa [requests_of_aside aside_hold]

/-- An operation that makes a request registers it. -/
theorem Operation.Asks.registers {s : Scheduler} {pid : Pid} {entity : EntityId}
    {kind : RequestKind} {callback : Callback} {op : Operation} {patience : Nat}
    {ran : Logged (Answer × Scheduler)} (asks : op.Asks pid entity kind callback)
    (performed : s.perform patience op = some ran) :
    ∃ wake, ran = answering .requested (s.register pid entity kind wake callback) := by
  cases asks with
  | request => exact ⟨_, (Option.some.inj performed).symm⟩
  | requestWithTimeout now timeout => exact ⟨_, (Option.some.inj performed).symm⟩

end ScriptScheduler
