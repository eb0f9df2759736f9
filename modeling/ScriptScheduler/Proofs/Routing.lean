import ScriptScheduler.Proofs.Removal
import ScriptScheduler.Proofs.Resolution

/-!
# Routing by a flat list

The queues of the scripts and of the entities are views of one list: the pending requests in the
order in which they were made. In every reachable state whose request numbers have not started
again, an answer of an entity finds the request that a search of this list finds, and the requests
of a script or of an entity that are aborted together are those that a filter of the list takes
out (`Routes`).
-/

namespace ScriptScheduler

namespace Scheduler

variable {s : Scheduler} {pid : Pid} {ex : Executor}

/-! ### Aborting several requests -/

/-- Exactly the chosen ones among the pending requests have been aborted. -/
structure Aborts (s : Scheduler) (chosen : Request → Bool) (ran : Logged (Nat × Scheduler)) :
    Prop where
  /-- They are counted. -/
  count : ran.value.1 = (s.requests.pending.filter chosen).length
  /-- The other requests remain pending, and in their order. -/
  left : ran.value.2.requests.pending = s.requests.pending.filter fun r => !chosen r
  /-- The owner of a chosen request is given the sentinel in answer to it, once. -/
  given : ∀ r ∈ s.requests.pending, chosen r = true → ∃ owner, s.get? r.pid = some owner ∧
    answersTo r.id ran.entries = [owner.receipt r.id .sentinel]
  /-- Nothing else is answered. -/
  silent : ∀ id, (∀ r ∈ s.requests.pending, chosen r = true → r.id ≠ id) →
    answersTo id ran.entries = []
  /-- The owner of a chosen request is dismissed, and its other requests remain pending for it. -/
  owners : ∀ r ∈ s.requests.pending, chosen r = true → ∀ owner, s.get? r.pid = some owner →
    ran.value.2.get? r.pid =
      some (owner.dismissed (.ofRequests ((s.ownedBy r.pid).filter fun r => !chosen r)))
  /-- Who owns none of the chosen requests stays as it is. -/
  bystanders : ∀ pid, (∀ r ∈ s.requests.pending, chosen r = true → r.pid ≠ pid) →
    ran.value.2.get? pid = s.get? pid

namespace Aborts

variable {chosen other : Request → Bool} {ran : Logged (Nat × Scheduler)}

/-- What is chosen is a matter of the pending requests. -/
theorem congr (h : Aborts s chosen ran) (same : ∀ r ∈ s.requests.pending, chosen r = other r) :
    Aborts s other ran where
  count := by rw [h.count, List.filter_congr same]
  left := by
    rw [h.left]
    exact List.filter_congr fun r live => by rw [same r live]
  given r live isChosen := h.given r live (same r live ▸ isChosen)
  silent id absent := h.silent id fun r live isChosen => absent r live (same r live ▸ isChosen)
  owners r live isChosen owner found := by
    have kept : (s.ownedBy r.pid).filter (fun r => !chosen r) =
        (s.ownedBy r.pid).filter fun r => !other r :=
      List.filter_congr fun r owned => by rw [same r (List.mem_filter.mp owned).1]
    rw [h.owners r live (same r live ▸ isChosen) owner found, kept]
  bystanders pid absent :=
    h.bystanders pid fun r live isChosen => absent r live (same r live ▸ isChosen)

/-- Nothing is to be done if no pending request is chosen. -/
theorem none (absent : ∀ r ∈ s.requests.pending, chosen r = false) :
    Aborts s chosen (pure (0, s)) := by
  have never : ∀ r ∈ s.requests.pending, chosen r ≠ true := fun r live =>
    Bool.eq_false_iff.mp (absent r live)
  constructor
  case count => rw [List.filter_eq_nil_iff.mpr never]; rfl
  case left => exact (List.filter_eq_self.mpr fun r live => by rw [absent r live]; rfl).symm
  case given => exact fun r live isChosen => absurd isChosen (never r live)
  case silent => exact fun _ _ => rfl
  case owners => exact fun r live isChosen => absurd isChosen (never r live)
  case bystanders => exact fun _ _ => rfl

end Aborts

/-- All requests that are aborted one after the other are counted. -/
theorem count_abortEach (ids : List RequestId) :
    ∀ {s : Scheduler}, Indexed s → (∀ id ∈ ids, ∃ r ∈ s.requests.pending, r.id = id) → ids.Nodup →
      (abortEach ids s).value.1 = ids.length := by
  induction ids with
  | nil => exact fun _ _ _ => rfl
  | cons id rest ih =>
    intro s indexed asked nodup
    obtain ⟨request, pending, rfl⟩ := asked id List.mem_cons_self
    obtain ⟨new, nodup⟩ := List.nodup_cons.mp nodup
    obtain ⟨aborted, -⟩ := Evolves.pending_abortRequest indexed pending
    have others := ih (indexed.abortEach [request.id]) (fun id mem => by
      obtain ⟨r, live, rfl⟩ := asked id (List.mem_cons_of_mem _ mem)
      exact ⟨r, Evolves.mem_abortRequest indexed pending new live mem, rfl⟩) nodup
    change (abortEach rest (s.abortRequest request.id).value.2).value.1 +
      (if (s.abortRequest request.id).value.1 then 1 else 0) = _
    rw [aborted, if_pos rfl, List.length_cons]
    exact congrArg (· + 1) others

/-- Requests that are aborted one after the other are aborted, and no other one is. -/
theorem aborts_abortEach {ids : List RequestId} (indexed : Indexed s) (equipped : Equipped s)
    (asked : ∀ id ∈ ids, ∃ r ∈ s.requests.pending, r.id = id) (nodup : ids.Nodup) :
    Aborts s (fun r => r.id ∈ ids) (abortEach ids s) := by
  obtain ⟨left, owners, bystanders⟩ := Evolves.abortEach_get? ids indexed asked nodup
  obtain ⟨given, silent⟩ := answersTo_abortEach ids indexed asked nodup
    fun r _ _ ex found => equipped r.pid ex found
  have unchosen : (fun r : Request => !decide (r.id ∈ ids)) = fun r => decide (r.id ∉ ids) := by
    funext r
    exact (decide_not ..).symm
  constructor
  case count =>
    -- the numbers of the chosen requests are those that are aborted, in another order
    have perm : ((s.requests.pending.filter fun r => r.id ∈ ids).map Request.id).Perm ids := by
      refine (List.perm_ext_iff_of_nodup ?_ nodup).mpr fun id => ?_
      · exact indexed.table.nodup.sublist (List.filter_sublist.map _)
      · constructor
        · intro mem
          obtain ⟨r, live, rfl⟩ := List.mem_map.mp mem
          exact of_decide_eq_true (List.mem_filter.mp live).2
        · intro mem
          obtain ⟨r, live, rfl⟩ := asked id mem
          exact List.mem_map_of_mem (List.mem_filter.mpr ⟨live, decide_eq_true mem⟩)
    rw [count_abortEach ids indexed asked nodup, ← perm.length_eq, List.length_map]
  case left =>
    rw [left, unchosen]
  case given =>
    intro r live isChosen
    obtain ⟨owner, found⟩ := Option.isSome_iff_exists.mp (indexed.live live)
    exact ⟨owner, found, given r live (of_decide_eq_true isChosen) owner found⟩
  case silent =>
    intro id absent
    refine silent id fun mem => ?_
    obtain ⟨r, live, same⟩ := asked id mem
    exact absent r live (decide_eq_true (same ▸ mem)) same
  case owners =>
    intro r live isChosen owner found
    obtain ⟨requests, after⟩ := owners r live (of_decide_eq_true isChosen) owner found
    have holder := (indexed.abortEach ids).owners r.pid
    rw [holderOf_of_get? after] at holder
    have remaining : (abortEach ids s).value.2.ownedBy r.pid =
        (s.ownedBy r.pid).filter fun r => !decide (r.id ∈ ids) := by
      unfold ownedBy
      rw [left, unchosen, List.filter_filter, List.filter_filter]
      exact List.filter_congr fun r _ => Bool.and_comm _ _
    have requestsEq : requests = .ofRequests ((s.ownedBy r.pid).filter fun r =>
        !decide (r.id ∈ ids)) := remaining ▸ holder
    rw [after, requestsEq]
  case bystanders =>
    intro pid absent
    exact bystanders pid fun r live mem => absent r live (decide_eq_true mem)

/-- Exactly the requests of a script are aborted with it. -/
theorem aborts_abortAll (indexed : Indexed s) (equipped : Equipped s) (pid : Pid) :
    Aborts s (fun r => r.pid = pid) (s.abortAll pid) := by
  unfold abortAll
  cases found : s.get? pid with
  | none =>
    refine Aborts.none fun r live => decide_eq_false fun same => ?_
    have owner := indexed.live live
    rw [same, found] at owner
    exact absurd owner (by decide)
  | some ex =>
    have aborts : Aborts s (fun r => r.id ∈ ex.requests.ids) _ := aborts_abortEach indexed equipped
      (fun id held => ((indexed.mem_ids found).mp held).imp fun r mine => ⟨mine.1, mine.2.1⟩)
      (indexed.nodup_ids found)
    refine aborts.congr fun r live => decide_eq_decide.mpr ⟨indexed.own found live, fun own => ?_⟩
    exact (indexed.mem_ids found).mpr ⟨r, live, rfl, own⟩

/-- An entity has no holder exactly if no request is addressed to it. -/
theorem holder?_eq_none (indexed : Indexed s) (entity : EntityId) :
    s.requests.holder? entity = none ↔ ∀ r ∈ s.requests.pending, r.entity ≠ entity := by
  have listed : (s.requests.toEntity entity).isEmpty = true ↔
      ∀ r ∈ s.requests.pending, r.entity ≠ entity := by
    rw [List.isEmpty_iff]
    unfold RequestTable.toEntity
    rw [List.filter_eq_nil_iff]
    simp only [decide_eq_true_eq, ne_eq]
  rw [indexed.table.holders entity, ← listed]
  split
  · next none => simp [none]
  · next some => simp [some]

/-- Exactly the requests to an entity are aborted with it. -/
theorem aborts_entityDisconnected (indexed : Indexed s) (equipped : Equipped s)
    (entity : EntityId) :
    Aborts s (fun r => r.entity = entity) (s.entityDisconnected entity) := by
  unfold entityDisconnected
  cases found : s.requests.holder? entity with
  | none =>
    refine Aborts.none fun r live => decide_eq_false ?_
    exact (holder?_eq_none indexed entity).mp found r live
  | some holder =>
    obtain ⟨rfl, -⟩ := indexed.table.eq_of_holder? found
    have addressed : ∀ id, id ∈ (Holder.ofRequests (s.requests.toEntity entity)).ids ↔
        ∃ r ∈ s.requests.pending, r.id = id ∧ r.entity = entity := by
      intro id
      rw [Holder.mem_ids_ofRequests]
      constructor
      · rintro ⟨r, mem, same⟩
        obtain ⟨live, addressee⟩ := List.mem_filter.mp mem
        exact ⟨r, live, same, of_decide_eq_true addressee⟩
      · rintro ⟨r, live, same, addressee⟩
        exact ⟨r, List.mem_filter.mpr ⟨live, decide_eq_true addressee⟩, same⟩
    have aborts : Aborts s
        (fun r => r.id ∈ (Holder.ofRequests (s.requests.toEntity entity)).ids) _ :=
      aborts_abortEach indexed equipped
        (fun id held => ((addressed id).mp held).imp fun r mine => ⟨mine.1, mine.2.1⟩)
        (Holder.nodup_ids_ofRequests (indexed.table.nodup.sublist (List.filter_sublist.map _)))
    refine aborts.congr fun r live => decide_eq_decide.mpr ⟨fun held => ?_, fun addressee => ?_⟩
    · obtain ⟨other, also, same, addressee⟩ := (addressed r.id).mp held
      rwa [Holder.eq_of_id indexed.table.nodup also live same] at addressee
    · exact (addressed r.id).mpr ⟨r, live, rfl, addressee⟩

/-! ### Finding a request -/

/-- The request that is found for an entity is found in its queue. -/
theorem findRequest?_eq (s : Scheduler) (entity : EntityId) (kind : RequestKind)
    (hint : Option RequestId) : s.findRequest? entity kind hint =
      match hint with
      | none => (s.heldFor entity kind).head?
      | some id => if id ∈ s.heldFor entity kind then some id else none := by
  unfold findRequest? heldFor
  cases s.requests.holder? entity with
  | none => cases hint <;> cases kind <;> simp [Holder.queue, Holder.empty]
  | some holder => cases hint <;> simp [Holder.find?, Holder.has]

/-- Without a hint the first of the pending requests of a kind to an entity is found. -/
theorem findRequest?_none (indexed : Indexed s) (entity : EntityId) (kind : RequestKind) :
    s.findRequest? entity kind none = (s.requests.pending.find? fun r =>
      r.entity = entity ∧ r.kind = kind).map Request.id := by
  rw [findRequest?_eq, indexed.heldFor_eq]
  dsimp only
  rw [List.head?_map, List.head?_filter]

/-- With a hint the request with that number is found, if it is of the kind and to the entity. -/
theorem findRequest?_some (indexed : Indexed s) (entity : EntityId) (kind : RequestKind)
    (id : RequestId) : s.findRequest? entity kind (some id) =
      if ∃ r ∈ s.requests.pending, r.id = id ∧ r.entity = entity ∧ r.kind = kind then some id
      else none := by
  have held : id ∈ s.heldFor entity kind ↔
      ∃ r ∈ s.requests.pending, r.id = id ∧ r.entity = entity ∧ r.kind = kind := by
    rw [indexed.heldFor_eq]
    simp only [List.mem_map, List.mem_filter, decide_eq_true_eq]
    constructor
    · rintro ⟨r, ⟨live, fits⟩, same⟩
      exact ⟨r, live, same, fits⟩
    · rintro ⟨r, live, same, fits⟩
      exact ⟨r, ⟨live, fits⟩, same⟩
  rw [findRequest?_eq]
  exact if_congr held rfl rfl

/-- The request that is found is pending, of the kind and to the entity. -/
theorem pending_of_findRequest? (indexed : Indexed s) {entity : EntityId} {kind : RequestKind}
    {hint : Option RequestId} {id : RequestId}
    (found : s.findRequest? entity kind hint = some id) :
    ∃ r ∈ s.requests.pending, r.id = id ∧ r.entity = entity ∧ r.kind = kind := by
  cases hint with
  | none =>
    rw [findRequest?_none indexed] at found
    obtain ⟨r, first, same⟩ := Option.map_eq_some_iff.mp found
    have fits : r.entity = entity ∧ r.kind = kind := by simpa using List.find?_some first
    exact ⟨r, List.mem_of_find?_eq_some first, same, fits⟩
  | some hinted =>
    rw [findRequest?_some indexed] at found
    split at found
    · next pending => exact Option.some.inj found ▸ pending
    · exact absurd found (by simp)

/-- An answer of an entity resolves the request that is found, with what its callback makes of the
answer. -/
theorem respondToEntity_of_found (indexed : Indexed s) {entity : EntityId} {kind : RequestKind}
    {hint : Option RequestId} {id : RequestId}
    (found : s.findRequest? entity kind hint = some id) (response : Val) :
    ∃ r ∈ s.requests.pending, r.id = id ∧ r.entity = entity ∧ r.kind = kind ∧
      s.respondToEntity entity kind hint response =
        ⟨(some id, (s.resolve r (r.callback entity response)).value),
          (s.resolve r (r.callback entity response)).entries⟩ := by
  obtain ⟨r, live, rfl, rfl, rfl⟩ := pending_of_findRequest? indexed found
  refine ⟨r, live, rfl, rfl, rfl, ?_⟩
  unfold respondToEntity respond
  rw [found]
  dsimp only
  rw [indexed.table.unhandled?_of_mem live]
  refine congrArg (Logged.mk _) ?_
  simp only [Logged.bind_entries, Logged.pure_entries, List.append_nil]

/-! ### Agreement with the list -/

/-- Requests are found and aborted as in the list of the pending requests. -/
structure Routes (s : Scheduler) : Prop where
  /-- The list is in the order of the numbers that were handed out. -/
  inOrder : s.requests.pending.Pairwise fun r later => r.id.number < later.id.number
  /-- A request that is made comes last in the list. -/
  made : ∀ pid entity kind wake callback id,
    (s.register pid entity kind wake callback).value.1 = some id →
      (s.register pid entity kind wake callback).value.2.requests.pending =
        s.requests.pending ++ [({ id, pid, entity, kind, callback } : Request)]
  /-- Without a hint the first request of a kind to an entity is found. -/
  first : ∀ entity kind, s.findRequest? entity kind none =
    (s.requests.pending.find? fun r => r.entity = entity ∧ r.kind = kind).map Request.id
  /-- With a hint the request with that number is found if it is of the kind and to the entity. -/
  hinted : ∀ entity kind id, s.findRequest? entity kind (some id) =
    if ∃ r ∈ s.requests.pending, r.id = id ∧ r.entity = entity ∧ r.kind = kind then some id
    else none
  /-- An answer of an entity goes to the request that is found. -/
  routed : ∀ entity kind hint response id, s.findRequest? entity kind hint = some id →
    ∃ r ∈ s.requests.pending, r.id = id ∧ r.entity = entity ∧ r.kind = kind ∧
      s.respondToEntity entity kind hint response =
        ⟨(some id, (s.resolve r (r.callback entity response)).value),
          (s.resolve r (r.callback entity response)).entries⟩
  /-- If none is found the answer changes nothing. -/
  unrouted : ∀ entity kind hint response, s.findRequest? entity kind hint = none →
    s.respondToEntity entity kind hint response = pure (none, s)
  /-- An entity has no holder exactly if no request is addressed to it. -/
  unlisted : ∀ entity, s.requests.holder? entity = none ↔
    ∀ r ∈ s.requests.pending, r.entity ≠ entity
  /-- The requests of a script are aborted together. -/
  abortAll : ∀ pid, Aborts s (fun r => r.pid = pid) (s.abortAll pid)
  /-- The requests to an entity are aborted together. -/
  disconnected : ∀ entity, Aborts s (fun r => r.entity = entity) (s.entityDisconnected entity)

end Scheduler

open Scheduler

/-- In every reachable state whose request numbers have not started again, requests are found and
aborted as in the list of the pending requests. -/
theorem Reachable.routes {config : SchedulerConfig} {engine : Option Engine} {s : Scheduler}
    (reached : Reachable config engine s) (unwrapped : s.Unwrapped) : s.Routes := by
  have indexed := reached.indexed
  constructor
  case inOrder => exact (reached.fresh unwrapped).inOrder
  case made => exact fun _ _ _ _ _ _ made => (register_made indexed made).1
  case first => exact findRequest?_none indexed
  case hinted => exact findRequest?_some indexed
  case routed =>
    exact fun _ _ _ response _ found => respondToEntity_of_found indexed found response
  case unrouted =>
    intro entity kind hint response absent
    unfold respondToEntity
    rw [absent]
  case unlisted => exact holder?_eq_none indexed
  case abortAll => exact aborts_abortAll indexed reached.equipped
  case disconnected => exact aborts_entityDisconnected indexed reached.equipped

/-- Three scripts make requests, two of them to the same entity. -/
def inquiriesRun : List Operation :=
  let asks (pid : Nat) (entity : EntityId) : List Operation :=
    [.start (.bytecode "asker" [.ret]),
      .request ⟨pid⟩ entity .textEntry fun _ response => some response]
  asks 1 ⟨7⟩ ++ asks 2 ⟨8⟩ ++ asks 3 ⟨7⟩

/-- Among three requests the first one to an entity is found, and its requests are aborted
together. -/
theorem routes_inquiries : ∃ s, performAll 1 inquiriesRun (.empty {} none) = some s ∧
    s.Unwrapped ∧ s.requests.pending.map Request.id = [⟨1⟩, ⟨2⟩, ⟨3⟩] ∧
    s.findRequest? ⟨7⟩ .textEntry none = some ⟨1⟩ ∧
    (s.entityDisconnected ⟨7⟩).value.1 = 2 ∧ s.Routes := by
  have performed : performAll 1 inquiriesRun (.empty {} none) = some _ := rfl
  refine ⟨_, performed, by unfold Unwrapped; decide, rfl, rfl, rfl, ?_⟩
  exact Reachable.routes (Reachable.empty.performAll performed) (by unfold Unwrapped; decide)

end ScriptScheduler
