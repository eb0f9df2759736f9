import Mathlib.Data.List.Nodup
import ScriptScheduler.Proofs.Course

/-!
# The table of pending requests

A holder that belongs to a list of requests has one queue for each kind, with the numbers of the
requests of that kind in the order of the list. The table is consistent when the numbers of the
pending requests are different, none of them has been handled, and the holder of every entity
belongs to the pending requests to that entity. Inserting and taking out a request keep the table
consistent.
-/

namespace ScriptScheduler

namespace Holder

variable {h h' : Holder} {kind : RequestKind} {id : RequestId} {requests : List Request}
  {request : Request}

/-! ### Holders of lists of requests -/

/-- Holders with the same queues are the same. -/
theorem eq_of_queue (same : ∀ kind, h.queue kind = h'.queue kind) : h = h' := by
  have objects := same .targetObject
  have cursors := same .targetCursor
  have texts := same .textEntry
  cases h
  cases h'
  simp only [queue] at objects cursors texts
  rw [objects, cursors, texts]

/-- A request number is held if it is in one of the queues. -/
theorem mem_ids : id ∈ h.ids ↔ ∃ kind, id ∈ h.queue kind := by
  unfold ids
  simp only [List.mem_append]
  constructor
  · rintro ((mem | mem) | mem)
    · exact ⟨.targetObject, mem⟩
    · exact ⟨.targetCursor, mem⟩
    · exact ⟨.textEntry, mem⟩
  · rintro ⟨kind, mem⟩
    cases kind with
    | targetObject => exact .inl (.inl mem)
    | targetCursor => exact .inl (.inr mem)
    | textEntry => exact .inr mem

/-- A holder to which a request has been added holds it beside what it held. -/
theorem mem_ids_of_add? {other : RequestId} (added : h.add? kind id = some h') :
    other ∈ h'.ids ↔ other ∈ h.ids ∨ other = id := by
  unfold add? at added
  split at added
  · exact absurd added (by simp)
  · obtain rfl := Option.some.inj added
    unfold ids setQueue queue
    cases kind <;> simp only [List.mem_append, List.mem_singleton] <;> tauto

/-- The holder of a list of requests. -/
def ofRequests (requests : List Request) : Holder where
  objects := (requests.filter fun r => r.kind = .targetObject).map Request.id
  cursors := (requests.filter fun r => r.kind = .targetCursor).map Request.id
  texts := (requests.filter fun r => r.kind = .textEntry).map Request.id

/-- A queue of the holder of a list has the requests of its kind. -/
theorem queue_ofRequests (requests : List Request) (kind : RequestKind) :
    (ofRequests requests).queue kind = (requests.filter fun r => r.kind = kind).map Request.id := by
  cases kind <;> rfl

/-- The holder of a list holds the numbers of its requests. -/
theorem mem_ids_ofRequests : id ∈ (ofRequests requests).ids ↔ ∃ r ∈ requests, r.id = id := by
  rw [mem_ids]
  constructor
  · rintro ⟨kind, queued⟩
    rw [queue_ofRequests] at queued
    obtain ⟨r, mem, rfl⟩ := List.mem_map.mp queued
    exact ⟨r, (List.mem_filter.mp mem).1, rfl⟩
  · rintro ⟨r, mem, rfl⟩
    refine ⟨r.kind, ?_⟩
    rw [queue_ofRequests]
    exact List.mem_map_of_mem (List.mem_filter.mpr ⟨mem, by simp⟩)

/-- The holder of a list is empty if the list is. -/
theorem isEmpty_ofRequests (requests : List Request) :
    (ofRequests requests).isEmpty = requests.isEmpty := by
  rw [Bool.eq_iff_iff]
  unfold isEmpty
  rw [List.isEmpty_iff, List.isEmpty_iff, List.eq_nil_iff_forall_not_mem,
    List.eq_nil_iff_forall_not_mem]
  constructor
  · intro none r mem
    exact none r.id (mem_ids_ofRequests.mpr ⟨r, mem, rfl⟩)
  · intro none id mem
    obtain ⟨r, mem, -⟩ := mem_ids_ofRequests.mp mem
    exact none r mem

/-- An added request is held at the end. -/
theorem add?_ofRequests (added : (ofRequests requests).add? request.kind request.id = some h) :
    h = ofRequests (requests ++ [request]) ∧ ∀ r ∈ requests, r.id ≠ request.id := by
  unfold add? at added
  split at added
  · exact absurd added (by simp)
  · next absent =>
    obtain rfl := Option.some.inj added
    constructor
    · refine eq_of_queue ?_
      intro kind
      by_cases same : kind = request.kind
      · subst same
        rw [queue_setQueue_self, queue_ofRequests, queue_ofRequests, List.filter_append]
        simp
      · have other : ¬ request.kind = kind := fun eq => same eq.symm
        rw [queue_setQueue_of_ne _ _ same, queue_ofRequests, queue_ofRequests,
          List.filter_append]
        simp [other]
    · intro r mem eq
      refine absent ?_
      unfold contains
      rw [List.contains_iff_mem, mem_ids_ofRequests]
      exact ⟨r, mem, eq⟩

/-- A request with a new number can be added. -/
theorem add?_ofRequests_of_new (new : ∀ r ∈ requests, r.id ≠ id) :
    ((ofRequests requests).add? kind id).isSome = true := by
  have absent : id ∉ (ofRequests requests).ids := by
    rw [mem_ids_ofRequests]
    rintro ⟨r, mem, eq⟩
    exact new r mem eq
  unfold add? contains
  simp [absent]

/-- In a list of requests with different numbers a number names a request. -/
theorem eq_of_id {r other : Request} (nodup : (requests.map Request.id).Nodup)
    (mem : r ∈ requests) (also : other ∈ requests) (same : r.id = other.id) : r = other :=
  List.inj_on_of_nodup_map nodup mem also same

/-- The holder of a list of requests with different numbers holds no number twice. -/
theorem nodup_ids_ofRequests (nodup : (requests.map Request.id).Nodup) :
    (ofRequests requests).ids.Nodup := by
  have each : ∀ kind, ((ofRequests requests).queue kind).Nodup := by
    intro kind
    rw [queue_ofRequests]
    exact nodup.sublist ((List.filter_sublist ..).map _)
  have apart : ∀ kind other, kind ≠ other →
      ((ofRequests requests).queue kind).Disjoint ((ofRequests requests).queue other) := by
    intro kind other ne id queued also
    rw [queue_ofRequests] at queued also
    obtain ⟨r, mem, rfl⟩ := List.mem_map.mp queued
    obtain ⟨r', mem', same⟩ := List.mem_map.mp also
    obtain ⟨live, isKind⟩ := List.mem_filter.mp mem
    obtain ⟨live', isOther⟩ := List.mem_filter.mp mem'
    rw [eq_of_id nodup live' live same] at isOther
    exact ne ((of_decide_eq_true isKind).symm.trans (of_decide_eq_true isOther))
  have objects := each .targetObject
  have cursors := each .targetCursor
  have texts := each .textEntry
  have first := apart .targetObject .targetCursor (by decide)
  have second := apart .targetObject .textEntry (by decide)
  have third := apart .targetCursor .textEntry (by decide)
  refine List.Nodup.append (objects.append cursors first) texts ?_
  exact List.disjoint_append_left.mpr ⟨second, third⟩

/-- A removed request is no longer held. -/
theorem remove_ofRequests (nodup : (requests.map Request.id).Nodup) (mem : request ∈ requests) :
    (ofRequests requests).remove request.kind request.id =
      ofRequests (requests.filter fun r => r.id ≠ request.id) := by
  unfold remove
  refine eq_of_queue ?_
  intro kind
  by_cases same : kind = request.kind
  · subst same
    have sub : ((requests.filter fun r => r.kind = request.kind).map Request.id).Nodup :=
      nodup.sublist ((List.filter_sublist ..).map _)
    rw [queue_setQueue_self, queue_ofRequests, queue_ofRequests, sub.erase_eq_filter,
      List.filter_map, List.filter_filter, List.filter_filter]
    congr 1
    refine List.filter_congr ?_
    intro r _
    by_cases eq : r.id = request.id <;> simp [eq]
  · rw [queue_setQueue_of_ne _ _ same, queue_ofRequests, queue_ofRequests, List.filter_filter]
    congr 1
    refine List.filter_congr ?_
    intro r live
    by_cases kindEq : r.kind = kind
    · have ne : r.id ≠ request.id := by
        intro eq
        rw [eq_of_id nodup live mem eq] at kindEq
        exact same kindEq.symm
      simp [kindEq, ne]
    · simp [kindEq]

end Holder

/-! ### Consistent tables -/

namespace RequestTable

variable {table after : RequestTable} {request : Request} {id : RequestId} {entity : EntityId}

/-- The pending requests to an entity. -/
def toEntity (table : RequestTable) (entity : EntityId) : List Request :=
  table.pending.filter fun r => r.entity = entity

/-- The numbers of the pending requests are different, none has been handled, and the entities
with pending requests have the holders of these requests. -/
structure Consistent (table : RequestTable) : Prop where
  nodup : (table.pending.map Request.id).Nodup
  unhandled : ∀ r ∈ table.pending, r.handled = false
  keys : (table.entities.map Prod.fst).Nodup
  holders : ∀ entity, table.holder? entity =
    if (table.toEntity entity).isEmpty then none
    else some (.ofRequests (table.toEntity entity))

/-- A table without requests is consistent. -/
theorem Consistent.empty : Consistent {} := by
  constructor <;> simp [holder?, toEntity]

/-- A request that is found is pending under its number. -/
theorem mem_of_get? (found : table.get? id = some request) :
    request ∈ table.pending ∧ request.id = id :=
  ⟨List.mem_of_find?_eq_some found, by simpa using List.find?_some found⟩

/-- A request that is found and not handled is pending under its number. -/
theorem get?_of_unhandled? (found : table.unhandled? id = some request) :
    table.get? id = some request := by
  unfold unhandled? at found
  exact (Option.filter_eq_some_iff.mp found).1

/-- Every pending request is found under its number. -/
theorem Consistent.get?_of_mem (h : table.Consistent) (mem : request ∈ table.pending) :
    table.get? request.id = some request := by
  cases found : table.get? request.id with
  | none =>
    have := List.find?_eq_none.mp found request mem
    simp at this
  | some other =>
    obtain ⟨also, same⟩ := mem_of_get? found
    rw [Holder.eq_of_id h.nodup also mem same]

/-- Every pending request is found under its number and not handled. -/
theorem Consistent.unhandled?_of_mem (h : table.Consistent) (mem : request ∈ table.pending) :
    table.unhandled? request.id = some request := by
  unfold unhandled?
  rw [h.get?_of_mem mem]
  simp [h.unhandled request mem]

/-- A holder that is put in the place of another one. -/
theorem holder?_setHolder (table : RequestTable) (entity other : EntityId) (holder : Holder) :
    (table.setHolder entity holder).holder? other =
      if other = entity then (if holder.isEmpty then none else some holder)
      else table.holder? other := by
  have kept : other ≠ entity →
      (table.entities.filter fun entry => entry.1 ≠ entity).find?
        (fun entry => decide (entry.1 = other)) =
      table.entities.find? fun entry => decide (entry.1 = other) := by
    intro ne
    rw [List.find?_filter]
    congr 1
    funext entry
    by_cases eq : entry.1 = other
    · simp [eq, ne]
    · simp [eq]
  have struck : (table.entities.filter fun entry => entry.1 ≠ entity).find?
      (fun entry => decide (entry.1 = entity)) = none := by
    rw [List.find?_eq_none]
    intro entry mem
    simpa using (List.mem_filter.mp mem).2
  unfold holder? setHolder
  dsimp only
  by_cases same : other = entity
  · subst same
    rw [if_pos rfl]
    split
    · rw [struck]
      rfl
    · rw [List.find?_append, struck]
      simp
  · have away : ¬ entity = other := fun eq => same eq.symm
    rw [if_neg same]
    split
    · rw [kept same]
    · rw [List.find?_append, kept same]
      simp [away]

/-- The entities of the holders stay different when one is replaced. -/
theorem nodup_setHolder {holder : Holder} (nodup : (table.entities.map Prod.fst).Nodup) :
    ((table.setHolder entity holder).entities.map Prod.fst).Nodup := by
  have kept : ((table.entities.filter fun entry => entry.1 ≠ entity).map Prod.fst).Nodup :=
    nodup.sublist ((List.filter_sublist ..).map _)
  unfold setHolder
  dsimp only
  split
  · exact kept
  · rw [List.map_append, List.nodup_append]
    refine ⟨kept, by simp, ?_⟩
    intro other kept last eq
    obtain ⟨entry, mem, rfl⟩ := List.mem_map.mp kept
    have ne := (List.mem_filter.mp mem).2
    simp_all

/-- The holders in a consistent table are found under their entities. -/
theorem Consistent.holder?_of_mem (h : table.Consistent) {holder : Holder}
    (mem : (entity, holder) ∈ table.entities) : table.holder? entity = some holder := by
  unfold holder?
  cases found : table.entities.find? fun entry => decide (entry.1 = entity) with
  | none =>
    have := List.find?_eq_none.mp found _ mem
    simp at this
  | some entry =>
    have same : entry.1 = entity := by simpa using List.find?_some found
    have also := List.mem_of_find?_eq_some found
    have := List.inj_on_of_nodup_map h.keys also mem same
    rw [this]
    rfl

/-- The holder of an entity with pending requests is that of these requests. -/
theorem Consistent.eq_of_holder? (h : table.Consistent) {holder : Holder}
    (found : table.holder? entity = some holder) :
    holder = .ofRequests (table.toEntity entity) ∧ (table.toEntity entity).isEmpty = false := by
  rw [h.holders] at found
  split at found
  · exact absurd found (by simp)
  · next some => exact ⟨(Option.some.inj found).symm, by simpa using some⟩

/-- The holder of an entity, or an empty one, is that of its pending requests. -/
theorem Consistent.holder (h : table.Consistent) (entity : EntityId) :
    (table.holder? entity).getD .empty = .ofRequests (table.toEntity entity) := by
  rw [h.holders]
  split
  · next none =>
    rw [List.isEmpty_iff.mp none]
    rfl
  · rfl

/-- The table stays consistent when the pending requests to one entity change and the entity gets
their holder. -/
theorem Consistent.setHolder {pending : List Request} (h : table.Consistent)
    (nodup : (pending.map Request.id).Nodup) (unhandled : ∀ r ∈ pending, r.handled = false)
    (others : ∀ other, other ≠ entity →
      pending.filter (fun r => r.entity = other) = table.toEntity other) :
    Consistent
      { table.setHolder entity (.ofRequests (pending.filter fun r => r.entity = entity)) with
        pending := pending } := by
  refine ⟨nodup, unhandled, nodup_setHolder h.keys, ?_⟩
  intro other
  refine (holder?_setHolder table entity other _).trans ?_
  by_cases same : other = entity
  · subst same
    rw [if_pos rfl, Holder.isEmpty_ofRequests]
    rfl
  · rw [if_neg same, h.holders, ← others other same]
    rfl

/-- What the insertion of a request into a consistent table does. -/
theorem Consistent.insert? (h : table.Consistent) (inserted : table.insert? request = some after)
    (unhandled : request.handled = false) :
    after.Consistent ∧ after.pending = table.pending ++ [request] ∧
      ∀ r ∈ table.pending, r.id ≠ request.id := by
  unfold RequestTable.insert? at inserted
  split at inserted
  · exact absurd inserted (by simp)
  · next absent =>
    -- the number is looked up before the insertion
    have new : ∀ r ∈ table.pending, r.id ≠ request.id := by
      intro r mem eq
      refine absent ?_
      rw [← eq, h.get?_of_mem mem]
      rfl
    rw [h.holder] at inserted
    obtain ⟨holder, added, eq⟩ := Option.bind_eq_some_iff.mp inserted
    obtain rfl := Option.some.inj eq
    have requests : table.toEntity request.entity ++ [request] =
        (table.pending ++ [request]).filter fun r => r.entity = request.entity := by
      rw [List.filter_append]
      simp [toEntity]
    obtain ⟨rfl, -⟩ := Holder.add?_ofRequests added
    rw [requests]
    refine ⟨h.setHolder ?_ ?_ ?_, rfl, new⟩
    · rw [List.map_append, List.nodup_append]
      refine ⟨h.nodup, by simp, ?_⟩
      intro id pending other last
      obtain ⟨r, mem, rfl⟩ := List.mem_map.mp pending
      rw [List.mem_singleton.mp last]
      exact new r mem
    · intro r pending
      rcases List.mem_append.mp pending with mem | mem
      · exact h.unhandled r mem
      · rw [List.mem_singleton.mp mem]
        exact unhandled
    · intro other ne
      change (table.pending ++ [request]).filter (fun r => r.entity = other) = _
      rw [List.filter_append]
      simp [toEntity, ne.symm]

/-- A request with a new number can be inserted. -/
theorem Consistent.insert?_of_new (h : table.Consistent)
    (new : ∀ r ∈ table.pending, r.id ≠ request.id) : (table.insert? request).isSome = true := by
  have absent : table.get? request.id = none := by
    cases found : table.get? request.id with
    | none => rfl
    | some r =>
      obtain ⟨mem, same⟩ := mem_of_get? found
      exact absurd same (new r mem)
  have addable : ((Holder.ofRequests (table.toEntity request.entity)).add? request.kind
      request.id).isSome = true :=
    Holder.add?_ofRequests_of_new fun r mem => new r (List.mem_filter.mp mem).1
  obtain ⟨holder, added⟩ := Option.isSome_iff_exists.mp addable
  unfold RequestTable.insert?
  rw [absent, h.holder, added]
  rfl

/-- What taking a pending request out of a consistent table does. -/
theorem Consistent.take (h : table.Consistent) (mem : request ∈ table.pending) :
    (table.take request).Consistent ∧
      (table.take request).pending = table.pending.filter fun r => r.id ≠ request.id := by
  have left : (Holder.ofRequests (table.toEntity request.entity)).remove request.kind request.id =
      .ofRequests ((table.pending.filter fun r => r.id ≠ request.id).filter fun r =>
        r.entity = request.entity) := by
    have sub : ((table.toEntity request.entity).map Request.id).Nodup :=
      h.nodup.sublist ((List.filter_sublist ..).map _)
    have own : request ∈ table.toEntity request.entity :=
      List.mem_filter.mpr ⟨mem, by simp⟩
    rw [Holder.remove_ofRequests sub own]
    unfold toEntity
    rw [List.filter_filter, List.filter_filter]
    congr 1
    refine List.filter_congr ?_
    intro r _
    rw [Bool.and_comm]
  refine ⟨?_, rfl⟩
  unfold RequestTable.take
  dsimp only
  rw [h.holder, left]
  refine h.setHolder (h.nodup.sublist ((List.filter_sublist ..).map _)) ?_ ?_
  · exact fun r live => h.unhandled r (List.mem_filter.mp live).1
  · intro other ne
    rw [List.filter_filter]
    refine List.filter_congr ?_
    intro r live
    by_cases same : r.entity = other
    · have apart : r.id ≠ request.id := by
        intro eq
        rw [Holder.eq_of_id h.nodup live mem eq] at same
        exact ne same.symm
      simp [same, apart]
    · simp [same]

/-- What dropping requests from a consistent table does. -/
theorem Consistent.dropFromTable (ids : List RequestId) :
    ∀ {table : RequestTable}, table.Consistent →
      (Scheduler.dropFromTable ids table).Consistent ∧
        (Scheduler.dropFromTable ids table).pending =
          table.pending.filter fun r => r.id ∉ ids := by
  induction ids with
  | nil =>
    intro table h
    exact ⟨h, by simp [Scheduler.dropFromTable]⟩
  | cons id rest ih =>
    intro table h
    unfold Scheduler.dropFromTable
    cases found : table.get? id with
    | none =>
      obtain ⟨consistent, pending⟩ := ih h
      refine ⟨consistent, pending.trans (List.filter_congr ?_)⟩
      intro r live
      have ne : r.id ≠ id := by
        rintro rfl
        rw [h.get?_of_mem live] at found
        exact absurd found (by simp)
      simp [ne]
    | some request =>
      obtain ⟨mem, same⟩ := mem_of_get? found
      obtain ⟨taken, pending⟩ := h.take mem
      obtain ⟨consistent, dropped⟩ := ih taken
      refine ⟨consistent, dropped.trans ?_⟩
      rw [pending, List.filter_filter, same]
      refine List.filter_congr ?_
      intro r _
      by_cases eq : r.id = id <;> simp [eq]

end RequestTable

end ScriptScheduler
