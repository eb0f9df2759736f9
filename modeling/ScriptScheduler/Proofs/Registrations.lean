import Mathlib.Algebra.GroupWithZero.Nat
import Mathlib.Data.List.Sort
import ScriptScheduler.Proofs.RequestTable

/-!
# Registrations

A holder is a list of registrations, each a kind and a request number, in the order in which they
were made and with no number twice (`holdersListRegistrations`). Two ways to keep such a list are
compared with it: the holder, which has a queue for every kind, and a map from kinds to queues
(`KeyedHolder`). The map is empty when it has no entry, whatever is in the queues. So its entries
must be those of the kinds with requests, and the entry of a kind goes with its last request.
-/

namespace ScriptScheduler

/-! ### The order of the kinds -/

namespace RequestKind

/-- The place of a kind in the order. -/
def rank (kind : RequestKind) : Nat := all.idxOf kind

/-- Kinds in the same place are the same. -/
theorem rank_injective : Function.Injective rank := by
  intro kind other
  cases kind <;> cases other <;> decide

/-- The order of the kinds. -/
def order : RequestKind → RequestKind → Ordering := compareOn rank

instance : Std.TransCmp order := inferInstanceAs (Std.TransCmp (compareOn rank))

instance : Std.LawfulEqCmp order where
  eq_of_compare same := rank_injective (Nat.compare_eq_eq.mp same)

/-- Every kind has its place. -/
theorem mem_all (kind : RequestKind) : kind ∈ all := by
  cases kind <;> decide

/-- All kinds stand in their order. -/
theorem pairwise_all : all.Pairwise fun kind other => order kind other = .lt := by
  decide

end RequestKind

/-! ### Ways to keep request numbers -/

/-- A call that changes a holder. -/
inductive HolderCall where
  | add (kind : RequestKind) (id : RequestId)
  | remove (kind : RequestKind) (id : RequestId)
  | drain

/-- What such a call answers. -/
inductive HolderAnswer where
  | done (success : Bool)
  | drained (ids : List RequestId)

/-- What a holder shows. -/
@[ext] structure HolderView where
  ids : List RequestId
  size : Nat
  isEmpty : Bool
  contains : RequestId → Bool
  find? : RequestKind → Option RequestId → Option RequestId

/-- A way to keep request numbers. Adding and removing say whether they did anything. -/
structure Keeping (σ : Type) where
  empty : σ
  add : σ → RequestKind → RequestId → Bool × σ
  remove : σ → RequestKind → RequestId → Bool × σ
  view : σ → HolderView

namespace Keeping

variable {σ τ : Type}

/-- Performs a call. -/
def perform (keeping : Keeping σ) (held : σ) : HolderCall → HolderAnswer × σ
  | .add kind id => (.done (keeping.add held kind id).1, (keeping.add held kind id).2)
  | .remove kind id => (.done (keeping.remove held kind id).1, (keeping.remove held kind id).2)
  | .drain => (.drained (keeping.view held).ids, keeping.empty)

/-- Performs calls one after the other and collects their answers. -/
def run (keeping : Keeping σ) : List HolderCall → σ → List HolderAnswer × σ
  | [], held => ([], held)
  | call :: rest, held =>
    let (answer, held) := keeping.perform held call
    let (answers, held) := keeping.run rest held
    (answer :: answers, held)

/-- What is held after calls on what is empty at first. -/
def after (keeping : Keeping σ) (calls : List HolderCall) : σ :=
  (keeping.run calls keeping.empty).2

/-- Related contents answer every call alike and stay related. -/
structure Follows (keeping : Keeping σ) (model : Keeping τ) (related : σ → τ → Prop) : Prop where
  empty : related keeping.empty model.empty
  add : ∀ held list kind id, related held list →
    (keeping.add held kind id).1 = (model.add list kind id).1 ∧
      related (keeping.add held kind id).2 (model.add list kind id).2
  remove : ∀ held list kind id, related held list →
    (keeping.remove held kind id).1 = (model.remove list kind id).1 ∧
      related (keeping.remove held kind id).2 (model.remove list kind id).2
  view : ∀ held list, related held list → keeping.view held = model.view list

namespace Follows

variable {keeping : Keeping σ} {model : Keeping τ} {related : σ → τ → Prop}

/-- Related contents answer a call alike and stay related. -/
theorem perform (follows : keeping.Follows model related) {held : σ} {list : τ}
    (same : related held list) (call : HolderCall) :
    (keeping.perform held call).1 = (model.perform list call).1 ∧
      related (keeping.perform held call).2 (model.perform list call).2 := by
  cases call with
  | add kind id =>
    obtain ⟨answer, after⟩ := follows.add held list kind id same
    exact ⟨congrArg HolderAnswer.done answer, after⟩
  | remove kind id =>
    obtain ⟨answer, after⟩ := follows.remove held list kind id same
    exact ⟨congrArg HolderAnswer.done answer, after⟩
  | drain =>
    refine ⟨?_, follows.empty⟩
    exact congrArg (fun view : HolderView => HolderAnswer.drained view.ids)
      (follows.view held list same)

/-- Related contents answer calls alike and stay related. -/
theorem run (follows : keeping.Follows model related) (calls : List HolderCall) :
    ∀ {held : σ} {list : τ}, related held list →
      (keeping.run calls held).1 = (model.run calls list).1 ∧
        related (keeping.run calls held).2 (model.run calls list).2 := by
  induction calls with
  | nil => exact fun same => ⟨rfl, same⟩
  | cons call rest ih =>
    intro held list same
    obtain ⟨answer, next⟩ := follows.perform same call
    obtain ⟨answers, after⟩ := ih next
    exact ⟨congrArg₂ List.cons answer answers, after⟩

end Follows

end Keeping

/-! ### Lists of registrations -/

/-- Kinds and request numbers in order of registration. -/
abbrev Registrations := List (RequestKind × RequestId)

namespace Registrations

variable {list : Registrations} {kind : RequestKind} {id : RequestId}

/-- Whether a number is registered under any kind. -/
def contains (list : Registrations) (id : RequestId) : Bool := list.any fun entry => entry.2 = id

/-- Registers a number at the end, unless it is registered. -/
def add (list : Registrations) (kind : RequestKind) (id : RequestId) : Bool × Registrations :=
  if contains list id then (false, list) else (true, list ++ [(kind, id)])

/-- Takes out a registration, if it is there. -/
def remove (list : Registrations) (kind : RequestKind) (id : RequestId) : Bool × Registrations :=
  (decide ((kind, id) ∈ list), list.erase (kind, id))

/-- The kinds of two registrations are in order. -/
def inOrder (a b : RequestKind × RequestId) : Bool := a.1.rank ≤ b.1.rank

/-- The numbers by kind, those of a kind in order of registration. -/
def ids (list : Registrations) : List RequestId := (list.mergeSort inOrder).map Prod.snd

/-- The number registered first under a kind, or the one asked for if it is registered under that
kind. -/
def find? (list : Registrations) (kind : RequestKind) : Option RequestId → Option RequestId
  | none => (List.find? (fun entry => entry.1 = kind) list).map Prod.snd
  | some id => if (kind, id) ∈ list then some id else none

/-- What a list of registrations shows. -/
def view (list : Registrations) : HolderView where
  ids := ids list
  size := list.length
  isEmpty := list.isEmpty
  contains := contains list
  find? := find? list

/-- To keep request numbers as a list of registrations. -/
def keeping : Keeping Registrations := ⟨[], add, remove, view⟩

/-! The numbers of a kind make up a queue. -/

/-- The numbers registered under a kind. -/
def queue (list : Registrations) (kind : RequestKind) : List RequestId :=
  (list.filter fun entry => entry.1 = kind).map Prod.snd

theorem mem_queue : id ∈ queue list kind ↔ (kind, id) ∈ list := by
  simp [queue]

/-- A number is registered if it is in a queue. -/
theorem contains_iff : contains list id = true ↔ ∃ kind, id ∈ queue list kind := by
  simp [contains, mem_queue]

/-- The registrations under a kind are those of the numbers in its queue. -/
theorem filter_eq_map_queue (list : Registrations) (kind : RequestKind) :
    (list.filter fun entry => entry.1 = kind) = (queue list kind).map (Prod.mk kind) := by
  unfold queue
  rw [List.map_map]
  refine (List.map_id _).symm.trans (List.map_congr_left ?_)
  rintro ⟨place, number⟩ mem
  obtain rfl : place = kind := by simpa using (List.mem_filter.mp mem).2
  rfl

/-- A registration goes to the end of the queue of its kind. -/
theorem queue_append (list : Registrations) (kind : RequestKind) (id : RequestId)
    (other : RequestKind) : queue (list ++ [(kind, id)]) other =
      if other = kind then queue list kind ++ [id] else queue list other := by
  unfold queue
  rw [List.filter_append, List.map_append]
  by_cases same : other = kind
  · subst same
    simp
  · have apart : ¬ kind = other := fun eq => same eq.symm
    simp [same, apart]

/-- A registration that is taken out leaves the queue of its kind. -/
theorem queue_erase (list : Registrations) (kind : RequestKind) (id : RequestId)
    (other : RequestKind) : queue (list.erase (kind, id)) other =
      if other = kind then (queue list kind).erase id else queue list other := by
  unfold queue
  rw [← List.erase_filter, filter_eq_map_queue]
  by_cases same : other = kind
  · subst same
    rw [if_pos rfl, ← List.map_erase (Prod.mk_right_injective other), List.map_map]
    exact List.map_id _
  · have absent : (kind, id) ∉ (queue list other).map (Prod.mk other) := by simp [same]
    rw [if_neg same, List.erase_of_not_mem absent, ← filter_eq_map_queue]

/-- The first registration under a kind has the first number of its queue. -/
theorem find?_eq (list : Registrations) (kind : RequestKind) (hint : Option RequestId) :
    find? list kind hint = match hint with
      | none => (queue list kind).head?
      | some id => if id ∈ queue list kind then some id else none := by
  cases hint with
  | none => simp [find?, queue]
  | some id => simp [find?, mem_queue]

/-! The sort by kind is stable: it puts one queue behind the other. -/

theorem inOrder_trans (a b c : RequestKind × RequestId) (ab : inOrder a b = true)
    (bc : inOrder b c = true) : inOrder a c = true :=
  decide_eq_true (Nat.le_trans (of_decide_eq_true ab) (of_decide_eq_true bc))

theorem inOrder_total (a b : RequestKind × RequestId) : (inOrder a b || inOrder b a) = true := by
  unfold inOrder
  rw [Bool.or_eq_true, decide_eq_true_iff, decide_eq_true_iff]
  exact Nat.le_total _ _

/-- A list sorted by kind is made up of its parts of one kind. -/
theorem eq_flatMap_of_sorted (sorted : list.Pairwise fun a b => inOrder a b = true) :
    list = RequestKind.all.flatMap fun kind => list.filter fun entry => entry.1 = kind := by
  induction sorted with
  | nil => rfl
  | @cons entry rest first _ ih =>
    obtain ⟨place, id⟩ := entry
    have absent : ∀ kind : RequestKind, kind.rank < place.rank →
        (rest.filter fun entry => entry.1 = kind) = [] := by
      intro kind before
      rw [List.filter_eq_nil_iff]
      intro later mem same
      have behind : place.rank ≤ later.1.rank := of_decide_eq_true (first later mem)
      rw [of_decide_eq_true same] at behind
      omega
    simp only [RequestKind.all, List.flatMap_cons, List.flatMap_nil, List.append_nil] at ih ⊢
    cases place with
    | targetObject => simpa using ih
    | targetCursor =>
      rw [absent .targetObject (by decide)] at ih
      simpa [absent .targetObject (by decide)] using ih
    | textEntry =>
      rw [absent .targetObject (by decide), absent .targetCursor (by decide)] at ih
      simpa [absent .targetObject (by decide), absent .targetCursor (by decide)] using ih

/-- The sort keeps the parts of one kind. -/
theorem filter_mergeSort (list : Registrations) (kind : RequestKind) :
    ((list.mergeSort inOrder).filter fun entry => entry.1 = kind) =
      list.filter fun entry => entry.1 = kind := by
  have sorted : (list.filter fun entry => entry.1 = kind).Pairwise fun a b =>
      inOrder a b = true := by
    refine List.pairwise_of_forall_mem_list ?_
    intro a memA b memB
    obtain rfl : a.1 = kind := by simpa using (List.mem_filter.mp memA).2
    have same : b.1 = a.1 := by simpa using (List.mem_filter.mp memB).2
    exact decide_eq_true (Nat.le_of_eq (congrArg RequestKind.rank same.symm))
  have kept := (List.sublist_mergeSort inOrder_trans inOrder_total sorted
    List.filter_sublist).filter fun entry => decide (entry.1 = kind)
  rw [List.filter_filter] at kept
  simp only [Bool.and_self] at kept
  refine (kept.eq_of_length ?_).symm
  exact ((List.mergeSort_perm list inOrder).filter _).length_eq.symm

/-- The numbers are those of the queues, in the order of the kinds. -/
theorem ids_eq_flatMap (list : Registrations) :
    ids list = RequestKind.all.flatMap (queue list) := by
  unfold ids
  rw [eq_flatMap_of_sorted (List.pairwise_mergeSort inOrder_trans inOrder_total list),
    List.map_flatMap]
  simp only [filter_mergeSort]
  rfl

/-- A number is registered just if it is among the numbers. -/
theorem mem_ids : id ∈ ids list ↔ contains list id = true := by
  rw [ids_eq_flatMap, List.mem_flatMap, contains_iff]
  exact ⟨fun ⟨kind, _, mem⟩ => ⟨kind, mem⟩, fun ⟨kind, mem⟩ => ⟨kind, kind.mem_all, mem⟩⟩

/-- There are as many numbers as registrations. -/
theorem length_ids (list : Registrations) : (ids list).length = list.length := by
  unfold ids
  rw [List.length_map, List.length_mergeSort]

/-- There is no number just if there is no registration. -/
theorem isEmpty_ids (list : Registrations) : (ids list).isEmpty = list.isEmpty := by
  rw [Bool.eq_iff_iff, List.isEmpty_iff, List.isEmpty_iff, ← List.length_eq_zero_iff, length_ids,
    List.length_eq_zero_iff]

end Registrations

/-! ### Holders -/

namespace Holder

/-- To keep request numbers in a holder. -/
def keeping : Keeping Holder where
  empty := .empty
  add h kind id :=
    match h.add? kind id with
    | some added => (true, added)
    | none => (false, h)
  remove h kind id := (h.has kind id, h.remove kind id)
  view h := ⟨h.ids, h.size, h.isEmpty, h.contains, h.find?⟩

/-- A holder has the queues of a list of registrations. -/
def Lists (h : Holder) (list : Registrations) : Prop :=
  ∀ kind, h.queue kind = Registrations.queue list kind

variable {h : Holder} {list : Registrations}

/-- The numbers of a holder are those of its queues, in the order of the kinds. -/
theorem ids_eq_flatMap (h : Holder) : h.ids = RequestKind.all.flatMap h.queue := by
  simp [ids, RequestKind.all, queue]

/-- A holder shows what its list of registrations shows. -/
theorem Lists.view (lists : h.Lists list) : keeping.view h = Registrations.view list := by
  have ids : h.ids = Registrations.ids list := by
    rw [ids_eq_flatMap, Registrations.ids_eq_flatMap, funext lists]
  ext1
  · exact ids
  · exact (congrArg List.length ids).trans (Registrations.length_ids list)
  · exact (congrArg List.isEmpty ids).trans (Registrations.isEmpty_ids list)
  · funext id
    change h.ids.contains id = Registrations.contains list id
    rw [Bool.eq_iff_iff, List.contains_iff_mem, ids, Registrations.mem_ids]
  · funext kind hint
    change h.find? kind hint = Registrations.find? list kind hint
    rw [Registrations.find?_eq]
    cases hint <;> simp [find?, has, lists kind]

/-- A holder and its list of registrations hold the same numbers. -/
theorem Lists.contains (lists : h.Lists list) (id : RequestId) :
    h.contains id = Registrations.contains list id :=
  congrFun (congrArg HolderView.contains lists.view) id

/-- A holder with the queue of a list of registrations for a kind, and its own queues otherwise. -/
theorem Lists.setQueue (lists : h.Lists list) {changed : Registrations} {kind : RequestKind}
    {ids : List RequestId} (queues : ∀ other, Registrations.queue changed other =
      if other = kind then ids else Registrations.queue list other) :
    (h.setQueue kind ids).Lists changed := by
  intro other
  rw [queues other]
  by_cases same : other = kind
  · subst same
    rw [queue_setQueue_self, if_pos rfl]
  · rw [queue_setQueue_of_ne _ _ same, if_neg same, lists other]

/-- A number that is put into a queue is registered at the end. -/
theorem Lists.append (lists : h.Lists list) (kind : RequestKind) (id : RequestId) :
    (h.setQueue kind (h.queue kind ++ [id])).Lists (list ++ [(kind, id)]) := by
  refine lists.setQueue fun other => ?_
  rw [Registrations.queue_append, lists kind]

/-- A number that is removed is no longer registered. -/
theorem Lists.remove (lists : h.Lists list) (kind : RequestKind) (id : RequestId) :
    (h.remove kind id).Lists (list.erase (kind, id)) := by
  refine lists.setQueue fun other => ?_
  rw [Registrations.queue_erase, lists kind]

/-- A holder follows its list of registrations. -/
theorem follows : keeping.Follows Registrations.keeping Lists where
  empty kind := by cases kind <;> rfl
  add h list kind id lists := by
    unfold keeping Registrations.keeping add? Registrations.add
    dsimp only
    rw [lists.contains]
    cases Registrations.contains list id with
    | true => exact ⟨rfl, lists⟩
    | false => exact ⟨rfl, lists.append kind id⟩
  remove h list kind id lists := by
    refine ⟨?_, lists.remove kind id⟩
    change (h.queue kind).contains id = decide ((kind, id) ∈ list)
    rw [Bool.eq_iff_iff, List.contains_iff_mem, lists kind, Registrations.mem_queue,
      decide_eq_true_iff]
  view _ _ lists := lists.view

end Holder

/-! ### Maps of queues -/

/-- The queues of a holder under their kinds. A kind without requests has no entry. -/
structure KeyedHolder where
  queues : Std.TreeMap RequestKind (List RequestId) RequestKind.order

namespace KeyedHolder

/-- No kind has an entry. -/
def empty : KeyedHolder := ⟨∅⟩

/-- The queues in the order of their kinds. -/
def values (h : KeyedHolder) : List (List RequestId) := h.queues.toList.map Prod.snd

/-- Whether a number is held under any kind. -/
def contains (h : KeyedHolder) (id : RequestId) : Bool := h.values.any fun ids => ids.contains id

/-- Registers a number at the end of the queue of a kind, which gets an entry if it has none,
unless the number is held. -/
def add (h : KeyedHolder) (kind : RequestKind) (id : RequestId) : Bool × KeyedHolder :=
  if h.contains id then (false, h)
  else (true, ⟨h.queues.insert kind (h.queues.getD kind [] ++ [id])⟩)

/-- Removes a number from the queue of a kind, and the entry of the kind with its last number. -/
def remove (h : KeyedHolder) (kind : RequestKind) (id : RequestId) : Bool × KeyedHolder :=
  match h.queues[kind]? with
  | none => (false, h)
  | some ids =>
    match ids.idxOf? id with
    | none => (false, h)
    | some place =>
      let rest := ids.eraseIdx place
      (true, ⟨if rest.isEmpty then h.queues.erase kind else h.queues.insert kind rest⟩)

/-- The request registered first under a kind, or the one asked for if it is held under that
kind. -/
def find? (h : KeyedHolder) (kind : RequestKind) (hint : Option RequestId) : Option RequestId :=
  h.queues[kind]?.bind fun ids =>
    match hint with
    | none => ids.head?
    | some id => ids.find? fun held => held = id

/-- What a map of queues shows. -/
def view (h : KeyedHolder) : HolderView where
  ids := h.values.flatten
  size := (h.values.map List.length).sum
  isEmpty := h.queues.isEmpty
  contains := h.contains
  find? := h.find?

/-- To keep request numbers in a map of queues. -/
def keeping : Keeping KeyedHolder := ⟨empty, add, remove, view⟩

/-- A map has the queues of a list of registrations, and no entry for an empty queue. -/
def Lists (h : KeyedHolder) (list : Registrations) : Prop :=
  ∀ kind, h.queues[kind]? =
    if Registrations.queue list kind = [] then none else some (Registrations.queue list kind)

variable {h : KeyedHolder} {list : Registrations}

/-- A number that is looked for in a queue is found if it is there. -/
theorem find?_number (id : RequestId) (ids : List RequestId) :
    (ids.find? fun held => held = id) = if id ∈ ids then some id else none := by
  induction ids with
  | nil => rfl
  | cons first rest ih =>
    rw [List.find?_cons]
    by_cases same : first = id
    · simp [same]
    · simp [same, ih, Ne.symm same]

/-- An entry stands before another one. -/
def Before (a b : RequestKind × List RequestId) : Prop := RequestKind.order a.1 b.1 = .lt

instance : Std.Irrefl Before where
  irrefl a before := absurd (Std.ReflCmp.compare_self.symm.trans before) (by decide)

instance : Std.Antisymm Before where
  antisymm _ _ before after :=
    absurd (Eq.symm before |>.trans (Std.OrientedCmp.gt_of_lt after)) (by decide)

/-- The entries of the map stand in the order of their kinds. -/
theorem toList_eq (h : KeyedHolder) : h.queues.toList =
    RequestKind.all.filterMap fun kind => h.queues[kind]?.map (Prod.mk kind) := by
  have sorted : (RequestKind.all.filterMap fun kind =>
      h.queues[kind]?.map (Prod.mk kind)).Pairwise Before := by
    refine RequestKind.pairwise_all.filterMap _ ?_
    intro kind other before entry here entry' there
    obtain ⟨_, -, rfl⟩ := Option.map_eq_some_iff.mp here
    obtain ⟨_, -, rfl⟩ := Option.map_eq_some_iff.mp there
    exact before
  have ordered : h.queues.toList.Pairwise Before := Std.TreeMap.ordered_keys_toList
  refine ordered.eq_of_mem_iff sorted ?_
  rintro ⟨kind, ids⟩
  rw [Std.TreeMap.mem_toList_iff_getElem?_eq_some, List.mem_filterMap]
  simp [RequestKind.mem_all]

/-- The queues are those of the kinds with an entry. -/
theorem values_eq (h : KeyedHolder) :
    h.values = RequestKind.all.filterMap fun kind => h.queues[kind]? := by
  unfold values
  rw [toList_eq, List.map_filterMap]
  simp [Function.comp_def]

/-- The queues one behind the other are those of the list of registrations. -/
theorem Lists.flatten_values (lists : h.Lists list) :
    h.values.flatten = Registrations.ids list := by
  rw [values_eq, funext lists, Registrations.ids_eq_flatMap]
  generalize RequestKind.all = kinds
  induction kinds with
  | nil => rfl
  | cons kind rest ih =>
    rw [List.flatMap_cons, ← ih, List.filterMap_cons]
    by_cases none : Registrations.queue list kind = []
    · simp [none]
    · simp [none]

/-- A kind has an entry just if there is a registration under it. -/
theorem Lists.mem (lists : h.Lists list) (kind : RequestKind) :
    kind ∈ h.queues ↔ Registrations.queue list kind ≠ [] := by
  rw [Std.TreeMap.mem_iff_isSome_getElem?, lists kind]
  split <;> simp_all

/-- No kind has an entry just if there is no registration. -/
theorem Lists.isEmpty (lists : h.Lists list) : h.queues.isEmpty = list.isEmpty := by
  rw [Bool.eq_iff_iff, Std.TreeMap.isEmpty_iff_forall_not_mem, List.isEmpty_iff,
    List.eq_nil_iff_forall_not_mem]
  simp only [lists.mem, not_not, List.eq_nil_iff_forall_not_mem, Registrations.mem_queue]
  exact ⟨fun none entry => none entry.1 entry.2, fun none kind id => none (kind, id)⟩

/-- A map of queues shows what its list of registrations shows. -/
theorem Lists.view (lists : h.Lists list) : keeping.view h = Registrations.view list := by
  have ids := lists.flatten_values
  ext1
  · exact ids
  · change (h.values.map List.length).sum = list.length
    rw [← List.length_flatten, ids, Registrations.length_ids]
  · exact lists.isEmpty
  · funext id
    change h.contains id = Registrations.contains list id
    rw [Bool.eq_iff_iff, ← Registrations.mem_ids, ← ids]
    simp [contains]
  · funext kind hint
    change h.find? kind hint = Registrations.find? list kind hint
    rw [Registrations.find?_eq]
    unfold find?
    rw [lists kind]
    split
    · next none => cases hint <;> simp [none]
    · cases hint with
      | none => rfl
      | some id => exact find?_number id _

/-- A map of queues and its list of registrations hold the same numbers. -/
theorem Lists.contains (lists : h.Lists list) (id : RequestId) :
    h.contains id = Registrations.contains list id :=
  congrFun (congrArg HolderView.contains lists.view) id

/-- A map in which a kind has another queue, or no entry instead of an empty queue. -/
theorem Lists.alter (lists : h.Lists list) {changed : Registrations} {kind : RequestKind}
    {ids : List RequestId} (queues : ∀ other, Registrations.queue changed other =
      if other = kind then ids else Registrations.queue list other) :
    Lists ⟨if ids.isEmpty then h.queues.erase kind else h.queues.insert kind ids⟩ changed := by
  intro other
  rw [queues other]
  by_cases same : kind = other
  · subst same
    cases ids <;> simp
  · have apart : ¬ RequestKind.order kind other = .eq := fun eq =>
      same (Std.LawfulEqCmp.eq_of_compare eq)
    have different : ¬ other = kind := fun eq => same eq.symm
    dsimp only
    rw [if_neg different, ← lists other]
    split
    · rw [Std.TreeMap.getElem?_erase, if_neg apart]
    · rw [Std.TreeMap.getElem?_insert, if_neg apart]

/-- A number that is put into the queue of its kind is registered at the end. -/
theorem Lists.append (lists : h.Lists list) (kind : RequestKind) (id : RequestId) :
    Lists ⟨h.queues.insert kind (h.queues.getD kind [] ++ [id])⟩ (list ++ [(kind, id)]) := by
  have queue : h.queues.getD kind [] = Registrations.queue list kind := by
    rw [Std.TreeMap.getD_eq_getD_getElem?, lists kind]
    split <;> simp_all
  have altered := lists.alter (Registrations.queue_append list kind id)
  have some : ¬ (Registrations.queue list kind ++ [id]).isEmpty = true := by simp
  rwa [if_neg some, ← queue] at altered

/-- A number is removed from the queue of its kind if it is there. -/
theorem Lists.remove_eq (lists : h.Lists list) (kind : RequestKind) (id : RequestId) :
    h.remove kind id =
      if id ∈ Registrations.queue list kind then
        (true, ⟨if ((Registrations.queue list kind).erase id).isEmpty then h.queues.erase kind
          else h.queues.insert kind ((Registrations.queue list kind).erase id)⟩)
      else (false, h) := by
  unfold remove
  rw [lists kind]
  by_cases none : Registrations.queue list kind = []
  · simp [none]
  · rw [if_neg none]
    dsimp only
    generalize Registrations.queue list kind = ids
    cases found : ids.idxOf? id with
    | none => rw [if_neg (List.idxOf?_eq_none_iff.mp found)]
    | some place =>
      have mem : id ∈ ids := List.isSome_idxOf?.mp (by rw [found]; rfl)
      have first : ids.idxOf id = place := by rw [List.idxOf_eq_getD_idxOf?, found]; rfl
      rw [if_pos mem, ← List.eraseIdx_idxOf_eq_erase, first]

/-- A map of queues follows its list of registrations. -/
theorem follows : keeping.Follows Registrations.keeping Lists where
  empty kind := Std.TreeMap.getElem?_emptyc
  add h list kind id lists := by
    unfold keeping Registrations.keeping add Registrations.add
    dsimp only
    rw [lists.contains]
    cases Registrations.contains list id with
    | true => exact ⟨rfl, lists⟩
    | false => exact ⟨rfl, lists.append kind id⟩
  remove h list kind id lists := by
    change (h.remove kind id).1 = decide ((kind, id) ∈ list) ∧
      (h.remove kind id).2.Lists (list.erase (kind, id))
    rw [lists.remove_eq]
    by_cases mem : (kind, id) ∈ list
    · rw [if_pos (Registrations.mem_queue.mpr mem)]
      exact ⟨(decide_eq_true mem).symm, lists.alter (Registrations.queue_erase list kind id)⟩
    · rw [if_neg (Registrations.mem_queue.not.mpr mem), List.erase_of_not_mem mem]
      exact ⟨(decide_eq_false mem).symm, lists⟩
  view _ _ lists := lists.view

end KeyedHolder

/-! ### Runs of calls -/

/-- A call registers no number twice. -/
theorem Registrations.nodup_perform {list : Registrations} (nodup : (list.map Prod.snd).Nodup)
    (call : HolderCall) : ((keeping.perform list call).2.map Prod.snd).Nodup := by
  cases call with
  | add kind id =>
    change ((add list kind id).2.map Prod.snd).Nodup
    unfold add
    cases found : contains list id with
    | true => exact nodup
    | false =>
      have new : id ∉ list.map Prod.snd := by
        intro mem
        obtain ⟨⟨place, _⟩, registered, rfl⟩ := List.mem_map.mp mem
        rw [contains_iff.mpr ⟨place, mem_queue.mpr registered⟩] at found
        exact Bool.noConfusion found
      change ((list ++ [(kind, id)]).map Prod.snd).Nodup
      rw [List.map_append]
      exact nodup.append (List.nodup_singleton id) (List.disjoint_singleton.mpr new)
  | remove kind id => exact nodup.sublist (List.erase_sublist.map _)
  | drain => exact List.nodup_nil

/-- Calls register no number twice. -/
theorem Registrations.nodup_run (calls : List HolderCall) :
    ∀ {list : Registrations}, (list.map Prod.snd).Nodup →
      ((keeping.run calls list).2.map Prod.snd).Nodup := by
  induction calls with
  | nil => exact id
  | cons call rest ih => exact fun nodup => ih (nodup_perform nodup call)

/-- Kept in this way, request numbers are a list of registrations: all calls are answered as the
list answers them, after them there is to be seen what the list shows, and no number is registered
twice. -/
structure Keeping.ListsRegistrations {σ : Type} (keeping : Keeping σ) (calls : List HolderCall) :
    Prop where
  answers : (keeping.run calls keeping.empty).1 = (Registrations.keeping.run calls []).1
  view : keeping.view (keeping.after calls) =
    Registrations.view (Registrations.keeping.after calls)
  distinct : ((Registrations.keeping.after calls).map Prod.snd).Nodup
  isEmpty_iff : (keeping.view (keeping.after calls)).isEmpty = true ↔
    (keeping.view (keeping.after calls)).size = 0

/-- What follows its list of registrations is one after all calls. -/
theorem Keeping.Follows.listsRegistrations {σ : Type} {keeping : Keeping σ}
    {related : σ → Registrations → Prop}
    (follows : keeping.Follows Registrations.keeping related) (calls : List HolderCall) :
    keeping.ListsRegistrations calls := by
  obtain ⟨answers, after⟩ := follows.run calls follows.empty
  have view : keeping.view (keeping.after calls) =
      Registrations.view (Registrations.keeping.after calls) := follows.view _ _ after
  refine ⟨answers, view, Registrations.nodup_run calls List.nodup_nil, ?_⟩
  rw [view]
  exact List.isEmpty_iff_length_eq_zero

/-- Holders are lists of registrations, and so are the maps of queues by kind. -/
theorem holdersListRegistrations (calls : List HolderCall) :
    Holder.keeping.ListsRegistrations calls ∧ KeyedHolder.keeping.ListsRegistrations calls :=
  ⟨Holder.follows.listsRegistrations calls, KeyedHolder.follows.listsRegistrations calls⟩

/-- A number is registered once, whatever the kind, and the numbers come out by kind. -/
example : (Holder.keeping.run [.add .textEntry ⟨9⟩, .add .targetObject ⟨4⟩, .add .textEntry ⟨4⟩,
    .remove .targetCursor ⟨9⟩, .drain] .empty).1 =
      [.done true, .done true, .done false, .done false, .drained [⟨4⟩, ⟨9⟩]] := rfl

end ScriptScheduler
