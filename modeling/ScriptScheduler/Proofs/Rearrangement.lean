import Mathlib.Data.List.Permutation
import ScriptScheduler.Json.Tagged

/-!
# Trees whose objects are in another order

The members of an object have no order of their own. One writer lists them as the fields were
declared, another one sorts them, and a tree that was read into memory and printed again may have
any order. So what a reader makes of a tree should be the same for all trees that differ from it in
the order of members only, at any depth (`Json.Rearranged`). The plain form of a tree is one of
them, unless an object names a key twice (`Json.rearranged_plain`).

Readers of records look their fields up by name, so the order does not reach them
(`Json.fields?_of_perm`). A tag may stand anywhere in its record; what is in front of it is set
aside, and that takes nothing away from a tree that is readable throughout
(`Json.untag?_of_rearranged`).
-/

namespace ScriptScheduler

/-! ### Sorting members -/

section Sorting

variable {α : Type} {key : String} {value : α} {members members' : List (String × α)}

/-- An insertion adds its key and no other. -/
theorem mem_keys_insertMember {k : String}
    (found : k ∈ (insertMember key value members).map Prod.fst) :
    k = key ∨ k ∈ members.map Prod.fst := by
  induction members with
  | nil => exact .inl (List.mem_singleton.mp found)
  | cons member rest ih =>
    unfold insertMember at found
    split at found
    · exact List.mem_cons.mp found
    · split at found
      · exact (List.mem_cons.mp found).imp_right (List.mem_cons_of_mem _)
      · rcases List.mem_cons.mp found with first | later
        · exact .inr (List.mem_cons.mpr (.inl first))
        · exact (ih later).imp_right (List.mem_cons_of_mem _)

/-- An insertion keeps the members sorted. -/
theorem sortedByKey_insertMember (sorted : SortedByKey members) :
    SortedByKey (insertMember key value members) := by
  induction members with
  | nil => exact List.pairwise_singleton _ _
  | cons member rest ih =>
    obtain ⟨least, sorted⟩ := List.pairwise_cons.mp sorted
    unfold insertMember
    split
    · next below =>
      refine List.pairwise_cons.mpr ⟨fun k found => ?_, List.pairwise_cons.mpr ⟨least, sorted⟩⟩
      rcases List.mem_cons.mp found with rfl | later
      · exact below
      · exact String.lt_trans below (least k later)
    · next notBelow =>
      split
      · next same => exact List.pairwise_cons.mpr ⟨same ▸ least, sorted⟩
      · next other =>
        refine List.pairwise_cons.mpr ⟨fun k found => ?_, ih sorted⟩
        rcases mem_keys_insertMember found with rfl | later
        · exact Decidable.byContradiction fun notAbove =>
            other (String.le_antisymm (String.not_lt.mp notAbove) (String.not_lt.mp notBelow))
        · exact least k later

/-- The insertion of a member with a new key adds it to the members. -/
theorem perm_insertMember (fresh : key ∉ members.map Prod.fst) :
    (insertMember key value members).Perm ((key, value) :: members) := by
  induction members with
  | nil => exact .refl _
  | cons member rest ih =>
    obtain ⟨other, later⟩ := not_or.mp (mt List.mem_cons.mpr fresh)
    unfold insertMember
    rw [if_neg other]
    split
    · exact .refl _
    · exact ((ih later).cons member).trans (.swap ..)

/-- Of two sorted members the first one has the smaller key. -/
theorem SortedByKey.byKey (sorted : SortedByKey members) :
    members.Pairwise fun first second => first.1 < second.1 :=
  List.pairwise_map.mp sorted

/-- Sorted members have each key once. -/
theorem SortedByKey.nodup (sorted : SortedByKey members) : (members.map Prod.fst).Nodup := by
  refine List.Pairwise.imp ?_ sorted
  rintro k _ below rfl
  exact String.lt_irrefl k below

/-- Sorting puts members in order. -/
theorem sortedByKey_sortMembers (members : List (String × α)) : SortedByKey (sortMembers members) :=
  List.foldlRecOn members _ List.Pairwise.nil fun _ sorted _ _ => sortedByKey_insertMember sorted

/-- Sorting on top of sorted members keeps all members if no key comes twice. -/
theorem perm_foldl_insertMember (sorted : List (String × α))
    (distinct : ((sorted ++ members).map Prod.fst).Nodup) :
    (members.foldl (fun sorted member => insertMember member.1 member.2 sorted) sorted).Perm
      (sorted ++ members) := by
  induction members generalizing sorted with
  | nil => rw [List.append_nil]; exact .refl _
  | cons member rest ih =>
    have moved : (member :: sorted ++ rest).Perm (sorted ++ member :: rest) :=
      List.perm_middle.symm
    have distinct := ((moved.map Prod.fst).nodup_iff).mpr distinct
    have fresh : member.1 ∉ sorted.map Prod.fst := fun found =>
      (List.nodup_cons.mp distinct).1
        (List.map_append ▸ List.mem_append_left _ found)
    have inserted : (insertMember member.1 member.2 sorted ++ rest).Perm (member :: sorted ++ rest) :=
      (perm_insertMember fresh).append_right rest
    exact (ih _ (((inserted.map Prod.fst).nodup_iff).mpr distinct)).trans (inserted.trans moved)

/-- Sorting keeps all members if no key comes twice. -/
theorem perm_sortMembers (distinct : (members.map Prod.fst).Nodup) :
    (sortMembers members).Perm members :=
  perm_foldl_insertMember [] distinct

/-- Members with given keys and values have one sorted order. -/
theorem eq_of_perm_of_sortedByKey (order : members.Perm members') (sorted : SortedByKey members)
    (sorted' : SortedByKey members') : members = members' :=
  List.Perm.eq_of_pairwise (fun _ _ _ _ below above => absurd below (String.lt_asymm above))
    sorted.byKey sorted'.byKey order

/-- Sorting undoes any change of the order of sorted members. -/
theorem sortMembers_of_perm (sorted : SortedByKey members) (order : members.Perm members') :
    sortMembers members' = members :=
  eq_of_perm_of_sortedByKey
    ((perm_sortMembers (((order.map Prod.fst).nodup_iff).mp sorted.nodup)).trans order.symm)
    (sortedByKey_sortMembers _) sorted

end Sorting

namespace Json

/-! ### Rearranged trees -/

mutual

/-- A tree with the members of its objects in another order, at any depth. -/
inductive Rearranged : Json → Json → Prop where
  | same (json : Json) : Rearranged json json
  | arr {items items' : List Json} (inside : RearrangedItems items items') :
    Rearranged (.arr items) (.arr items')
  | obj {members mid members' : List (String × Json)} (inside : RearrangedMembers members mid)
    (order : mid.Perm members') : Rearranged (.obj members) (.obj members')

/-- Each item is rearranged. -/
inductive RearrangedItems : List Json → List Json → Prop where
  | nil : RearrangedItems [] []
  | cons {item item' : Json} {rest rest' : List Json} (first : Rearranged item item')
    (later : RearrangedItems rest rest') : RearrangedItems (item :: rest) (item' :: rest')

/-- Each member's value is rearranged; the members stay in their order. -/
inductive RearrangedMembers : List (String × Json) → List (String × Json) → Prop where
  | nil : RearrangedMembers [] []
  | cons {key : String} {value value' : Json} {rest rest' : List (String × Json)}
    (first : Rearranged value value') (later : RearrangedMembers rest rest') :
    RearrangedMembers ((key, value) :: rest) ((key, value') :: rest')

end

/-- The tree is neither a list nor an object. -/
def IsLeaf : Json → Prop
  | .arr _ => False
  | .obj _ => False
  | _ => True

section Rearranged

variable {items items' : List Json} {members members' : List (String × Json)} {json json' : Json}
  {key : String}

theorem RearrangedItems.same : (items : List Json) → RearrangedItems items items
  | [] => .nil
  | item :: rest => .cons (.same item) (same rest)

theorem RearrangedMembers.same : (members : List (String × Json)) →
    RearrangedMembers members members
  | [] => .nil
  | (_, value) :: rest => .cons (.same value) (same rest)

/-- Rearranged members have the same keys. -/
theorem RearrangedMembers.keys (inside : RearrangedMembers members members') :
    members'.map Prod.fst = members.map Prod.fst := by
  induction members generalizing members' with
  | nil => cases inside; rfl
  | cons member rest ih =>
    cases inside with
    | cons first later => exact congrArg (List.cons _) (ih later)

/-- A tree without items and members has one arrangement only. -/
theorem Rearranged.eq_of_leaf (arranged : Rearranged json json') (leaf : json.IsLeaf) :
    json' = json := by
  cases arranged with
  | same => rfl
  | arr => exact leaf.elim
  | obj => exact leaf.elim

/-- A list is rearranged to a list. -/
theorem Rearranged.of_arr (arranged : Rearranged (.arr items) json') :
    ∃ items', json' = .arr items' ∧ RearrangedItems items items' := by
  cases arranged with
  | same => exact ⟨items, rfl, .same items⟩
  | arr inside => exact ⟨_, rfl, inside⟩

/-- An object is rearranged to an object. -/
theorem Rearranged.of_obj (arranged : Rearranged (.obj members) json') :
    ∃ mid members', json' = .obj members' ∧ RearrangedMembers members mid ∧ mid.Perm members' := by
  cases arranged with
  | same => exact ⟨members, members, rfl, .same members, .refl _⟩
  | obj inside order => exact ⟨_, _, rfl, inside, order⟩

/-- An empty object has one order only. -/
theorem Rearranged.of_empty (arranged : Rearranged (.obj []) json') : json' = .obj [] := by
  obtain ⟨mid, members', rfl, inside, order⟩ := arranged.of_obj
  cases inside
  rw [order.nil_eq]

/-- An object with a single member has one order only. -/
theorem Rearranged.of_single (arranged : Rearranged (.obj [(key, json)]) json') :
    ∃ value, json' = .obj [(key, value)] ∧ Rearranged json value := by
  obtain ⟨mid, members', rfl, inside, order⟩ := arranged.of_obj
  cases inside with
  | cons first later =>
    cases later
    exact ⟨_, congrArg Json.obj (List.singleton_perm.mp order).symm, first⟩

/-- An object with two members has two orders. -/
theorem Rearranged.of_pair {key₁ key₂ : String} {first second : Json}
    (arranged : Rearranged (.obj [(key₁, first), (key₂, second)]) json') :
    ∃ first' second', Rearranged first first' ∧ Rearranged second second' ∧
      (json' = .obj [(key₁, first'), (key₂, second')] ∨
        json' = .obj [(key₂, second'), (key₁, first')]) := by
  obtain ⟨mid, members', rfl, inside, order⟩ := arranged.of_obj
  cases inside with
  | cons first later =>
    cases later with
    | cons second later =>
      cases later
      exact ⟨_, _, first, second, (List.pair_perm.mp order).imp (congrArg _) (congrArg _)⟩

end Rearranged

/-! ### The plain form -/

mutual

/-- No object in the tree names a key twice. -/
def DistinctKeys : Json → Prop
  | .arr items => ItemsDistinct items
  | .obj members => (members.map Prod.fst).Nodup ∧ MembersDistinct members
  | _ => True

/-- No object in the items names a key twice. -/
def ItemsDistinct : List Json → Prop
  | [] => True
  | item :: rest => item.DistinctKeys ∧ ItemsDistinct rest

/-- No object in the members' values names a key twice. -/
def MembersDistinct : List (String × Json) → Prop
  | [] => True
  | (_, value) :: rest => value.DistinctKeys ∧ MembersDistinct rest

end

/-- A tree without members names no key twice. -/
theorem IsLeaf.distinct {json : Json} (leaf : json.IsLeaf) : json.DistinctKeys := by
  cases json with
  | arr | obj => exact leaf.elim
  | null | bool | int | double | str => trivial

mutual

/-- The plain form is a rearrangement of a tree without repeated keys. -/
theorem rearranged_plain : (json : Json) → json.DistinctKeys → Rearranged json json.plain
  | .arr items, distinct => .arr (rearranged_plainItems items distinct)
  | .obj members, distinct =>
    have inside := rearranged_plainMembers members distinct.2
    .obj inside (perm_sortMembers (inside.keys ▸ distinct.1)).symm
  | .null, _ => .same _
  | .bool _, _ => .same _
  | .int _, _ => .same _
  | .double _, _ => .same _
  | .str _, _ => .same _

/-- The plain forms of items without repeated keys are rearrangements of them. -/
theorem rearranged_plainItems : (items : List Json) → ItemsDistinct items →
    RearrangedItems items (plainItems items)
  | [], _ => .nil
  | item :: rest, distinct =>
    .cons (rearranged_plain item distinct.1) (rearranged_plainItems rest distinct.2)

/-- The plain forms of values without repeated keys are rearrangements of them. -/
theorem rearranged_plainMembers : (members : List (String × Json)) → MembersDistinct members →
    RearrangedMembers members (plainMembers members)
  | [], _ => .nil
  | (_, value) :: rest, distinct =>
    .cons (rearranged_plain value distinct.1) (rearranged_plainMembers rest distinct.2)

end

/-! ### Readers of records -/

section Records

variable {members members' fields : List (String × Json)} {json' : Json} {kind : String}

/-- Members are readable if each value is. -/
theorem membersReadable_eq_all (members : List (String × Json)) :
    membersReadable members = members.all fun member => member.2.isReadable := by
  induction members with
  | nil => rfl
  | cons member rest ih => exact congrArg (member.2.isReadable && ·) ih

/-- The order of members does not matter for whether they are readable. -/
theorem membersReadable_of_perm (order : members.Perm members') :
    membersReadable members' = membersReadable members := by
  rw [membersReadable_eq_all, membersReadable_eq_all, order.all_eq]

/-- An object with a single member is readable if the member's value is. -/
theorem isReadable_single (key : String) (value : Json) :
    (Json.obj [(key, value)]).isReadable = value.isReadable :=
  Bool.and_true _

/-- The order of members does not matter to one who looks for names. -/
theorem namedFields?_of_perm (names : List String) (order : members.Perm members') :
    namedFields? names members' = namedFields? names members := by
  unfold namedFields?
  refine congrArg (fun find => names.mapM find) (funext fun name => ?_)
  -- What is found does not depend on the order where it is at most one member.
  have found := order.filter fun member => member.1 = name
  generalize members.filter (fun member => member.1 = name) = one at found ⊢
  generalize members'.filter (fun member => member.1 = name) = other at found ⊢
  match one, found with
  | [], found => rw [← found.nil_eq]
  | [_], found => rw [← List.singleton_perm.mp found]
  | _ :: _ :: _, found =>
    match other, found.length_eq with
    | _ :: _ :: _, _ => rfl

/-- The order of members does not matter to a reader of records. -/
theorem fields?_of_perm (names : List String) (order : members.Perm members') :
    fields? names (.obj members') = fields? names (.obj members) :=
  namedFields?_of_perm names order

/-- A record with three fields is read as if the fields stood in their order. -/
theorem Rearranged.of_triple {key₁ key₂ key₃ : String} {first second third : Json}
    (arranged : Rearranged (.obj [(key₁, first), (key₂, second), (key₃, third)]) json') :
    ∃ first' second' third', Rearranged first first' ∧ Rearranged second second' ∧
      Rearranged third third' ∧ ∀ names, json'.fields? names =
        fields? names (.obj [(key₁, first'), (key₂, second'), (key₃, third')]) := by
  obtain ⟨mid, members', rfl, inside, order⟩ := arranged.of_obj
  cases inside with
  | cons first later =>
    cases later with
    | cons second later =>
      cases later with
      | cons third later =>
        cases later
        exact ⟨_, _, _, first, second, third, fun names => fields?_of_perm names order⟩

/-- A rearranged tagged record gives its tag and a rearrangement of its fields, wherever the tag
stands, unless what is set aside has an unreadable part. -/
theorem untag?_of_rearranged (reading : Reading) (kinds : List String)
    (arranged : Rearranged (tag kind fields) json') (untagged : tagKey ∉ fields.map Prod.fst) :
    ∃ record, Rearranged (.obj fields) record ∧ json'.isReadable = record.isReadable ∧
      (record.isReadable = true → json'.untag? reading kinds = some (kind, record)) := by
  obtain ⟨mid, members', rfl, inside, order⟩ := arranged.of_obj
  cases inside with
  | @cons _ _ _ _ fields' first inside =>
    cases first
    have others : fields'.filter (fun member => member.1 ≠ tagKey) = fields' := by
      refine List.filter_eq_self.mpr fun member listed => decide_eq_true fun same => untagged ?_
      exact inside.keys ▸ same ▸ List.mem_map_of_mem listed
    have tags : fields'.filter (fun member => member.1 = tagKey) = [] := by
      refine List.filter_eq_nil_iff.mpr fun member listed same => untagged ?_
      exact inside.keys ▸ of_decide_eq_true same ▸ List.mem_map_of_mem listed
    have kept := order.filter fun member => member.1 ≠ tagKey
    have found := order.filter fun member => member.1 = tagKey
    rw [List.filter_cons_of_neg (by simp), others] at kept
    rw [List.filter_cons_of_pos (by simp), tags] at found
    refine ⟨_, .obj inside kept, ?_, fun readable => ?_⟩
    · unfold isReadable
      rw [membersReadable_of_perm order, membersReadable_of_perm kept]
      rfl
    · unfold untag?
      dsimp only
      rw [← List.singleton_perm.mp found]
      cases reading with
      | inPlace => simp only [Reading.kind?, Reading.keep?, readable]; rfl
      | setAside => rfl

end Records

/-! ### Trees that give a value back -/

section Back

variable {α : Type} {json : Json} {a : α}

/-- A reader takes a tree for a given value, as it was written, in its plain form, and in every
other arrangement. -/
structure Restores (read? : Json → Option α) (json : Json) (a : α) : Prop where
  /-- No object in the tree names a key twice. -/
  distinct : json.DistinctKeys
  written : read? json = some a
  plain : read? json.plain = some a
  rearranged : ∀ json', Rearranged json json' → read? json' = some a

/-- It is enough to know every arrangement of a tree without repeated keys. -/
theorem Restores.of_rearranged {read? : Json → Option α} (distinct : json.DistinctKeys)
    (reads : ∀ json', Rearranged json json' → read? json' = some a) : Restores read? json a :=
  ⟨distinct, reads _ (.same json), reads _ (rearranged_plain json distinct), reads⟩

/-- A tree of which nothing is lost when it is set aside: in every arrangement it is readable, and
both readings take it for a given value. -/
structure Keeps (read? : Reading → Json → Option α) (json : Json) (a : α) : Prop where
  distinct : json.DistinctKeys
  readable : ∀ json', Rearranged json json' → json'.isReadable = true
  reads : ∀ reading json', Rearranged json json' → read? reading json' = some a

/-- What both readings give back is given back by each. -/
theorem Keeps.restores {read? : Reading → Json → Option α} (kept : Keeps read? json a)
    (reading : Reading) : Restores (read? reading) json a :=
  .of_rearranged kept.distinct (kept.reads reading)

/-- A tree without items and members is kept if it is read as it is. -/
theorem Keeps.of_leaf {read? : Reading → Json → Option α} (leaf : json.IsLeaf)
    (readable : json.isReadable = true) (reads : ∀ reading, read? reading json = some a) :
    Keeps read? json a where
  distinct := leaf.distinct
  readable _ arranged := arranged.eq_of_leaf leaf ▸ readable
  reads reading _ arranged := arranged.eq_of_leaf leaf ▸ reads reading

/-- A record of two texts is kept if it is read in both of its orders. -/
theorem Keeps.of_texts {read? : Json → Option α} {key₁ key₂ first second : String}
    (other : key₁ ≠ key₂)
    (reads : read? (.obj [(key₁, .str first), (key₂, .str second)]) = some a)
    (reversed : read? (.obj [(key₂, .str second), (key₁, .str first)]) = some a) :
    Keeps (fun _ => read?) (.obj [(key₁, .str first), (key₂, .str second)]) a where
  distinct := ⟨List.pairwise_pair.mpr other, trivial, trivial, trivial⟩
  readable json' arranged := by
    obtain ⟨_, _, inside, inside', rfl | rfl⟩ := arranged.of_pair <;> cases inside <;>
      cases inside' <;> rfl
  reads _ json' arranged := by
    obtain ⟨_, _, inside, inside', rfl | rfl⟩ := arranged.of_pair <;> cases inside <;>
      cases inside'
    · exact reads
    · exact reversed

/-- Trees of items of which nothing is lost when they are set aside. -/
structure KeepsItems (read? : Reading → Json → Option α) (trees : List Json) (items : List α) :
    Prop where
  distinct : ItemsDistinct trees
  readable : ∀ trees', RearrangedItems trees trees' → areReadable trees' = true
  reads : ∀ reading trees', RearrangedItems trees trees' → trees'.mapM (read? reading) = some items

section Items

variable {read? : Reading → Json → Option α} {trees : List Json} {items : List α}

theorem KeepsItems.nil : KeepsItems read? [] [] :=
  ⟨trivial, fun | _, .nil => rfl, fun | _, _, .nil => rfl⟩

theorem KeepsItems.cons (first : Keeps read? json a) (later : KeepsItems read? trees items) :
    KeepsItems read? (json :: trees) (a :: items) where
  distinct := ⟨first.distinct, later.distinct⟩
  readable trees' arranged := by
    cases arranged with
    | cons item' rest' =>
      unfold areReadable
      rw [first.readable _ item', later.readable _ rest', Bool.and_self]
  reads reading trees' arranged := by
    cases arranged with
    | cons item' rest' =>
      rw [List.mapM_cons, first.reads reading _ item', later.reads reading _ rest']
      rfl

/-- A list is kept if its items are. -/
theorem KeepsItems.keeps (kept : KeepsItems read? trees items) :
    Keeps (fun reading => toList? (read? reading)) (.arr trees) items where
  distinct := kept.distinct
  readable json' arranged := by
    obtain ⟨trees', rfl, inside⟩ := arranged.of_arr
    exact kept.readable trees' inside
  reads reading json' arranged := by
    obtain ⟨trees', rfl, inside⟩ := arranged.of_arr
    exact kept.reads reading trees' inside

end Items

/-- A tagged record is kept if its fields can be set aside and are read once the tag is known. -/
theorem Keeps.of_tag {read? : Reading → Json → Option α} (kinds : List String) {kind : String}
    {fields : List (String × Json)} (untagged : tagKey ∉ fields.map Prod.fst)
    (distinct : (Json.obj fields).DistinctKeys)
    (readable : ∀ record, Rearranged (.obj fields) record → record.isReadable = true)
    (reads : ∀ reading json record, Rearranged (.obj fields) record →
      json.untag? reading kinds = some (kind, record) → read? reading json = some a) :
    Keeps read? (tag kind fields) a where
  distinct := ⟨List.nodup_cons.mpr ⟨untagged, distinct.1⟩, trivial, distinct.2⟩
  readable json' arranged := by
    obtain ⟨record, inside, same, -⟩ := untag?_of_rearranged .inPlace kinds arranged untagged
    exact same.trans (readable record inside)
  reads reading json' arranged := by
    obtain ⟨record, inside, -, found⟩ := untag?_of_rearranged reading kinds arranged untagged
    exact reads reading json' record inside (found (readable record inside))

end Back

end Json

end ScriptScheduler
