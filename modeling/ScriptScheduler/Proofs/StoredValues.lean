import ScriptScheduler.Value.Layout
import ScriptScheduler.Proofs.Exchange
import ScriptScheduler.Proofs.Rearrangement

/-!
# Stored values

A value that is written as JSON and read again is the same value, if its doubles are finite and its
structs are sorted by key. Nothing of it is lost on the way (`Val.keeps`): in every arrangement its
tree can be set aside, and both readings give the value back. Both are needed at once. Where the
content of a value stands in front of its kind, the content is set aside first, and so is everything
inside an instruction.

The keys of a struct are not confused with the keys of the layout. Its members are a content of
their own, one level below the object with the kind, and there a key such as `t` or `v` has no
meaning.
-/

namespace ScriptScheduler

open Json (Keeps KeepsItems Rearranged RearrangedMembers Reading)

/-- The tree of an error payload is kept. -/
theorem ErrorInfo.keeps (info : ErrorInfo) : Keeps (fun _ => ofJson?) info.toJson info :=
  .of_texts (by decide) rfl rfl

/-- A serial is read as it was written. -/
theorem EntityId.ofJson?_toJson (entity : EntityId) : ofJson? entity.toJson = some entity := by
  unfold ofJson? toJson
  rw [Val.toNat?_natCast entity.number.toNat_lt_size, Option.map_some, UInt32.ofNat_toNat]

namespace Val

/-- The value can be stored: its doubles are finite and its structs are sorted by key. -/
def Storable (v : Val) : Prop := v.Finite ∧ v.Canonical

/-! ### Contents -/

section Contents

variable {kind : String} {content : Json} {v : Val}

/-- A value with a content is kept if its content is. -/
theorem keeps_tagged (kept : Keeps (fun reading => readContent? reading kind) content v) :
    Keeps read? (tagged kind content) v where
  distinct := ⟨(by decide : [Json.tagKey, contentKey].Nodup), trivial, kept.distinct, trivial⟩
  readable json' arranged := by
    obtain ⟨_, content', first, second, rfl | rfl⟩ := arranged.of_pair <;> cases first <;>
      simp only [Json.isReadable, Json.membersReadable, kept.readable _ second, Bool.and_self]
  reads reading json' arranged := by
    obtain ⟨_, content', first, second, rfl | rfl⟩ := arranged.of_pair <;> cases first
    · exact kept.reads reading content' second
    · -- The content comes first, so it is set aside and then read in the other way.
      have back := kept.reads .setAside content' second
      have found : tagOfMembers? reading [(contentKey, content'), (Json.tagKey, .str kind)] =
          some (kind, .setAside) := by
        cases reading with
        | inPlace =>
          simp [tagOfMembers?, Json.tagKey, contentKey, Reading.keep?, Reading.constant?,
            kept.readable content' second]
        | setAside => rfl
      unfold read?
      rw [found]
      exact back

/-- A value is kept if its content has no parts and the value is made of it. -/
theorem keeps_leaf (leaf : content.IsLeaf) (readable : content.isReadable = true)
    (reads : ∀ reading, readContent? reading kind content = some v) :
    Keeps read? (tagged kind content) v :=
  keeps_tagged (.of_leaf leaf readable reads)

/-- The value without a content is kept. -/
theorem keeps_uninit : Keeps read? Val.uninit.toJson .uninit where
  distinct := ⟨(by decide : [Json.tagKey].Nodup), trivial, trivial⟩
  readable json' arranged := by
    obtain ⟨_, rfl, inside⟩ := arranged.of_single
    cases inside
    rfl
  reads reading json' arranged := by
    obtain ⟨_, rfl, inside⟩ := arranged.of_single
    cases inside
    rfl

/-- An error is kept with its payload. -/
theorem keeps_error (info : ErrorInfo) : Keeps read? (Val.error info).toJson (.error info) := by
  refine keeps_tagged
    ⟨info.keeps.distinct, info.keeps.readable, fun reading json' arranged => ?_⟩
  have back := info.keeps.reads reading json' arranged
  obtain ⟨_, _, rfl, -⟩ := arranged.of_obj
  exact congrArg (Option.map Val.error) back

end Contents

/-! ### Items and members -/

/-- Trees of members of which nothing is lost when they are set aside in their order. -/
structure KeepsMembers (trees : List (String × Json)) (members : List (String × Val)) : Prop where
  distinct : Json.MembersDistinct trees
  readable : ∀ trees', RearrangedMembers trees trees' → Json.membersReadable trees' = true
  reads : ∀ reading trees', RearrangedMembers trees trees' →
    readMembers? reading trees' = some members

section Containers

variable {reading : Reading} {trees trees' : List (String × Json)} {items : List Val}
  {members : List (String × Val)}

/-- Items are read one by one. -/
theorem readItems?_eq_mapM (trees : List Json) :
    readItems? reading trees = trees.mapM (read? reading) := by
  induction trees with
  | nil => rfl
  | cons tree rest ih =>
    rw [List.mapM_cons, ← ih]
    rfl

/-- Members are written with their keys. -/
theorem keys_membersToJson (members : List (String × Val)) :
    (membersToJson members).map Prod.fst = members.map Prod.fst := by
  induction members with
  | nil => rfl
  | cons member rest ih => exact congrArg (List.cons _) ih

/-- Members are read one by one, each with its key. -/
theorem readMembers?_eq_some :
    readMembers? reading trees = some members ↔
      List.Forall₂ (fun tree member => tree.1 = member.1 ∧ read? reading tree.2 = some member.2)
        trees members := by
  induction trees generalizing members with
  | nil =>
    constructor
    · intro read
      cases read
      exact .nil
    · intro read
      cases read
      rfl
  | cons tree rest ih =>
    unfold readMembers?
    constructor
    · intro read
      obtain ⟨value, found, read⟩ := Option.bind_eq_some_iff.mp read
      obtain ⟨later, foundLater, read⟩ := Option.bind_eq_some_iff.mp read
      cases read
      exact .cons ⟨rfl, found⟩ (ih.mp foundLater)
    · intro read
      cases read with
      | cons first later =>
        rw [first.2, ih.mpr later, first.1]
        rfl

/-- Members that are read in another order come in that order. -/
theorem readMembers?_of_perm (order : trees.Perm trees')
    (read : readMembers? reading trees = some members) :
    ∃ members', readMembers? reading trees' = some members' ∧ members.Perm members' := by
  obtain ⟨members', found, order'⟩ :=
    List.perm_comp_forall₂ order.symm (readMembers?_eq_some.mp read)
  exact ⟨members', readMembers?_eq_some.mpr found, order'.symm⟩

/-- An array is kept if its items are. -/
theorem keeps_array (kept : KeepsItems read? (itemsToJson items) items) :
    Keeps read? (Val.array items).toJson (.array items) := by
  refine keeps_tagged ⟨kept.distinct, kept.keeps.readable, fun reading json' arranged => ?_⟩
  obtain ⟨trees', rfl, inside⟩ := arranged.of_arr
  have back := (readItems?_eq_mapM trees').trans (kept.reads reading trees' inside)
  exact congrArg (Option.map Val.array) back

/-- A struct is kept if its members are, and if it is sorted. The order of its tree does not matter,
because what has been read is sorted again. -/
theorem keeps_struct (sorted : SortedByKey members)
    (kept : KeepsMembers (membersToJson members) members) :
    Keeps read? (Val.struct members).toJson (.struct members) := by
  have distinct := keys_membersToJson members ▸ sorted.nodup
  refine keeps_tagged
    ⟨⟨distinct, kept.distinct⟩, fun json' arranged => ?_, fun reading json' arranged => ?_⟩
  · obtain ⟨mid, trees', rfl, inside, order⟩ := arranged.of_obj
    exact (Json.membersReadable_of_perm order).trans (kept.readable mid inside)
  · obtain ⟨mid, trees', rfl, inside, order⟩ := arranged.of_obj
    obtain ⟨read, found, order⟩ := readMembers?_of_perm order (kept.reads reading mid inside)
    unfold readContent?
    rw [if_pos rfl, found, Option.map_some, sortMembers_of_perm sorted order]

end Containers

/-! ### Values -/

mutual

/-- The tree of a value is kept. -/
theorem keeps : (v : Val) → v.Finite → v.Canonical → Keeps read? v.toJson v
  | .uninit, _, _ => keeps_uninit
  | .long n, _, _ => keeps_leaf trivial rfl fun _ =>
    congrArg (Option.map Val.long) (signedWord?_toInt n)
  | .double x, finite, _ => keeps_leaf trivial finite fun _ =>
    congrArg (Option.map Val.double) (if_pos finite)
  | .bool b, _, _ => keeps_leaf trivial rfl fun _ => rfl
  | .str s, _, _ => keeps_leaf trivial rfl fun _ => rfl
  | .entity id, _, _ => keeps_leaf trivial rfl fun _ => by
    have back : (EntityId.ofJson? id.toJson).map Val.entity = some (.entity id) := by
      rw [id.ofJson?_toJson, Option.map_some]
    exact back
  | .error info, _, _ => keeps_error info
  | .array items, finite, canonical => keeps_array (keepsItems items finite.2 canonical)
  | .struct members, finite, canonical =>
    keeps_struct canonical.1 (keepsMembers members finite.2 canonical.2)

/-- The trees of items are kept. -/
theorem keepsItems : (items : List Val) → ItemsThroughout IsFinite items → CanonicalItems items →
    KeepsItems read? (itemsToJson items) items
  | [], _, _ => .nil
  | item :: rest, finite, canonical =>
    .cons (keeps item finite.1 canonical.1) (keepsItems rest finite.2 canonical.2)

/-- The trees of members are kept. -/
theorem keepsMembers : (members : List (String × Val)) → MembersThroughout IsFinite members →
    CanonicalMembers members → KeepsMembers (membersToJson members) members
  | [], _, _ => ⟨trivial, fun | _, .nil => rfl, fun | _, _, .nil => rfl⟩
  | (key, value) :: rest, finite, canonical => by
    have first := keeps value finite.1 canonical.1
    have later := keepsMembers rest finite.2 canonical.2
    refine ⟨⟨first.distinct, later.distinct⟩, fun trees' arranged => ?_,
      fun reading trees' arranged => ?_⟩ <;> cases arranged with
    | cons value' rest' => ?_
    · unfold Json.membersReadable
      rw [first.readable _ value', later.readable _ rest', Bool.and_self]
    · unfold readMembers?
      rw [first.reads reading _ value', later.reads reading _ rest']
      rfl

end

/-- The tree of a value that can be stored is kept. -/
theorem Storable.keeps {v : Val} (storable : v.Storable) : Keeps read? v.toJson v :=
  v.keeps storable.1 storable.2

end Val

end ScriptScheduler
