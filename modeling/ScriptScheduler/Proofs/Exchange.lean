import ScriptScheduler.Value.Exchange

/-!
# Values that survive the exchange with the engine

A value that is sent to the engine and comes back is the same value again, unless it holds a struct
that the way back takes for an entity or for an error. What comes from the engine never holds such a
struct, so it can be sent back and forth (`Val.roundTrips_exchange`).

The only numbers that the way in changes are integers beyond the signed words. They become doubles,
and these are finite, so that the way out does not lose them.
-/

namespace ScriptScheduler

namespace Double

/-! ### Integers as doubles -/

/-- With magnitude bits below those of an infinity a double is finite. -/
theorem isFinite_ofMagnitude (negative : Bool) {magnitude : Nat} (small : magnitude < infinite) :
    (ofMagnitude negative magnitude).isFinite = true := by
  unfold isFinite exponentField ofMagnitude
  rw [UInt64.toNat_ofNat']
  unfold infinite at small
  unfold hiddenBit signBit at *
  refine decide_eq_true ?_
  cases negative
  · simp only [Bool.false_eq_true, if_false]
    omega
  · simp only [if_true]
    omega

/-- Rounding moves a quotient up to the next whole number at most. -/
theorem roundedQuotient_le (num den : Nat) : roundedQuotient num den ≤ num / den + 1 := by
  unfold roundedQuotient
  dsimp only
  split
  · exact Nat.le_succ _
  · split <;> omega

/-- The unit of a whole number has few digits more than its fifty-three. -/
theorem unitExponent_bounds (num : Nat) :
    (Nat.log2 num : Int) - 53 ≤ unitExponent num 1 ∧ unitExponent num 1 ≤ Nat.log2 num - 52 := by
  have one : Nat.log2 1 = 0 := by decide
  unfold unitExponent
  rw [one]
  dsimp only
  split <;> omega

/-- In its unit a whole number is below four times the hidden bit. -/
theorem inUnits_lt {num : Nat} {e : Int} (least : (Nat.log2 num : Int) - 53 ≤ e) :
    (inUnits num 1 e).1 / (inUnits num 1 e).2 < 4 * hiddenBit := by
  have below : num < 2 ^ (Nat.log2 num + 1) := Nat.lt_log2_self
  have bound : 4 * hiddenBit = 2 ^ 54 := by decide
  rw [bound]
  unfold inUnits
  split
  · next up =>
    have wide : num < 2 ^ 54 * 2 ^ e.toNat := by
      rw [← Nat.pow_add]
      exact Nat.lt_of_lt_of_le below (Nat.pow_le_pow_right (by decide) (by omega))
    have unit : 1 * twoTo e.toNat = 2 ^ e.toNat := Nat.one_mul _
    rw [unit]
    exact (Nat.div_lt_iff_lt_mul (Nat.pow_pos (by decide))).mpr wide
  · next down =>
    have wide : num * 2 ^ (-e).toNat < 2 ^ (Nat.log2 num + 1) * 2 ^ (-e).toNat :=
      Nat.mul_lt_mul_of_pos_right below (Nat.pow_pos (by decide))
    rw [← Nat.pow_add] at wide
    have unit : num * twoTo (-e).toNat = num * 2 ^ (-e).toNat := rfl
    rw [Nat.div_one, unit]
    exact Nat.lt_of_lt_of_le wide (Nat.pow_le_pow_right (by decide) (by omega))

/-- A quotient is finite if the magnitude bits that its rounding gives are below an infinity. -/
theorem isFinite_ofRatio (negative : Bool) {num den : Nat} {e : Int} {units : Nat × Nat}
    (unit : unitExponent num den = e) (inUnit : inUnits num den e = units)
    (small : (e + 1074).toNat * hiddenBit + roundedQuotient units.1 units.2 < infinite) :
    (ofRatio negative num den).isFinite = true := by
  unfold ofRatio
  split
  · exact isFinite_ofMagnitude _ (by decide)
  · rw [unit]
    dsimp only
    rw [inUnit]
    refine isFinite_ofMagnitude _ (Nat.lt_of_le_of_lt (Nat.min_le_left _ _) ?_)
    split
    · exact Nat.lt_of_le_of_lt (Nat.le_add_left _ _) small
    · exact small

/-- An integer within the words becomes a finite double. -/
theorem isFinite_ofInt {n : Int} (fits : n.natAbs < UInt64.size) :
    (ofInt n).isFinite = true := by
  refine isFinite_ofRatio _ rfl rfl ?_
  obtain ⟨least, most⟩ := unitExponent_bounds n.natAbs
  have digits : Nat.log2 n.natAbs < 64 := by
    by_cases zero : n.natAbs = 0
    · rw [zero]
      decide
    · exact (Nat.log2_lt zero).mpr fits
  have exponent : (unitExponent n.natAbs 1 + 1074).toNat ≤ 1085 := by omega
  have small := inUnits_lt least
  have rounded := roundedQuotient_le (inUnits n.natAbs 1 (unitExponent n.natAbs 1)).1
    (inUnits n.natAbs 1 (unitExponent n.natAbs 1)).2
  unfold infinite
  unfold hiddenBit at *
  omega

end Double

/-! ### Members -/

section Members

variable {α β : Type} {key : String}

/-- The value at a key of members whose values have been changed. -/
theorem lookupMember?_map (f : α → β) (members : List (String × α)) :
    lookupMember? key (members.map fun member => (member.1, f member.2)) =
      (lookupMember? key members).map f := by
  unfold lookupMember?
  rw [List.find?_map, Option.map_map, Option.map_map]
  rfl

end Members

namespace Val

/-- The members that the engine sees are the members with what it sees of their values. -/
theorem membersToEngine_eq (id : RequestId) (members : List (String × Val)) :
    membersToEngine id members = members.map fun member => (member.1, member.2.toEngine id) := by
  induction members with
  | nil => rfl
  | cons member rest ih => exact congrArg (List.cons _) ih

/-- The members that a script sees are the members with what it sees of their values. -/
theorem membersOfEngine_eq (members : List (String × Json)) :
    membersOfEngine members = members.map fun member => (member.1, ofEngine member.2) := by
  induction members with
  | nil => rfl
  | cons member rest ih => exact congrArg (List.cons _) ih

/-! ### What a value holds -/

mutual

/-- The value and all values inside it have a property. -/
def Throughout (P : Val → Prop) : Val → Prop
  | .array items => P (.array items) ∧ ItemsThroughout P items
  | .struct members => P (.struct members) ∧ MembersThroughout P members
  | leaf => P leaf

/-- All items have a property throughout. -/
def ItemsThroughout (P : Val → Prop) : List Val → Prop
  | [] => True
  | item :: rest => item.Throughout P ∧ ItemsThroughout P rest

/-- All members' values have a property throughout. -/
def MembersThroughout (P : Val → Prop) : List (String × Val) → Prop
  | [] => True
  | (_, value) :: rest => value.Throughout P ∧ MembersThroughout P rest

end

/-- The value is not a double, or it is a finite one. -/
def IsFinite : Val → Prop
  | .double x => x.isFinite = true
  | _ => True

/-- All doubles in the value are finite. -/
def Finite (v : Val) : Prop := v.Throughout IsFinite

/-- Members that stand for an entity or an error: there is a member with the key of an error, or one
with the key of an entity that is the serial of an entity. -/
def Reserved (members : List (String × Val)) : Prop :=
  (lookupMember? errorKey members).isSome = true ∨
    ∃ n, lookupMember? entityKey members = some (.long n) ∧ 0 ≤ n.toInt ∧ n.toInt < UInt32.size

/-- The value is not a struct, or it is one that does not stand for anything else. -/
def IsUnreserved : Val → Prop
  | .struct members => ¬ Reserved members
  | _ => True

/-- No struct in the value stands for an entity or an error. -/
def Unreserved (v : Val) : Prop := v.Throughout IsUnreserved

/-! ### Objects -/

variable {id : RequestId} {n : Int64}

/-- The engine sees a serial only where a script has one. -/
theorem isSome_toNat?_toEngine (v : Val) (bound : Nat) :
    ((v.toEngine id).toNat? bound).isSome = true ↔
      ∃ n : Int64, v = .long n ∧ 0 ≤ n.toInt ∧ n.toInt < bound := by
  cases v with
  | long n =>
    unfold toEngine Json.toNat?
    dsimp only
    split
    · next fits => exact iff_of_true rfl ⟨n, rfl, fits⟩
    · next unfit =>
      refine iff_of_false Bool.false_ne_true ?_
      rintro ⟨_, same, fits⟩
      obtain rfl := Val.long.inj same
      exact unfit fits
  | double x =>
    unfold toEngine
    split <;> exact iff_of_false Bool.false_ne_true (by simp)
  | _ => exact iff_of_false Bool.false_ne_true (by simp)

/-- A script sees a serial only where the engine has one. -/
theorem isSome_toNat?_of_ofEngine {json : Json} {bound : Nat} (seen : ofEngine json = .long n)
    (least : 0 ≤ n.toInt) (most : n.toInt < bound) : (json.toNat? bound).isSome = true := by
  cases json with
  | int k =>
    unfold ofEngine ofNumber at seen
    split at seen
    · next word found =>
      obtain rfl := Val.long.inj seen
      have same := toInt_of_signedWord? found
      unfold Json.toNat?
      dsimp only
      rw [if_pos ⟨same ▸ least, same ▸ most⟩]
      rfl
    · exact absurd seen (by simp)
  | obj members =>
    unfold ofEngine at seen
    split at seen <;> exact absurd seen (by simp)
  | _ => exact absurd seen (by simp [ofEngine])

/-- An object stands for an entity just if it has a serial. -/
theorem isSome_entityOfMembers? (members : List (String × Json)) :
    (entityOfMembers? members).isSome = true ↔ ∃ json, lookupMember? entityKey members = some json ∧
      (json.toNat? UInt32.size).isSome = true := by
  unfold entityOfMembers?
  cases lookupMember? entityKey members with
  | none => simp
  | some json => simp

/-- An object stands for an error just if it has the key of an error. -/
theorem isSome_errorOfMembers? (members : List (String × Json)) :
    (errorOfMembers? members).isSome = (lookupMember? errorKey members).isSome :=
  Option.isSome_map

/-- A script sees a struct of an object that stands for nothing else. -/
theorem ofEngine_obj_eq_struct {members : List (String × Json)} {seen : List (String × Val)} :
    ofEngine (.obj members) = .struct seen ↔
      ¬ ((errorOfMembers? members).isSome = true ∨ (entityOfMembers? members).isSome = true) ∧
        membersOfEngine members = seen := by
  unfold ofEngine
  split
  · next entity => simp [entity]
  · next error => simp [error]
  · next noEntity noError => simp [noEntity, noError]

/-- The members that the engine sees stand for an entity or an error just if those of the struct
do. -/
theorem reserved_membersToEngine (members : List (String × Val)) :
    ((errorOfMembers? (membersToEngine id members)).isSome = true ∨
      (entityOfMembers? (membersToEngine id members)).isSome = true) ↔ Reserved members := by
  rw [isSome_errorOfMembers?, isSome_entityOfMembers?, membersToEngine_eq]
  simp only [lookupMember?_map, Option.isSome_map]
  refine or_congr Iff.rfl ⟨?_, ?_⟩
  · rintro ⟨json, found, serial⟩
    obtain ⟨value, here, rfl⟩ := Option.map_eq_some_iff.mp found
    obtain ⟨n, rfl, fits⟩ := (isSome_toNat?_toEngine value _).mp serial
    exact ⟨n, here, fits⟩
  · rintro ⟨n, here, fits⟩
    rw [here]
    exact ⟨_, rfl, (isSome_toNat?_toEngine (.long n) _).mpr ⟨n, rfl, fits⟩⟩

/-- If the members that a script sees stand for an entity or an error, those of the object do. -/
theorem reserved_membersOfEngine {members : List (String × Json)}
    (reserved : Reserved (membersOfEngine members)) :
    (errorOfMembers? members).isSome = true ∨ (entityOfMembers? members).isSome = true := by
  rw [isSome_errorOfMembers?, isSome_entityOfMembers?]
  unfold Reserved at reserved
  rw [membersOfEngine_eq, lookupMember?_map, lookupMember?_map, Option.isSome_map] at reserved
  refine reserved.imp_right ?_
  rintro ⟨n, found, least, most⟩
  obtain ⟨json, here, seen⟩ := Option.map_eq_some_iff.mp found
  exact ⟨json, here, isSome_toNat?_of_ofEngine seen least most⟩

/-- A natural number below a bound is read as it is. -/
theorem toNat?_natCast {n bound : Nat} (small : n < bound) :
    (Json.int n).toNat? bound = some n := by
  unfold Json.toNat?
  exact if_pos ⟨Int.natCast_nonneg _, Int.ofNat_lt.mpr small⟩

/-- An entity comes back. -/
theorem ofEngine_entity (id : RequestId) (who : EntityId) :
    ofEngine (toEngine id (.entity who)) = .entity who := by
  have first : ∀ other, lookupMember? entityKey [(entityKey, Json.int who.number.toNat),
      (requestKey, other)] = some (.int who.number.toNat) := by simp [lookupMember?]
  have entity : ∀ other, entityOfMembers? [(entityKey, .int who.number.toNat),
      (requestKey, other)] = some who := by
    intro other
    unfold entityOfMembers?
    rw [first, Option.bind_some, toNat?_natCast who.number.toNat_lt_size, Option.map_some,
      UInt32.ofNat_toNat]
  rw [toEngine, ofEngine, entity]

/-- An error comes back. -/
theorem ofEngine_error (id : RequestId) (info : ErrorInfo) :
    ofEngine (toEngine id (.error info)) = .error info := by
  have entity : ∀ payload, entityOfMembers? [(errorKey, payload)] = none := by
    simp [entityOfMembers?, lookupMember?, errorKey, entityKey]
  have error : errorOfMembers? [(errorKey, .obj [("code", .str info.code),
      ("message", .str info.message)])] = some info := by
    simp [errorOfMembers?, errorText, Json.get?, lookupMember?, Json.toStr?]
  unfold toEngine ofEngine
  rw [entity, error]

/-! ### There and back -/

mutual

/-- A value with finite doubles comes back as it was just if no struct in it stands for an entity or
an error. -/
theorem ofEngine_toEngine (id : RequestId) : ∀ v : Val, v.Finite →
    (ofEngine (v.toEngine id) = v ↔ v.Unreserved)
  | .uninit, _ | .bool _, _ | .str _, _ => iff_of_true rfl trivial
  | .long n, _ => by
    refine iff_of_true ?_ trivial
    unfold toEngine ofEngine ofNumber
    rw [signedWord?_toInt]
  | .double x, finite => by
    have finite : x.isFinite = true := finite
    refine iff_of_true ?_ trivial
    unfold toEngine
    rw [if_pos finite]
    rfl
  | .array items, finite => by
    have rest := itemsOfEngine_itemsToEngine id items finite.2
    constructor
    · intro same
      exact ⟨trivial, rest.mp (Val.array.inj same)⟩
    · intro unreserved
      exact congrArg Val.array (rest.mpr unreserved.2)
  | .struct members, finite => by
    have rest := membersOfEngine_membersToEngine id members finite.2
    unfold toEngine
    rw [ofEngine_obj_eq_struct, reserved_membersToEngine, rest]
    rfl
  | .entity who, _ => iff_of_true (ofEngine_entity id who) trivial
  | .error info, _ => iff_of_true (ofEngine_error id info) trivial

/-- Items with finite doubles. -/
theorem itemsOfEngine_itemsToEngine (id : RequestId) : ∀ items : List Val,
    ItemsThroughout IsFinite items →
      (itemsOfEngine (itemsToEngine id items) = items ↔ ItemsThroughout IsUnreserved items)
  | [], _ => iff_of_true rfl trivial
  | item :: rest, finite => by
    have first := ofEngine_toEngine id item finite.1
    have others := itemsOfEngine_itemsToEngine id rest finite.2
    exact List.cons_eq_cons.trans (and_congr first others)

/-- Members with finite doubles. -/
theorem membersOfEngine_membersToEngine (id : RequestId) : ∀ members : List (String × Val),
    MembersThroughout IsFinite members →
      (membersOfEngine (membersToEngine id members) = members ↔
        MembersThroughout IsUnreserved members)
  | [], _ => iff_of_true rfl trivial
  | (key, value) :: rest, finite => by
    have first := ofEngine_toEngine id value finite.1
    have others := membersOfEngine_membersToEngine id rest finite.2
    refine List.cons_eq_cons.trans (and_congr (Iff.trans ?_ first) others)
    exact ⟨fun same => (Prod.mk.inj same).2, fun same => by rw [same]⟩

end

end Val

/-! ### What comes from the engine -/

namespace Json

mutual

/-- The numbers in the tree are such as a JSON value can hold: integers of 64 bits, signed or
unsigned, and finite doubles. -/
def Fits : Json → Prop
  | .int n => Int64.minValue.toInt ≤ n ∧ n < UInt64.size
  | .double x => x.isFinite = true
  | .arr items => ItemsFit items
  | .obj members => MembersFit members
  | _ => True

/-- The numbers in the items are such as a JSON value can hold. -/
def ItemsFit : List Json → Prop
  | [] => True
  | item :: rest => item.Fits ∧ ItemsFit rest

/-- The numbers in the members' values are such as a JSON value can hold. -/
def MembersFit : List (String × Json) → Prop
  | [] => True
  | (_, value) :: rest => value.Fits ∧ MembersFit rest

end

end Json

namespace Val

/-- A number of a JSON value is a word or a finite double. -/
theorem finite_ofNumber {n : Int} (least : Int64.minValue.toInt ≤ n) (most : n < UInt64.size) :
    (ofNumber n).Finite := by
  have low : Int64.minValue.toInt = -9223372036854775808 := by decide
  have high : (UInt64.size : Int) = 18446744073709551616 := by decide
  unfold ofNumber
  split
  · trivial
  · exact Double.isFinite_ofInt (by omega)

mutual

/-- No struct that a script sees of an engine's value stands for an entity or an error. -/
theorem unreserved_ofEngine : ∀ json : Json, (ofEngine json).Unreserved
  | .null | .bool _ | .double _ | .str _ => trivial
  | .int n => by
    unfold ofEngine ofNumber
    split <;> trivial
  | .arr items => ⟨trivial, unreserved_itemsOfEngine items⟩
  | .obj members => by
    unfold ofEngine
    split
    · trivial
    · trivial
    · next noEntity noError =>
      refine ⟨fun reserved => ?_, unreserved_membersOfEngine members⟩
      have objects := reserved_membersOfEngine reserved
      rw [noEntity, noError] at objects
      exact absurd objects (by decide)

/-- No struct in the items stands for an entity or an error. -/
theorem unreserved_itemsOfEngine : ∀ items : List Json,
    ItemsThroughout IsUnreserved (itemsOfEngine items)
  | [] => trivial
  | item :: rest => ⟨unreserved_ofEngine item, unreserved_itemsOfEngine rest⟩

/-- No struct in the members' values stands for an entity or an error. -/
theorem unreserved_membersOfEngine : ∀ members : List (String × Json),
    MembersThroughout IsUnreserved (membersOfEngine members)
  | [] => trivial
  | (_, value) :: rest => ⟨unreserved_ofEngine value, unreserved_membersOfEngine rest⟩

end

mutual

/-- All doubles that a script sees of an engine's value are finite. -/
theorem finite_ofEngine : ∀ json : Json, json.Fits → (ofEngine json).Finite
  | .null, _ | .bool _, _ | .str _, _ => trivial
  | .int _, fits => finite_ofNumber fits.1 fits.2
  | .double _, fits => fits
  | .arr items, fits => ⟨trivial, finite_itemsOfEngine items fits⟩
  | .obj members, fits => by
    unfold ofEngine
    split
    · trivial
    · trivial
    · exact ⟨trivial, finite_membersOfEngine members fits⟩

/-- All doubles in the items are finite. -/
theorem finite_itemsOfEngine : ∀ items : List Json, Json.ItemsFit items →
    ItemsThroughout IsFinite (itemsOfEngine items)
  | [], _ => trivial
  | item :: rest, fits => ⟨finite_ofEngine item fits.1, finite_itemsOfEngine rest fits.2⟩

/-- All doubles in the members' values are finite. -/
theorem finite_membersOfEngine : ∀ members : List (String × Json), Json.MembersFit members →
    MembersThroughout IsFinite (membersOfEngine members)
  | [], _ => trivial
  | (_, value) :: rest, fits => ⟨finite_ofEngine value fits.1, finite_membersOfEngine rest fits.2⟩

end

/-- A value with finite doubles comes back from the engine as it was just if no struct in it stands
for an entity or an error. No struct that comes from the engine does so, and so whatever comes from
the engine survives another exchange. -/
theorem roundTrips_exchange (id : RequestId) :
    (∀ v : Val, v.Finite → (ofEngine (v.toEngine id) = v ↔ v.Unreserved)) ∧
      (∀ json : Json, (ofEngine json).Unreserved) ∧
      ∀ json : Json, json.Fits → ofEngine ((ofEngine json).toEngine id) = ofEngine json := by
  refine ⟨ofEngine_toEngine id, unreserved_ofEngine, fun json fits => ?_⟩
  have finite := finite_ofEngine json fits
  exact (ofEngine_toEngine id (ofEngine json) finite).mpr (unreserved_ofEngine json)

/-- A struct that has the key of an entity, but no serial. -/
def unlikeEntity : Val :=
  .struct [(entityKey, .long (-1)), ("load", .array [.double ⟨0⟩])]

/-- A struct that a script would take for an entity. -/
def likeEntity : Val := .struct [(entityKey, .long 3)]

/-- A struct with a negative number at the key of an entity survives, one with a serial does not, and
the largest number of a JSON value does. -/
theorem roundTrips_struct : ofEngine (unlikeEntity.toEngine ⟨7⟩) = unlikeEntity ∧
    ofEngine (likeEntity.toEngine ⟨7⟩) ≠ likeEntity ∧
    ofEngine (toEngine ⟨7⟩ (ofEngine (.int 18446744073709551615))) =
      ofEngine (.int 18446744073709551615) := by
  obtain ⟨values, -, trees⟩ := roundTrips_exchange ⟨7⟩
  have zero : (Double.mk 0).isFinite = true := by decide
  have finite : unlikeEntity.Finite := ⟨trivial, trivial, ⟨trivial, zero, trivial⟩, trivial⟩
  have finite' : likeEntity.Finite := ⟨trivial, trivial, trivial⟩
  have negative : ¬ Reserved [(entityKey, .long (-1)), ("load", .array [.double ⟨0⟩])] := by
    rintro (error | ⟨n, found, least, -⟩)
    · exact absurd error (by simp [lookupMember?, errorKey, entityKey])
    · obtain rfl : -1 = n := by simpa [lookupMember?] using found
      exact absurd least (by decide)
  have serial : Reserved [(entityKey, .long 3)] :=
    .inr ⟨3, by simp [lookupMember?], by decide, by decide⟩
  have fits : (Json.int 18446744073709551615).Fits := ⟨by decide, by decide⟩
  refine ⟨(values _ finite).mpr ?_, fun same => ?_, trees _ fits⟩
  · exact ⟨negative, trivial, ⟨trivial, trivial, trivial⟩, trivial⟩
  · exact ((values _ finite').mp same).1 serial

end Val

end ScriptScheduler
