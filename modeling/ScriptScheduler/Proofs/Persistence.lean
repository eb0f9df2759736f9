import ScriptScheduler.Machine
import ScriptScheduler.Proofs.StoredValues

/-!
# Stored programs and machines

Programs are kept as JSON, and a machine can be put away between two of its instructions. What is
read later is what was stored, whatever became of the order of the members meanwhile. The one
condition is on the values that the listing pushes (`Instr.Storable`): JSON has no infinite numbers.

An instruction carries its kind beside its fields, so its fields are always set aside first, and the
code of a program does the same with its listing. That is why instructions and the values inside
them are shown to be kept, not only to be read back.

A machine that was put away is the same machine when it returns. So it takes the same steps and
leaves the same stacks, also if the stack is changed from outside in between, as it is when a
blocked script gets the value that it waits for.
-/

namespace ScriptScheduler

open Json (Keeps KeepsItems Restores Rearranged Reading)

/-! ### Fields -/

namespace Json

section Fields

variable {α : Type} {name : String}

/-- The only field of a record. -/
theorem soleField?_single (read : Option Json → Option α) (value : Json) :
    soleField? name read (.obj [(name, value)]) = read (some value) := by
  simp [soleField?, fields?, namedFields?]

/-- The value of a field that is there. -/
theorem field?_some (read : Json → Option α) (value : Json) :
    field? read (some value) = read value := rfl

/-- A word is read as it was written. -/
theorem toUInt64?_toNat (word : UInt64) : (Json.int word.toNat).toUInt64? = some word := by
  unfold toUInt64?
  rw [Val.toNat?_natCast word.toNat_lt_size, Option.map_some, UInt64.ofNat_toNat]

/-- A field that holds a word is kept. -/
theorem keeps_word (word : UInt64) :
    Keeps (fun _ json => field? toUInt64? (some json)) (.int word.toNat) word :=
  .of_leaf trivial rfl fun _ => by
    rw [field?_some, toUInt64?_toNat]

/-- A number is not an absent value. -/
theorem toOption?_int (read : Json → Option α) (n : Int) :
    toOption? read (.int n) = (read (.int n)).map some := rfl

/-- A field that may hold a word is kept. -/
theorem keeps_timeout (timeout : Option UInt64) :
    Keeps (fun _ json => fieldOr none (toOption? toUInt64?) (some json))
      (.ofOption (fun ms => .int ms.toNat) timeout) timeout := by
  cases timeout with
  | none => exact .of_leaf trivial rfl fun _ => rfl
  | some ms =>
    refine .of_leaf trivial rfl fun _ => ?_
    rw [fieldOr, ofOption, toOption?_int, toUInt64?_toNat, Option.map_some]

end Fields

end Json

/-! ### Instructions -/

namespace Instr

/-- The instruction can be stored: it pushes no value that cannot. -/
def Storable : Instr → Prop
  | .push value => value.Storable
  | _ => True

section Kinds

variable {kind name : String} {value : Json} {instr : Instr}

/-- An instruction without fields is kept. -/
theorem keeps_plain (reads : ∀ reading json, json.untag? reading kinds = some (kind, .obj []) →
    read? reading json = some instr) : Keeps read? (.tag kind []) instr :=
  .of_tag kinds List.not_mem_nil ⟨List.nodup_nil, trivial⟩
    (fun _ arranged => arranged.of_empty ▸ rfl)
    fun reading json _ arranged found => reads reading json (arranged.of_empty ▸ found)

/-- An instruction with one field is kept if the field's value is. -/
theorem keeps_field {α : Type} {a : α} {readField? : Option Json → Option α} {make : α → Instr}
    (other : name ≠ Json.tagKey) (kept : Keeps (fun _ json => readField? (some json)) value a)
    (reads : ∀ reading json record, json.untag? reading kinds = some (kind, record) →
      read? reading json = (Json.soleField? name readField? record).map make) :
    Keeps read? (.tag kind [(name, value)]) (make a) := by
  refine .of_tag kinds (fun found => other (List.mem_singleton.mp found).symm)
    ⟨List.nodup_singleton _, kept.distinct, trivial⟩ (fun record arranged => ?_)
    fun reading json record arranged found => ?_
  · obtain ⟨value', rfl, inside⟩ := arranged.of_single
    exact (Json.isReadable_single _ _).trans (kept.readable value' inside)
  · rw [reads reading json record found]
    obtain ⟨value', rfl, inside⟩ := arranged.of_single
    rw [Json.soleField?_single, kept.reads reading value' inside, Option.map_some]

end Kinds

/-- The tree of an instruction is kept. -/
theorem keeps (instr : Instr) (storable : instr.Storable) : Keeps read? instr.toJson instr := by
  cases instr with
  | push value =>
    have kept := Val.Storable.keeps storable
    have inside : Keeps (fun _ json => Json.field? (Val.read? .setAside) (some json))
        value.toJson value := ⟨kept.distinct, kept.readable, fun _ => kept.reads .setAside⟩
    exact keeps_field (by decide) inside fun _ _ _ found => by rw [read?, found]; rfl
  | incr amount =>
    have inside : Keeps (fun _ json => Json.field? Json.toInt64? (some json))
        (.int amount.toInt) amount :=
      .of_leaf trivial rfl fun _ =>
        signedWord?_toInt amount
    exact keeps_field (by decide) inside fun _ _ _ found => by rw [read?, found]; rfl
  | jump word | jumpIfFalse word | sleep word =>
    exact keeps_field (by decide) (Json.keeps_word word) fun _ _ _ found => by
      rw [read?, found]; rfl
  | waitForEvent timeout =>
    exact keeps_field (by decide) (Json.keeps_timeout timeout) fun _ _ _ found => by
      rw [read?, found]; rfl
  | fail message =>
    have inside : Keeps (fun _ json => Json.field? Json.toStr? (some json))
        (.str message) message :=
      .of_leaf trivial rfl fun _ => rfl
    exact keeps_field (by decide) inside fun _ _ _ found => by rw [read?, found]; rfl
  | pop | dup | print | breakpoint | ret =>
    exact keeps_plain fun _ _ found => by rw [read?, found]; rfl

/-- The tree of a listing is kept. -/
theorem keeps_listing (listing : List Instr) (storable : ∀ instr ∈ listing, instr.Storable) :
    Keeps (fun reading => Json.toList? (read? reading)) (.arr (listing.map toJson)) listing := by
  refine KeepsItems.keeps ?_
  induction listing with
  | nil => exact .nil
  | cons instr rest ih =>
    exact .cons (instr.keeps (storable instr List.mem_cons_self))
      (ih fun instr listed => storable instr (List.mem_cons_of_mem _ listed))

end Instr

/-! ### Programs -/

/-- The tree of a function reference is kept. -/
theorem FunctionRef.keeps (ref : FunctionRef) : Keeps (fun _ => ofJson?) ref.toJson ref :=
  .of_texts (by decide) rfl rfl

/-- A runtime is read as it was written. -/
theorem ProgramType.restores (type : ProgramType) : Restores ofJson? type.toJson type := by
  cases type <;> exact .of_rearranged trivial fun _ arranged => by cases arranged; rfl

namespace Code

/-- Code can be stored if its instructions can. -/
def Storable : Code → Prop
  | .instructions listing => ∀ instr ∈ listing, instr.Storable
  | .function _ => True

/-- Code is read as it was written. -/
theorem restores (code : Code) (storable : code.Storable) : Restores ofJson? code.toJson code := by
  cases code with
  | instructions listing =>
    have kept := Instr.keeps_listing listing storable
    refine .of_rearranged
      ⟨(by decide : [Json.tagKey, "instrs"].Nodup), trivial, kept.distinct, trivial⟩
      fun json' arranged => ?_
    obtain ⟨record, inside, -, found⟩ := Json.untag?_of_rearranged .inPlace kinds
      arranged (by decide : Json.tagKey ∉ ["instrs"])
    obtain ⟨items, rfl, arranged⟩ := inside.of_single
    have readable : (Json.obj [("instrs", items)]).isReadable = true :=
      (Json.isReadable_single _ _).trans (kept.readable items arranged)
    have back : Json.field? (Json.toList? (Instr.read? .setAside)) (some items) = some listing :=
      kept.reads .setAside items arranged
    rw [ofJson?, found readable]
    change (Json.soleField? "instrs" _ _).map Code.instructions = _
    rw [Json.soleField?_single, back, Option.map_some]
  | function ref =>
    have kept := ref.keeps
    refine .of_rearranged
      ⟨(by decide : [Json.tagKey, "module", "export"].Nodup), trivial, kept.distinct.2⟩
      fun json' arranged => ?_
    obtain ⟨record, inside, -, found⟩ := Json.untag?_of_rearranged .inPlace kinds
      arranged (by decide : Json.tagKey ∉ ["module", "export"])
    rw [ofJson?, found (kept.readable record inside)]
    exact congrArg (Option.map Code.function) (kept.reads .inPlace record inside)

end Code

namespace Program

/-- A program can be stored if its code can. -/
def Storable (program : Program) : Prop := program.code.Storable

/-- A program is read as it was written. -/
theorem restores (program : Program) (storable : program.Storable) :
    Restores ofJson? program.toJson program := by
  have type := program.type.restores
  have code := program.code.restores storable
  refine .of_rearranged ⟨(by decide : ["scriptname", "type", "code"].Nodup), trivial, type.distinct,
    code.distinct, trivial⟩ fun json' arranged => ?_
  obtain ⟨_, typeTree, codeTree, first, second, third, same⟩ := arranged.of_triple
  cases first
  have found : json'.fields? ["scriptname", "type", "code"] =
      some [some (.str program.scriptname), some typeTree, some codeTree] :=
    (same _).trans (by simp [Json.fields?, Json.namedFields?])
  rw [ofJson?, found]
  simp only [Json.field?_some, type.rearranged typeTree second, code.rearranged codeTree third,
    Option.bind_eq_bind, Option.bind_some]
  rfl

end Program

/-! ### Machines -/

namespace Machine

/-- A machine can be stored if its instructions can. -/
def Storable (m : Machine) : Prop := ∀ instr ∈ m.listing, instr.Storable

/-- A machine is read from three fields. -/
theorem ofJson?_of_fields {json listing pc done : Json}
    (found : json.fields? ["instrs", "pc", "done"] = some [some listing, some pc, some done]) :
    ofJson? json = (listing.toList? Instr.ofJson?).bind fun listing =>
      pc.toUInt64?.bind fun pc => done.toBool?.bind fun done => some ⟨listing, pc, done⟩ := by
  rw [ofJson?, found]
  rfl

/-- A machine is read as it was written, wherever it stands in its listing. -/
theorem restores (m : Machine) (storable : m.Storable) : Restores ofJson? m.toJson m := by
  have listing := (Instr.keeps_listing m.listing storable).restores .inPlace
  refine .of_rearranged ⟨(by decide : ["instrs", "pc", "done"].Nodup), listing.distinct, trivial,
    trivial, trivial⟩ fun json' arranged => ?_
  obtain ⟨tree, _, _, first, second, third, same⟩ := arranged.of_triple
  cases second
  cases third
  have found : json'.fields? ["instrs", "pc", "done"] =
      some [some tree, some (.int m.pc.toNat), some (.bool m.done)] :=
    (same _).trans (by simp [Json.fields?, Json.namedFields?])
  have back : tree.toList? Instr.ofJson? = some m.listing := listing.rearranged tree first
  rw [ofJson?_of_fields found, back, Json.toUInt64?_toNat]
  rfl

/-! ### Machines that are put away while they run -/

/-- The steps that a machine takes and the stacks that they leave. After each instruction the stack
is changed from outside, each time by the next one of `changes`. -/
def trace (m : Machine) (stack : List Val) : List (List Val → List Val) → List (Step × List Val)
  | [] => []
  | change :: later =>
    let ran := m.exec stack
    (ran.step, ran.stack) :: ran.machine.trace (change ran.stack) later

/-- The steps and the stacks of a machine that is stored before each instruction, `arrange` changing
the tree before it is read again. There are none if the tree cannot be read. -/
def relay? (arrange : Json → Json) (m : Machine) (stack : List Val) :
    List (List Val → List Val) → Option (List (Step × List Val))
  | [] => some []
  | change :: later => do
    let restored ← ofJson? (arrange m.toJson)
    let ran := restored.exec stack
    let rest ← ran.machine.relay? arrange (change ran.stack) later
    some ((ran.step, ran.stack) :: rest)

/-- A jump leaves the listing as it is. -/
theorem listing_jumpTo (m : Machine) (target : UInt64) :
    (m.jumpTo target).1.listing = m.listing := by
  unfold jumpTo
  split <;> rfl

/-- An addition leaves the listing as it is. -/
theorem listing_increment (m : Machine) (amount : Int64) (stack : List Val) :
    (m.increment amount stack).machine.listing = m.listing := by
  unfold increment
  split
  · split <;> rfl
  · rfl

/-- An instruction leaves the listing as it is. -/
theorem listing_exec (m : Machine) (stack : List Val) :
    (m.exec stack).machine.listing = m.listing := by
  unfold exec
  split
  · rfl
  · next instr here =>
    cases instr with
    | incr amount => exact listing_increment _ amount stack
    | jump target => exact listing_jumpTo _ target
    | jumpIfFalse target =>
      simp only [execute]
      split
      · rfl
      · exact listing_jumpTo _ target
    | push | pop | dup | sleep | waitForEvent | print | breakpoint | fail | ret => rfl

/-- A machine that can be stored can be stored after its next instruction as well. -/
theorem Storable.exec {m : Machine} (storable : m.Storable) (stack : List Val) :
    (m.exec stack).machine.Storable := fun instr listed =>
  storable instr (m.listing_exec stack ▸ listed)

/-- Storing a machine again and again while it runs makes no difference. -/
theorem relay?_eq_trace {arrange : Json → Json}
    (arranges : ∀ json : Json, json.DistinctKeys → Rearranged json (arrange json)) (m : Machine)
    (storable : m.Storable) (stack : List Val) (changes : List (List Val → List Val)) :
    m.relay? arrange stack changes = some (m.trace stack changes) := by
  induction changes generalizing m stack with
  | nil => rfl
  | cons change later ih =>
    have stored := m.restores storable
    have restored := stored.rearranged _ (arranges m.toJson stored.distinct)
    have rest := ih _ (storable.exec stack) (change (m.exec stack).stack)
    rw [relay?, restored, Option.bind_eq_bind, Option.bind_some]
    dsimp only
    rw [rest]
    rfl

end Machine

/-! ### What is stored is read back -/

/-- What can be stored is read back from the tree that it is written as, from the plain form of that
tree, and from every other arrangement of it. -/
structure ReadsBack : Prop where
  /-- A value, if its doubles are finite and its structs are sorted by key. -/
  values : ∀ v : Val, v.Storable → Restores Val.ofJson? v.toJson v
  instructions : ∀ instr : Instr, instr.Storable → Restores Instr.ofJson? instr.toJson instr
  /-- A wait without a timer may leave the timeout out. -/
  withoutTimeout : Restores Instr.ofJson? (.tag "WaitForEvent" []) (.waitForEvent none)
  functions : ∀ ref : FunctionRef, Restores FunctionRef.ofJson? ref.toJson ref
  /-- A reference to the default export may leave the export out. -/
  withoutExport : ∀ module, Restores FunctionRef.ofJson? (.obj [("module", .str module)])
    ⟨module, FunctionRef.defaultExport⟩
  runtimes : ∀ type : ProgramType, Restores ProgramType.ofJson? type.toJson type
  /-- A runtime with an unfamiliar name is an unknown one. -/
  unfamiliar : ∀ name, name ∉ ["bytecode", "engine"] →
    Restores ProgramType.ofJson? (.str name) .unknown
  code : ∀ code : Code, code.Storable → Restores Code.ofJson? code.toJson code
  programs : ∀ program : Program, program.Storable →
    Restores Program.ofJson? program.toJson program
  /-- The machine may stand anywhere, also behind its listing, and may have stopped. -/
  machines : ∀ m : Machine, m.Storable → Restores Machine.ofJson? m.toJson m
  /-- A machine that has been stored goes on as it would have done otherwise. -/
  resumes : ∀ m : Machine, m.Storable → ∀ json, Rearranged m.toJson json →
    ∃ restored, Machine.ofJson? json = some restored ∧
      ∀ stack changes, restored.trace stack changes = m.trace stack changes
  /-- So does a machine that is stored again and again. -/
  relays : ∀ m : Machine, m.Storable → ∀ arrange,
    (∀ json : Json, json.DistinctKeys → Rearranged json (arrange json)) →
      ∀ stack changes, m.relay? arrange stack changes = some (m.trace stack changes)

/-- What is stored is read back, and a machine that was stored goes on. -/
theorem readsBack : ReadsBack where
  values _ storable := storable.keeps.restores .inPlace
  instructions instr storable := (instr.keeps storable).restores .inPlace
  withoutTimeout := (Instr.keeps_plain fun _ _ found => by
    rw [Instr.read?, found]; rfl).restores .inPlace
  functions ref := ref.keeps.restores .inPlace
  withoutExport module := .of_rearranged ⟨List.nodup_singleton _, trivial, trivial⟩
    fun _ arranged => by
      obtain ⟨_, rfl, inside⟩ := arranged.of_single
      cases inside
      rfl
  runtimes := ProgramType.restores
  unfamiliar name other := .of_rearranged trivial fun _ arranged => by
    cases arranged
    have names := not_or.mp (mt List.mem_cons.mpr other)
    have back : ProgramType.ofName name = .unknown := by
      rw [ProgramType.ofName, if_neg names.1, if_neg (mt List.mem_singleton.mpr names.2)]
    exact congrArg some back
  code := Code.restores
  programs := Program.restores
  machines := Machine.restores
  resumes m storable json arranged :=
    ⟨m, (m.restores storable).rearranged json arranged, fun _ _ => rfl⟩
  relays m storable _ arranges := m.relay?_eq_trace arranges storable

/-- A struct whose keys are those of the layout. -/
def layoutKeys : Val :=
  .struct [("t", .str "Uninit"), ("v", .array [.double (.ofInt 1), .uninit])]

/-- A machine that has pushed such a struct and is about to wait for an event. -/
def parked : Machine := ⟨[.push layoutKeys, .waitForEvent none, .ret], 1, false⟩

/-- The machine is read back. Stored before each instruction, it waits and returns the event. -/
theorem readsBack_parked :
    parked.Storable ∧ Restores Machine.ofJson? parked.toJson parked ∧
      parked.relay? Json.plain [layoutKeys] [fun stack => .str "event" :: stack.tail, id] =
        some [(.waitForEvent none, [.sentinel, layoutKeys]),
          (.exit (.str "event"), [layoutKeys])] := by
  have one : (Double.ofInt 1).isFinite = true := Double.isFinite_ofInt (by decide)
  have finite : layoutKeys.Finite := ⟨trivial, trivial, ⟨trivial, one, trivial, trivial⟩, trivial⟩
  have canonical : layoutKeys.Canonical :=
    ⟨(by decide : ["t", "v"].Pairwise (· < ·)), trivial, ⟨trivial, trivial, trivial⟩, trivial⟩
  have storable : parked.Storable := by
    intro instr listed
    rcases List.mem_cons.mp listed with rfl | listed
    · exact ⟨finite, canonical⟩
    · rcases List.mem_pair.mp listed with rfl | rfl <;> trivial
  exact ⟨storable, readsBack.machines parked storable,
    readsBack.relays parked storable Json.plain Json.rearranged_plain [layoutKeys] _⟩

end ScriptScheduler
