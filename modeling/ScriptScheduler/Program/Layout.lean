import ScriptScheduler.Program.Basic
import ScriptScheduler.Value.Layout

/-!
# Programs as JSON

Instructions and code carry their kind under `t` beside their other fields, or as the first item
of an array; their fields are set aside until the kind is known. A program is a record of its name,
its runtime and its code.
-/

namespace ScriptScheduler

/-! ### Records with one field -/

/-- Reads a record with one field. -/
def Json.soleField? {α : Type} (name : String) (read : Option Json → Option α) (json : Json) :
    Option α :=
  match json.fields? [name] with
  | some [found] => read found
  | _ => none

/-! ### Runtimes -/

namespace ProgramType

/-- A runtime as JSON. -/
def toJson : ProgramType → Json
  | .bytecode => .str "bytecode"
  | .engine => .str "engine"
  | .unknown => .str "unknown"

/-- The runtime with a given name; all other names are unknown runtimes. -/
def ofName (name : String) : ProgramType :=
  if name = "bytecode" then .bytecode else if name = "engine" then .engine else .unknown

/-- The runtime that a tree stands for. -/
def ofJson? (json : Json) : Option ProgramType := json.toName?.map ofName

end ProgramType

/-! ### Instructions -/

namespace Instr

/-- An instruction as JSON. -/
def toJson : Instr → Json
  | .push value => .tag "Push" [("value", value.toJson)]
  | .pop => .tag "Pop" []
  | .dup => .tag "Dup" []
  | .incr amount => .tag "Incr" [("by", .int amount.toInt)]
  | .jump target => .tag "Jump" [("target", .int target.toNat)]
  | .jumpIfFalse target => .tag "JumpIfFalse" [("target", .int target.toNat)]
  | .sleep ms => .tag "Sleep" [("ms", .int ms.toNat)]
  | .waitForEvent timeout =>
    .tag "WaitForEvent" [("timeout", .ofOption (fun ms => .int ms.toNat) timeout)]
  | .print => .tag "Print" []
  | .breakpoint => .tag "Breakpoint" []
  | .fail message => .tag "Fail" [("message", .str message)]
  | .ret => .tag "Return" []

/-- The instruction `instr` for a record without fields. -/
def plain? (instr : Instr) (json : Json) : Option Instr := (json.fields? []).map fun _ => instr

/-- The kinds of instructions, in their order. -/
def kinds : List String :=
  ["Push", "Pop", "Dup", "Incr", "Jump", "JumpIfFalse", "Sleep", "WaitForEvent", "Print",
    "Breakpoint", "Fail", "Return"]

/-- The instruction that a tree stands for, in a given reading. -/
def read? (reading : Json.Reading) (json : Json) : Option Instr := do
  let (kind, fields) ← json.untag? reading kinds
  match kind with
  | "Push" => (Json.soleField? "value" (Json.field? (Val.read? .setAside)) fields).map .push
  | "Pop" => plain? .pop fields
  | "Dup" => plain? .dup fields
  | "Incr" => (Json.soleField? "by" (Json.field? Json.toInt64?) fields).map .incr
  | "Jump" => (Json.soleField? "target" (Json.field? Json.toUInt64?) fields).map .jump
  | "JumpIfFalse" => (Json.soleField? "target" (Json.field? Json.toUInt64?) fields).map .jumpIfFalse
  | "Sleep" => (Json.soleField? "ms" (Json.field? Json.toUInt64?) fields).map .sleep
  | "WaitForEvent" =>
    (Json.soleField? "timeout" (Json.fieldOr none (Json.toOption? Json.toUInt64?)) fields).map
      .waitForEvent
  | "Print" => plain? .print fields
  | "Breakpoint" => plain? .breakpoint fields
  | "Fail" => (Json.soleField? "message" (Json.field? Json.toStr?) fields).map .fail
  | "Return" => plain? .ret fields
  | _ => none

/-- The instruction that a tree stands for. -/
def ofJson? (json : Json) : Option Instr := read? .inPlace json

end Instr

/-! ### Code and programs -/

namespace FunctionRef

/-- The fields of a function reference. -/
def members (ref : FunctionRef) : List (String × Json) :=
  [("module", .str ref.module), ("export", .str ref.exportName)]

/-- A function reference as JSON. -/
def toJson (ref : FunctionRef) : Json := .obj ref.members

/-- The function reference that a tree stands for. The export may be left out. -/
def ofJson? (json : Json) : Option FunctionRef := do
  let [module, exported] ← json.fields? ["module", "export"] | none
  some ⟨← Json.field? Json.toStr? module, ← Json.fieldOr defaultExport Json.toStr? exported⟩

end FunctionRef

namespace Code

/-- Code as JSON. -/
def toJson : Code → Json
  | .instructions listing =>
    .tag "Instructions" [("instrs", .arr (listing.map Instr.toJson))]
  | .function ref => .tag "Function" ref.members

/-- The kinds of code, in their order. -/
def kinds : List String := ["Instructions", "Function"]

/-- The code that a tree stands for. -/
def ofJson? (json : Json) : Option Code := do
  let (kind, fields) ← json.untag? .inPlace kinds
  match kind with
  | "Instructions" =>
    let read := Json.field? (Json.toList? (Instr.read? .setAside))
    (Json.soleField? "instrs" read fields).map .instructions
  | "Function" => (FunctionRef.ofJson? fields).map .function
  | _ => none

end Code

namespace Program

/-- A program as JSON. -/
def toJson (program : Program) : Json :=
  .obj [("scriptname", .str program.scriptname), ("type", program.type.toJson),
    ("code", program.code.toJson)]

/-- The program that a tree stands for. -/
def ofJson? (json : Json) : Option Program := do
  let [scriptname, type, code] ← json.fields? ["scriptname", "type", "code"] | none
  some ⟨← Json.field? Json.toStr? scriptname, ← Json.field? ProgramType.ofJson? type,
    ← Json.field? Code.ofJson? code⟩

end Program

end ScriptScheduler
