import ScriptScheduler.Value.Basic

/-!
# Programs

A program is a named piece of code with the runtime that executes it. Bytecode is a listing of
instructions; an engine program names a function exported by one of the engine's modules.
-/

namespace ScriptScheduler

/-- The runtime that executes a program. -/
inductive ProgramType where
  | bytecode
  | engine
  | unknown
  deriving DecidableEq

/-- The name of a runtime in messages. -/
def ProgramType.label : ProgramType → String
  | .bytecode => "Bytecode"
  | .engine => "Engine"
  | .unknown => "Unknown"

/-- A function exported by a module of the engine. -/
structure FunctionRef where
  module : String
  exportName : String
  deriving DecidableEq

/-- The export that is meant when none is named. -/
def FunctionRef.defaultExport : String := "default"

/-- An instruction of the bytecode machine. -/
inductive Instr where
  | push (value : Val)
  | pop
  | dup
  | incr (amount : Int64)
  | jump (target : UInt64)
  | jumpIfFalse (target : UInt64)
  | sleep (ms : UInt64)
  | waitForEvent (timeout : Option UInt64)
  | print
  | breakpoint
  | fail (message : String)
  | ret

/-- The instruction that an instruction may jump to. -/
def Instr.target? : Instr → Option UInt64
  | .jump target => some target
  | .jumpIfFalse target => some target
  | _ => none

/-- The code of a program. -/
inductive Code where
  | instructions (listing : List Instr)
  | function (ref : FunctionRef)

/-- A program. -/
structure Program where
  scriptname : String
  type : ProgramType
  code : Code

namespace Program

/-- A bytecode program. -/
def bytecode (scriptname : String) (listing : List Instr) : Program :=
  ⟨scriptname, .bytecode, .instructions listing⟩

/-- A program that calls the default export of a module of the engine. -/
def engine (scriptname module : String) : Program :=
  ⟨scriptname, .engine, .function ⟨module, FunctionRef.defaultExport⟩⟩

/-- Whether there is any code to run. -/
def hasCode (program : Program) : Bool :=
  match program.code with
  | .instructions listing => !listing.isEmpty
  | .function ref => !ref.module.isEmpty

/-- The function that the program calls. -/
def function? (program : Program) : Option FunctionRef :=
  match program.code with
  | .instructions _ => none
  | .function ref => some ref

/-- The instructions of the program. -/
def listing? (program : Program) : Option (List Instr) :=
  match program.code with
  | .instructions listing => some listing
  | .function _ => none

end Program

end ScriptScheduler
