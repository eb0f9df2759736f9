import ScriptScheduler.Program.Layout
import ScriptScheduler.Value.Text

/-!
# The bytecode machine

A machine runs a listing one instruction at a time against a script's stack. The stack is a list
with its top first. An instruction that blocks leaves a sentinel on the stack; whatever wakes the
script puts the observed value in its place.
-/

namespace ScriptScheduler

/-- A machine: its listing, the position of the next instruction and whether it has stopped. -/
structure Machine where
  listing : List Instr
  pc : UInt64
  done : Bool

/-- Why an instruction failed. -/
inductive Fault where
  | overflow (n amount : Int64)
  | notIncrementable (top : Option Val)
  | jumpOutOfRange (target : UInt64)
  | raised (message : String)

/-- The text of a fault. -/
def Fault.message : Fault → String
  | .overflow n amount =>
    "integer overflow incrementing " ++ toString n.toInt ++ " by " ++ toString amount.toInt
  | .notIncrementable top => "cannot increment " ++ Val.inspectOption top
  | .jumpOutOfRange target => "jump target " ++ toString target.toNat ++ " out of range"
  | .raised message => message

/-- Why a program cannot be loaded. -/
inductive LoadError where
  | noListing
  | badJump (index : Nat) (target : UInt64)
  deriving DecidableEq

/-- The text of a load error. -/
def LoadError.message : LoadError → String
  | .noListing => "program has no instruction listing"
  | .badJump index target =>
    "instruction " ++ toString index ++ " jumps to " ++ toString target.toNat

/-- What an instruction asks of the script that runs it. -/
inductive Step where
  | proceed
  | sleep (ms : UInt64)
  /-- Take the next queued event, or wait for one. `none` waits without a timer and `some 0` does
  not wait. -/
  | waitForEvent (timeout : Option UInt64)
  | halt
  | exit (value : Val)
  | fault (cause : Fault)

/-- The result of one instruction. -/
structure Executed where
  machine : Machine
  stack : List Val
  step : Step
  /-- The value that the instruction prints. -/
  printed : Option Val := none

namespace Machine

/-- A machine without a listing. -/
def empty : Machine := ⟨[], 0, false⟩

/-! ### Loading -/

/-- The first instruction in the listing that jumps past the end of a listing of `size`
instructions; `index` is the position of the first one. -/
def firstBadJump? (size : Nat) : Nat → List Instr → Option (Nat × UInt64)
  | _, [] => none
  | index, instr :: rest =>
    match instr.target? with
    | some target =>
      if size < target.toNat then some (index, target) else firstBadJump? size (index + 1) rest
    | none => firstBadJump? size (index + 1) rest

/-- A machine at the start of a program. Jumps to just behind the last instruction are
allowed. -/
def load (program : Program) : Except LoadError Machine :=
  match program.code with
  | .function _ => .error .noListing
  | .instructions listing =>
    match firstBadJump? listing.length 0 listing with
    | some (index, target) => .error (.badJump index target)
    | none => .ok ⟨listing, 0, false⟩

/-! ### Running -/

/-- Whether there is an instruction left to run. -/
def runnable (m : Machine) : Bool := !m.done && m.pc.toNat < m.listing.length

/-- The value on top of a stack. -/
def topOf (stack : List Val) : Val := stack.headD .uninit

/-- The machine after its last instruction. -/
def stop (m : Machine) : Machine := { m with done := true }

/-- Sets the position of the next instruction, which may be the end of the listing. -/
def jumpTo (m : Machine) (target : UInt64) : Machine × Step :=
  if m.listing.length < target.toNat then (m.stop, .fault (.jumpOutOfRange target))
  else ({ m with pc := target }, .proceed)

/-- Adds to the integer on top of the stack. -/
def increment (m : Machine) (amount : Int64) (stack : List Val) : Executed :=
  match stack with
  | .long n :: rest =>
    match signedWord? (n.toInt + amount.toInt) with
    | some sum => ⟨m, .long sum :: rest, .proceed, none⟩
    | none => ⟨m.stop, stack, .fault (.overflow n amount), none⟩
  | _ => ⟨m.stop, stack, .fault (.notIncrementable stack.head?), none⟩

/-- Runs an instruction on a machine that already points to the next one. -/
def execute (m : Machine) (stack : List Val) : Instr → Executed
  | .push value => ⟨m, value :: stack, .proceed, none⟩
  | .pop => ⟨m, stack.tail, .proceed, none⟩
  | .dup => ⟨m, topOf stack :: stack, .proceed, none⟩
  | .incr amount => m.increment amount stack
  | .jump target => ⟨(m.jumpTo target).1, stack, (m.jumpTo target).2, none⟩
  | .jumpIfFalse target =>
    if (topOf stack).isTruthy then ⟨m, stack.tail, .proceed, none⟩
    else ⟨(m.jumpTo target).1, stack.tail, (m.jumpTo target).2, none⟩
  | .sleep ms => ⟨m, .sentinel :: stack, .sleep ms, none⟩
  | .waitForEvent timeout => ⟨m, .sentinel :: stack, .waitForEvent timeout, none⟩
  | .print => ⟨m, stack, .proceed, some (topOf stack)⟩
  | .breakpoint => ⟨m, stack, .halt, none⟩
  | .fail message => ⟨m.stop, stack, .fault (.raised message), none⟩
  | .ret => ⟨m.stop, stack.tail, .exit (topOf stack), none⟩

/-- Runs the next instruction. Past the end of the listing the machine exits with the value on
top of the stack. -/
def exec (m : Machine) (stack : List Val) : Executed :=
  match m.listing[m.pc.toNat]? with
  | none => ⟨m.stop, stack.tail, .exit (topOf stack), none⟩
  | some instr => { m with pc := m.pc + 1 }.execute stack instr

/-! ### Storing -/

/-- A machine as JSON. -/
def toJson (m : Machine) : Json :=
  .obj [("instrs", .arr (m.listing.map Instr.toJson)), ("pc", .int m.pc.toNat),
    ("done", .bool m.done)]

/-- The machine that a tree stands for. -/
def ofJson? (json : Json) : Option Machine := do
  let [listing, pc, done] ← json.fields? ["instrs", "pc", "done"] | none
  some ⟨← Json.field? (Json.toList? Instr.ofJson?) listing, ← Json.field? Json.toUInt64? pc,
    ← Json.field? Json.toBool? done⟩

end Machine

end ScriptScheduler
