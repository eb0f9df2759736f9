import ScriptScheduler.Ident
import ScriptScheduler.Json.Basic

/-!
# Script values

`Val` is what scripts compute with: what stands on a script's stack, what an event, an answer or
an engine call delivers, and what a script returns. A struct lists its members in increasing key
order; `Val.Canonical` says that this holds at every depth.
-/

namespace ScriptScheduler

/-- The payload of an error value. -/
structure ErrorInfo where
  code : String
  message : String
  deriving DecidableEq

/-- A script value. -/
inductive Val where
  | uninit
  | long (n : Int64)
  | double (x : Double)
  | bool (b : Bool)
  | str (s : String)
  | array (items : List Val)
  | struct (members : List (String × Val))
  | entity (id : EntityId)
  | error (info : ErrorInfo)

namespace Val

/-- What a script sees in place of an answer that never came. -/
def sentinel : Val := .long 0

/-- An error value. -/
def fail (code message : String) : Val := .error ⟨code, message⟩

/-- Whether a value is an error. -/
def isError : Val → Bool
  | .error _ => true
  | _ => false

/-- Whether a value counts as true in a condition. -/
def isTruthy : Val → Bool
  | .uninit => false
  | .long n => n != 0
  | .double x => !x.isZero
  | .bool b => b
  | .str s => !s.isEmpty
  | .error _ => false
  | .array _ => true
  | .struct _ => true
  | .entity _ => true

/-! ### Canonical values -/

mutual

/-- Every struct in the value has its members in increasing key order. -/
def Canonical : Val → Prop
  | .array items => CanonicalItems items
  | .struct members => SortedByKey members ∧ CanonicalMembers members
  | _ => True

/-- All items are canonical. -/
def CanonicalItems : List Val → Prop
  | [] => True
  | item :: rest => item.Canonical ∧ CanonicalItems rest

/-- All members' values are canonical. -/
def CanonicalMembers : List (String × Val) → Prop
  | [] => True
  | (_, value) :: rest => value.Canonical ∧ CanonicalMembers rest

end

/-! ### Comparing values -/

mutual

/-- Whether two values are the same; doubles are compared as numbers. -/
def sameAs : Val → Val → Bool
  | .uninit, .uninit => true
  | .long m, .long n => m = n
  | .double x, .double y => x.sameNumber y
  | .bool a, .bool b => a = b
  | .str s, .str t => s = t
  | .array xs, .array ys => sameItems xs ys
  | .struct ms, .struct ns => sameMembers ms ns
  | .entity a, .entity b => a = b
  | .error i, .error j => i = j
  | _, _ => false

/-- Whether two lists have the same items. -/
def sameItems : List Val → List Val → Bool
  | [], [] => true
  | x :: xs, y :: ys => x.sameAs y && sameItems xs ys
  | _, _ => false

/-- Whether two lists have the same members. -/
def sameMembers : List (String × Val) → List (String × Val) → Bool
  | [], [] => true
  | (k, x) :: xs, (l, y) :: ys => k = l && x.sameAs y && sameMembers xs ys
  | _, _ => false

end

end Val

/-! ### Codes of the errors that the scheduler itself raises -/

namespace ErrorCode

/-- The script was killed or shut down. -/
def aborted : String := "Aborted"

/-- An engine call failed. -/
def engine : String := "EngineError"

/-- The script ran for too long without blocking. -/
def runaway : String := "RunawayScript"

/-- An instruction failed. -/
def fault : String := "ScriptFault"

end ErrorCode

end ScriptScheduler
