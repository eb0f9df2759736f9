/-!
# Identifiers and the clock

Scripts, requests and game entities are named by numbers; the clock counts milliseconds.
Logs write a script or an entity as `0x1f`, a request as at least four hexadecimal digits.
-/

namespace ScriptScheduler

/-! ### The clock

A clock reading is a natural number of milliseconds. Every entry point is told the time by its
caller. -/

namespace Clock

/-- The wake clock of a script that sleeps without a timer. -/
def never : Nat := 0

/-- The last reading the clock can show. -/
def last : Nat := UInt64.size - 1

/-- The clock at which a timer set at `now` for `ms` milliseconds fires. It stops at the last
reading and is never `never`. -/
def wakeAfter (now ms : Nat) : Nat := max 1 (min (now + ms) last)

theorem wakeAfter_ne_never (now ms : Nat) : wakeAfter now ms ≠ never := by
  unfold wakeAfter never
  omega

end Clock

/-! ### Names of things -/

/-- The lowercase hexadecimal digits of a number. -/
def hexDigits (n : Nat) : String := String.ofList (Nat.toDigits 16 n)

/-- Fills `text` up with zeros on the left to at least `width` characters. -/
def zeroPadded (width : Nat) (text : String) : String :=
  String.ofList (List.replicate (width - text.length) '0') ++ text

/-- The number of a script. Numbers are handed out in increasing order from `1`. They have 32 bits,
which is checked where operations are executed: the addition to the counter must not overflow. -/
structure Pid where
  number : Nat
  deriving DecidableEq

/-- The text of a script number in logs and messages. -/
def Pid.text (pid : Pid) : String := "0x" ++ hexDigits pid.number

/-- The number of an outstanding request or engine call. -/
structure RequestId where
  number : Nat
  deriving DecidableEq

namespace RequestId

/-- The text of a request number in logs. -/
def text (id : RequestId) : String := zeroPadded 4 (hexDigits id.number)

/-- The number that is handed out after `n` others. Numbers have 32 bits; after the last one they
start again at `1`. -/
def ofCount (n : Nat) : RequestId := ⟨n % (UInt32.size - 1) + 1⟩

end RequestId

/-- The serial of a game entity, a 32-bit word. -/
structure EntityId where
  number : UInt32
  deriving DecidableEq

/-- The text of an entity's serial. -/
def EntityId.text (entity : EntityId) : String := "0x" ++ hexDigits entity.number.toNat

end ScriptScheduler
