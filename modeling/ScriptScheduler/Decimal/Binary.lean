import ScriptScheduler.Number

/-!
# Binary floating point

A `Double` is the 64-bit word of a binary64 number. All arithmetic on it is exact arithmetic on
natural numbers followed by one rounding, `Double.ofRatio`, to the nearest double with ties to the
even one.
-/

namespace ScriptScheduler

/-- A binary64 number, given by its word. -/
structure Double where
  bits : UInt64
  deriving DecidableEq

namespace Double

/-! ### The parts of the word -/

/-- The value of the sign bit. -/
def signBit : Nat := 0x8000000000000000

/-- The value of the lowest bit of the exponent. The bits below it are the fraction; in a normal
number it is also the value of the leading bit, which is not stored. -/
def hiddenBit : Nat := 0x10000000000000

/-- The magnitude bits of an infinity. -/
def infinite : Nat := 2047 * hiddenBit

/-- Whether the sign bit is set. -/
def isNegative (x : Double) : Bool := signBit ≤ x.bits.toNat

/-- The eleven bits of the biased exponent. -/
def exponentField (x : Double) : Nat := x.bits.toNat / hiddenBit % 2048

/-- The fifty-two bits of the fraction. -/
def fraction (x : Double) : Nat := x.bits.toNat % hiddenBit

/-- Neither infinite nor a NaN. -/
def isFinite (x : Double) : Bool := x.exponentField < 2047

/-- Both zeros. -/
def isZero (x : Double) : Bool := x.exponentField = 0 && x.fraction = 0

/-- A NaN. -/
def isNaN (x : Double) : Bool := x.exponentField = 2047 && x.fraction ≠ 0

/-- The whole number `m` such that a finite double is `± m * 2 ^ scale`. -/
def mantissa (x : Double) : Nat :=
  if x.exponentField = 0 then x.fraction else x.fraction + hiddenBit

/-- The exponent of two that goes with `mantissa`. -/
def scale (x : Double) : Int := (max 1 x.exponentField : Nat) - 1075

/-- The double with the given sign bit and magnitude bits. -/
def ofMagnitude (negative : Bool) (magnitude : Nat) : Double :=
  ⟨UInt64.ofNat (magnitude + if negative then signBit else 0)⟩

/-! ### Rounding -/

/-- The quotient `num / den` rounded to a whole number, a half to the even neighbour. -/
def roundedQuotient (num den : Nat) : Nat :=
  let q := num / den
  let r := num % den
  if 2 * r < den then q
  else if den < 2 * r then q + 1
  else q + q % 2

/-- `num / den` in units of `2 ^ e`, as a ratio. -/
def inUnits (num den : Nat) (e : Int) : Nat × Nat :=
  if 0 ≤ e then (num, den * twoTo e.toNat) else (num * twoTo (-e).toNat, den)

/-- The exponent of the unit in which `num / den` has fifty-three binary digits, but not below
the unit of the subnormal numbers. -/
def unitExponent (num den : Nat) : Int :=
  let e : Int := (Nat.log2 num : Int) - Nat.log2 den - 53
  let (n, d) := inUnits num den e
  max (-1074) (if 2 * hiddenBit ≤ n / d then e + 1 else e)

/-- The double nearest to `± num / den`; too large a quotient becomes an infinity. -/
def ofRatio (negative : Bool) (num den : Nat) : Double :=
  if num = 0 then ofMagnitude negative 0
  else
    let e := unitExponent num den
    let (n, d) := inUnits num den e
    let m := roundedQuotient n d
    -- A carry out of the fraction runs into the exponent, which is then the right one.
    let magnitude := if m < hiddenBit then m else (e + 1074).toNat * hiddenBit + m
    ofMagnitude negative (min magnitude infinite)

/-- The double nearest to a natural number. -/
def ofNat (n : Nat) : Double := ofRatio false n 1

/-- The double nearest to an integer. -/
def ofInt (n : Int) : Double := ofRatio (n < 0) n.natAbs 1

/-! ### Arithmetic -/

/-- The magnitude of a finite double as a ratio. -/
def ratio (x : Double) : Nat × Nat :=
  if 0 ≤ x.scale then (x.mantissa * twoTo x.scale.toNat, 1)
  else (x.mantissa, twoTo (-x.scale).toNat)

/-- The product of two finite doubles, rounded once. -/
def mul (x y : Double) : Double :=
  ofRatio (x.isNegative != y.isNegative) (x.ratio.1 * y.ratio.1) (x.ratio.2 * y.ratio.2)

/-- The quotient of two finite doubles, the second not zero, rounded once. -/
def div (x y : Double) : Double :=
  ofRatio (x.isNegative != y.isNegative) (x.ratio.1 * y.ratio.2) (x.ratio.2 * y.ratio.1)

/-- The number with the other sign. -/
def neg (x : Double) : Double := ofMagnitude (!x.isNegative) (x.bits.toNat % signBit)

/-- Equality of numbers: the two zeros are equal, a NaN equals nothing. -/
def sameNumber (x y : Double) : Bool :=
  !x.isNaN && !y.isNaN && (x = y || (x.isZero && y.isZero))

end Double

end ScriptScheduler
