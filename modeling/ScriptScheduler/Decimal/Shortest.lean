import ScriptScheduler.Decimal.Binary

/-!
# The shortest decimal that reads back

A double stands for every real number that rounds to it. Of the decimals among these, the ones
with the fewest digits are kept, and of those the nearest to the double. For each count of digits
it is enough to look at the two neighbours of the double on the grid of decimals with that many
digits: if any point of the grid rounds to the double, so does one of the two.
-/

namespace ScriptScheduler

/-- The number `0.d₁d₂… * 10 ^ point`, its digits written as characters. -/
structure Decimal where
  digits : List Char
  point : Int

/-- Which of two equally near shortest decimals is taken. -/
inductive Tie where
  | even
  | up
  deriving DecidableEq

namespace Decimal

/-- The number of decimal digits of `n`. -/
def width (n : Nat) : Nat := (Nat.toDigits 10 n).length

/-- The place of the point of `num / den` when it is written `0.d₁d₂… * 10 ^ point` with
`d₁ ≠ 0`. -/
def pointOf (num den : Nat) : Int :=
  if den ≤ num then width (num / den) else 1 - (width ((den - 1) / num) : Int)

/-- `num / den` in units of `10 ^ e`, as a ratio. -/
def inUnits (num den : Nat) (e : Int) : Nat × Nat :=
  if 0 ≤ e then (num, den * tenTo e.toNat) else (num * tenTo (-e).toNat, den)

/-- The reals that round to a positive double, in quarters of its unit: the double, the ends of
the interval, and whether the ends belong to it. -/
structure Interval where
  center : Nat
  low : Nat
  high : Nat
  closed : Bool

/-- Just above a power of two the lower neighbour is only half as far away. -/
def intervalOf (x : Double) : Interval :=
  let m := x.mantissa
  let narrow := x.fraction = 0 && 1 < x.exponentField
  ⟨4 * m, 4 * m - (if narrow then 1 else 2), 4 * m + 2, m % 2 = 0⟩

/-- Whether the real number `num / den` lies in the interval. -/
def Interval.holds (i : Interval) (num den : Nat) : Bool :=
  let low := i.low * den
  let high := i.high * den
  if i.closed then low ≤ num && num ≤ high else low < num && num < high

/-- The multiple of `10 ^ e` nearest to the center of the interval among those that lie in it,
as the multiplier. The unit of the interval is `2 ^ q`. -/
def nearestOnGrid? (tie : Tie) (i : Interval) (q e : Int) : Option Nat :=
  -- One step of the grid is `step / unit` quarters.
  let step := 4 * (if 0 ≤ e then tenTo e.toNat else 1) * (if 0 ≤ q then 1 else twoTo (-q).toNat)
  let unit := (if 0 ≤ e then 1 else tenTo (-e).toNat) * (if 0 ≤ q then twoTo q.toNat else 1)
  let below := i.center * unit / step
  let belowHolds := i.holds (below * step) unit
  let aboveHolds := i.holds ((below + 1) * step) unit
  let twiceRest := 2 * (i.center * unit - below * step)
  match belowHolds, aboveHolds with
  | false, false => none
  | true, false => some below
  | false, true => some (below + 1)
  | true, true =>
    if twiceRest < step then some below
    else if step < twiceRest then some (below + 1)
    else match tie with
      | .even => some (below + below % 2)
      | .up => some (below + 1)

/-- The decimal `n * 10 ^ e` without the zeros at its end. -/
def ofScaled (n : Nat) (e : Int) : Decimal :=
  let all := Nat.toDigits 10 n
  ⟨(all.reverse.dropWhile (· = '0')).reverse, all.length + e⟩

/-- The shortest decimal that reads back as the magnitude of `x`, a finite double other than
zero. Seventeen digits always suffice. -/
def shortest (tie : Tie) (x : Double) : Decimal :=
  let i := intervalOf x
  let (num, den) := x.ratio
  let point := pointOf num den
  let found := (List.range' 1 17).findSome? fun (count : Nat) =>
    let e := point - count
    (nearestOnGrid? tie i x.scale e).map fun n => ofScaled n e
  found.getD ⟨[], 0⟩

end Decimal

end ScriptScheduler
