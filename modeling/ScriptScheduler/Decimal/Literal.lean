import ScriptScheduler.Decimal.Binary

/-!
# Decimal literals

The double nearest to a decimal number that is given by its digits.
-/

namespace ScriptScheduler

/-- The value of a decimal digit. -/
def decimalDigit (c : Char) : Nat := c.toNat - '0'.toNat

/-- The number that decimal digits write. -/
def natOfDigits (digits : List Char) : Nat :=
  digits.foldl (fun n c => 10 * n + decimalDigit c) 0

/-- The decimal natural number below `2 ^ 64` that a text writes, with a plus sign or without. -/
def natOfText? (s : String) : Option Nat :=
  let digits := match s.toList with
    | '+' :: rest => rest
    | all => all
  if digits.isEmpty || !digits.all Char.isDigit then none
  else if natOfDigits digits < UInt64.size then some (natOfDigits digits)
  else none

/-- The double nearest to `± significand * 10 ^ exponent`. Exponents outside the range of doubles
are cut to it before they are used. -/
def Double.ofDecimal (negative : Bool) (significand : Nat) (exponent : Int) : Double :=
  let digits := (Nat.toDigits 10 significand).length
  let e := max (-400 - (digits : Int)) (min 400 exponent)
  if 0 ≤ e then .ofRatio negative (significand * tenTo e.toNat) 1
  else .ofRatio negative significand (tenTo (-e).toNat)

/-- The double that a text writes: digits with an optional sign, point and exponent, or the name
of a number that is not finite. -/
def Double.ofText? (s : String) : Option Double :=
  let (negative, text) := match s.toList with
    | '-' :: rest => (true, rest)
    | '+' :: rest => (false, rest)
    | all => (false, all)
  let word := (String.ofList text).toLower
  if word = "inf" || word = "infinity" then some (.ofMagnitude negative Double.infinite)
  else if word = "nan" then some (.ofMagnitude negative (Double.infinite + Double.hiddenBit / 2))
  else
    let whole := text.takeWhile Char.isDigit
    let (places, rest) := match text.dropWhile Char.isDigit with
      | '.' :: rest => (rest.takeWhile Char.isDigit, rest.dropWhile Char.isDigit)
      | rest => ([], rest)
    if whole.isEmpty && places.isEmpty then none
    else
      let number (exponent : Int) : Double :=
        .ofDecimal negative (natOfDigits (whole ++ places)) (exponent - places.length)
      match rest with
      | [] => some (number 0)
      | c :: rest =>
        if c = 'e' || c = 'E' then
          let (down, digits) := match rest with
            | '-' :: rest => (true, rest)
            | '+' :: rest => (false, rest)
            | all => (false, all)
          if digits.isEmpty || !digits.all Char.isDigit then none
          else
            let e : Int := natOfDigits digits
            some (number (if down then -e else e))
        else none

end ScriptScheduler
