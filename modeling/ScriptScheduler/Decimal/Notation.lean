import ScriptScheduler.Decimal.Shortest

/-!
# How doubles are written

Three texts of a double occur: in JSON, in a value's display text and in its inspection text. They
share the shortest digits and differ in the choices that a `Notation` records.
-/

namespace ScriptScheduler

/-- The choices that fix the text of a double. -/
structure Decimal.Notation where
  /-- Whether a decimal with its point at this place is written without an exponent. -/
  positional : Int → Bool
  /-- Written after a whole number. -/
  wholeEnd : String
  /-- Whether a positive exponent has a sign. -/
  exponentPlus : Bool
  tie : Tie

namespace Decimal.Notation

/-- JSON text: `1.0`, `0.00001`, `1e-6`, `1e+16`. -/
def json : Decimal.Notation where
  positional k := -5 < k && k ≤ 16
  wholeEnd := ".0"
  exponentPlus := true
  tie := .even

/-- Display text: `1`, `0.000001`, never an exponent. -/
def display : Decimal.Notation where
  positional _ := true
  wholeEnd := ""
  exponentPlus := false
  tie := .up

/-- Inspection text: `1.0`, `0.0001`, `1e-5`, `1e16`. -/
def inspect : Decimal.Notation where
  positional k := -4 < k && k ≤ 16
  wholeEnd := ".0"
  exponentPlus := false
  tie := .up

end Decimal.Notation

namespace Decimal

/-- `count` zeros. -/
def zeros (count : Nat) : List Char := List.replicate count '0'

/-- The text without an exponent. -/
def positionalText (format : Decimal.Notation) (d : Decimal) : String :=
  let size := d.digits.length
  if d.point ≤ 0 then
    "0." ++ String.ofList (zeros (-d.point).toNat ++ d.digits)
  else if (size : Int) ≤ d.point then
    String.ofList (d.digits ++ zeros (d.point.toNat - size)) ++ format.wholeEnd
  else
    String.ofList (d.digits.take d.point.toNat) ++ "." ++
      String.ofList (d.digits.drop d.point.toNat)

/-- The text with one digit before the point and an exponent. -/
def exponentText (format : Decimal.Notation) (d : Decimal) : String :=
  let e := d.point - 1
  let sign := if e < 0 then "-" else if format.exponentPlus then "+" else ""
  let rest := d.digits.drop 1
  String.ofList (d.digits.take 1) ++ (if rest.isEmpty then "" else "." ++ String.ofList rest) ++
    "e" ++ sign ++ toString e.natAbs

/-- The text of a decimal. -/
def text (format : Decimal.Notation) (d : Decimal) : String :=
  if format.positional d.point then positionalText format d else exponentText format d

end Decimal

/-- The text of a double. -/
def Double.text (format : Decimal.Notation) (x : Double) : String :=
  if x.isNaN then "NaN"
  else
    (if x.isNegative then "-" else "") ++
      (if !x.isFinite then "inf"
       else if x.isZero then "0" ++ format.wholeEnd
       else Decimal.text format (Decimal.shortest format.tie x))

end ScriptScheduler
