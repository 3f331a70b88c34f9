import SetupScript.Decimal.Shortest

/-!
# Text of numbers

How a floating-point number is written: with the digits of its shortest decimal, positionally from
one ten-thousandth up to sixteen digits before the point, and with an exponent otherwise.
-/

namespace SetupScript.Decimal

/-- The exponent of a number: a sign and at least two digits. -/
def exponentText (exponent : Int) : String :=
  let digits := toString exponent.natAbs
  (if exponent < 0 then "e-" else "e+") ++ (if digits.length < 2 then "0" else "") ++ digits

/-- The text of digits whose decimal point stands behind `position` of them. -/
def layout (digits : List Char) (position : Int) : String :=
  if -4 < position ∧ position ≤ 0 then
    "0." ++ String.ofList (List.replicate position.natAbs '0' ++ digits)
  else if 0 < position ∧ position ≤ 16 then
    if digits.length ≤ position.toNat then
      String.ofList (digits ++ List.replicate (position.toNat - digits.length) '0') ++ ".0"
    else
      String.ofList (digits.take position.toNat) ++ "." ++
        String.ofList (digits.drop position.toNat)
  else
    String.ofList (digits.take 1) ++
      (if digits.length = 1 then "" else "." ++ String.ofList (digits.drop 1)) ++
      exponentText (position - 1)

/-- Digits without the zeros at their end. -/
def withoutTrailingZeros (digits : List Char) : List Char :=
  (digits.reverse.dropWhile (· == '0')).reverse

/-- The text of a floating-point number. -/
def text (number : Float) : String :=
  if number.isNaN then "nan"
  else
    let sign := if isNegative number then "-" else ""
    if number.isInf then sign ++ "inf"
    else if number == 0 then sign ++ "0.0"
    else
      let decimal := shortest (magnitude number)
      let digits := Nat.toDigits 10 decimal.digits
      sign ++ layout (withoutTrailingZeros digits) (decimal.exponent + digits.length)

/-- The integer that a finite number without a fractional part equals. -/
def integer? (number : Float) : Option Int :=
  if number.isNaN || number.isInf then none
  else
    let value := magnitude number
    let (numerator, denominator) := stepsRatio value.exponent 0
    let scaled := value.mantissa * numerator
    if scaled % denominator = 0 then
      let whole : Int := scaled / denominator
      some (if isNegative number then -whole else whole)
    else none

/-- The number nearest to `digits * 10 ^ exponent`.  Far outside the range of floating-point
numbers the result is infinite or zero, whatever the exponent. -/
def ofScientific (digits : Nat) (exponent : Int) : Float :=
  let position := exponent + digitCount digits
  if digits = 0 ∨ position < -400 then 0
  else if 400 < position then 1 / 0
  else if 0 ≤ exponent then Float.ofScientific digits false exponent.toNat
  else Float.ofScientific digits true exponent.natAbs

end SetupScript.Decimal
