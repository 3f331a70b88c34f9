import SetupScript.Decimal.Text

/-!
# Rounding

Fractions as floating-point numbers, and floating-point numbers rounded to decimal places.  A value
halfway between two neighbours goes to the even one.
-/

namespace SetupScript.Decimal

/-- The quotient rounded to the nearest whole number, a half going to the even one. -/
def roundQuotient (numerator denominator : Nat) : Nat :=
  let quotient := numerator / denominator
  let twice := 2 * (numerator % denominator)
  if twice < denominator then quotient
  else if denominator < twice then quotient + 1
  else if quotient % 2 = 0 then quotient
  else quotient + 1

/-- The least positive number is a half to this power. -/
def leastExponent : Nat := 1074

/-- The floating-point number nearest to a positive fraction, to be divided by two `shift` times.
Sixty binary digits and a mark for what is left of the fraction decide the rounding. -/
def ofShifted (numerator denominator : Nat) (shift : Int) : Float :=
  let scaled := numerator * twoTo shift.toNat
  let divisor := denominator * twoTo (-shift).toNat
  let quotient := scaled / divisor
  let marked := if scaled % divisor = 0 then quotient else 2 * (quotient / 2) + 1
  (Float.ofNat marked).scaleB (-shift)

/-- The floating-point number nearest to a fraction.  A fraction that has no full count of binary digits
is a multiple of the least positive number. -/
def ofRatio (negative : Bool) (numerator denominator : Nat) : Float :=
  if numerator = 0 ∨ denominator = 0 then 0
  else
    let shift : Int := (denominator.log2 : Int) - (numerator.log2 : Int) + 62
    let steps := if leastExponent < shift then
        roundQuotient (numerator * twoTo leastExponent) denominator
      else twoTo 54
    let value := if steps < twoTo 53 then (Float.ofNat steps).scaleB (-leastExponent)
      else ofShifted numerator denominator shift
    if negative then -value else value

/-- A finite number as a fraction: its sign, numerator and denominator. -/
def ratio (number : Float) : Bool × Nat × Nat :=
  let value := magnitude number
  let (numerator, denominator) := stepsRatio value.exponent 0
  (isNegative number, value.mantissa * numerator, denominator)

/-- The nearest multiple of `10 ^ -places`, in steps of that size. -/
def roundedSteps (places : Int) (number : Float) : Bool × Nat :=
  let (negative, numerator, denominator) := ratio number
  (negative, roundQuotient (numerator * tenTo places.toNat) (denominator * tenTo (-places).toNat))

/-- A finite number rounded to decimal places, which may be negative. -/
def roundTo (places : Int) (number : Float) : Float :=
  let (negative, steps) := roundedSteps places number
  let value := ofScientific steps (-places)
  if negative then -value else value

/-- A finite number rounded to a whole one. -/
def roundToWhole (number : Float) : Int :=
  let (negative, steps) := roundedSteps 0 number
  if negative then -(steps : Int) else steps

/-- The greatest whole number that is not greater than a finite number. -/
def floor (number : Float) : Int :=
  let (negative, numerator, denominator) := ratio number
  Int.fdiv (if negative then -(numerator : Int) else numerator) denominator

/-- A finite number without its fractional part. -/
def truncate (number : Float) : Int :=
  let (negative, numerator, denominator) := ratio number
  let whole : Int := numerator / denominator
  if negative then -whole else whole

/-- The text of a number with a fixed count of decimal places. -/
def fixed (places : Nat) (number : Float) : String :=
  if number.isNaN then "nan"
  else
    let sign := if isNegative number then "-" else ""
    if number.isInf then sign ++ "inf"
    else
      let digits := Nat.toDigits 10 (roundedSteps places number).2
      let padded := List.replicate (places + 1 - digits.length) '0' ++ digits
      let whole := String.ofList (padded.take (padded.length - places))
      sign ++ if places = 0 then whole
        else whole ++ "." ++ String.ofList (padded.drop (padded.length - places))

end SetupScript.Decimal
