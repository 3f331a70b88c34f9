import SetupScript.Decimal.Rounding

/-!
# Division to the floor

The floor of the quotient of two floating-point numbers, and what is left of the first one.  What is left
has the sign of the divisor, zeros included.
-/

namespace SetupScript.Decimal

/-- The integers in the ratio of two finite numbers. -/
def commonParts (first second : Float) : Int × Int × Nat :=
  let (firstNegative, firstNumerator, firstDenominator) := ratio first
  let (secondNegative, secondNumerator, secondDenominator) := ratio second
  let sign (negative : Bool) (value : Nat) : Int := if negative then -(value : Int) else value
  (sign firstNegative (firstNumerator * secondDenominator),
    sign secondNegative (secondNumerator * firstDenominator), firstDenominator * secondDenominator)

/-- What is left of a division towards zero, with the sign of the first number. -/
def truncatedRemainder (first second : Float) : Float :=
  if first.isNaN || second.isNaN || first.isInf || second == 0 then 0 / 0
  else if second.isInf then first
  else
    let (dividend, divisor, denominator) := commonParts first second
    ofRatio (isNegative first) (Int.tmod dividend divisor).natAbs denominator

/-- A number with the sign of another one. -/
def withSign (number sign : Float) : Float :=
  if isNegative sign then -number.abs else number.abs

/-- What is left of a division to the floor. -/
def floorRemainder (first second : Float) : Float :=
  let left := truncatedRemainder first second
  if left == 0 then withSign 0 second
  else if (second < 0) != (left < 0) then left + second
  else left

/-- The floor of a quotient. -/
def floorQuotient (first second : Float) : Float :=
  let left := truncatedRemainder first second
  let quotient := (first - left) / second
  let quotient := if left != 0 && ((second < 0) != (left < 0)) then quotient - 1 else quotient
  if quotient == 0 then withSign 0 (first / second)
  else
    let whole := quotient.floor
    if quotient - whole > 0.5 then whole + 1 else whole

end SetupScript.Decimal
