import SetupScript.Decimal.Rounding
import SetupScript.Template.Value

/-!
# Numbers of templates

The numbers that values are: integers, floating-point numbers and complex ones.  They are compared by
their exact values; an integer becomes a floating-point number only where an operator asks for one, and
only if it is not too large.
-/

namespace SetupScript.Template

/-- A number. -/
inductive Number
  | whole (value : Int)
  | fractional (value : Float)
  | complex (real imaginary : Float)

namespace Number

/-- An integer as a floating-point number. -/
def decimalOf (value : Int) : Result Float :=
  let number := Decimal.ofRatio (value < 0) value.natAbs 1
  if number.isInf then .error .overflow else .ok number

/-- A number that is not complex as a floating-point number. -/
def toDecimal : Number → Result Float
  | whole value => decimalOf value
  | fractional value => .ok value
  | complex .. => .error .wrongType

/-- A finite number as a fraction. -/
def fraction (value : Float) : Int × Nat :=
  let (negative, numerator, denominator) := Decimal.ratio value
  (if negative then -(numerator : Int) else numerator, denominator)

/-- The order of an integer and a floating-point number, if they have one. -/
def orderMixed? (value : Int) (other : Float) : Option Ordering :=
  if other.isNaN then none
  else if other.isInf then some (if other < 0 then .gt else .lt)
  else
    let (numerator, denominator) := fraction other
    some (compare (value * denominator) numerator)

/-- The order of two numbers, if they have one. -/
def order? : Number → Number → Option Ordering
  | whole first, whole second => some (compare first second)
  | fractional first, fractional second =>
    if first < second then some .lt
    else if second < first then some .gt
    else if first == second then some .eq
    else none
  | whole first, fractional second => orderMixed? first second
  | fractional first, whole second => (orderMixed? second first).map Ordering.swap
  | _, _ => none

/-- Whether two numbers are equal. -/
def isEqual : Number → Number → Bool
  | complex first second, complex third fourth => first == third && second == fourth
  | complex real imaginary, other | other, complex real imaginary =>
    imaginary == 0 && (fractional real).order? other == some .eq
  | first, second => first.order? second == some .eq

end Number

/-- The number that a value is; truth values are zero and one. -/
def Form.number? : Form → Option Number
  | .boolean value => some (.whole (if value then 1 else 0))
  | .integer value => some (.whole value)
  | .decimal value => some (.fractional value)
  | .complex real imaginary => some (.complex real imaginary)
  | _ => Option.none

end SetupScript.Template
