import SetupScript.Decimal.Shortest

/-!
# Complex numbers

Arithmetic on pairs of floating-point numbers, a real and an imaginary part.  Small whole powers are
products; others go by the distance from zero and the angle.
-/

namespace SetupScript.Decimal

/-- A complex number. -/
structure Complex where
  real : Float
  imaginary : Float

namespace Complex

/-- A real number. -/
def ofReal (real : Float) : Complex :=
  ⟨real, 0⟩

/-- Whether a number is zero. -/
def isZero (number : Complex) : Bool :=
  number.real == 0 && number.imaginary == 0

/-- Whether a part of a number is infinite. -/
def isInfinite (number : Complex) : Bool :=
  number.real.isInf || number.imaginary.isInf

/-- The sum of two numbers. -/
def add (first second : Complex) : Complex :=
  ⟨first.real + second.real, first.imaginary + second.imaginary⟩

/-- The difference of two numbers. -/
def subtract (first second : Complex) : Complex :=
  ⟨first.real - second.real, first.imaginary - second.imaginary⟩

/-- The product of two numbers. -/
def multiply (first second : Complex) : Complex :=
  ⟨first.real * second.real - first.imaginary * second.imaginary,
    first.real * second.imaginary + first.imaginary * second.real⟩

/-- The quotient of two numbers, unless the second one is zero. -/
def divide? (first second : Complex) : Option Complex :=
  if second.real.abs ≥ second.imaginary.abs then
    if second.real == 0 then none
    else
      let ratio := second.imaginary / second.real
      let divisor := second.real + second.imaginary * ratio
      some ⟨(first.real + first.imaginary * ratio) / divisor,
        (first.imaginary - first.real * ratio) / divisor⟩
  else if second.imaginary.abs ≥ second.real.abs then
    let ratio := second.real / second.imaginary
    let divisor := second.real * ratio + second.imaginary
    some ⟨(first.real * ratio + first.imaginary) / divisor,
      (first.imaginary * ratio - first.real) / divisor⟩
  else some ⟨0 / 0, 0 / 0⟩

/-- The distance from zero. -/
def magnitude (number : Complex) : Float :=
  let large := max number.real.abs number.imaginary.abs
  let small := min number.real.abs number.imaginary.abs
  if number.isInfinite then 1 / 0
  else if large == 0 then 0
  else if small == 0 then large
  else
    let ratio := small / large
    let plain := (large * large + small * small).sqrt
    if plain.isInf || plain == 0 then large * (1 + ratio * ratio).sqrt else plain

/-- A product of equal factors, from the power of two that has been reached on. -/
def powerFrom (result power : Complex) : Nat → Nat → Complex
  | 0, _ => result
  | fuel + 1, times =>
    if times = 0 then result
    else
      powerFrom (if times % 2 = 1 then result.multiply power else result) (power.multiply power) fuel
        (times / 2)

/-- A power with a small whole exponent. -/
def wholePower? (base : Complex) (exponent : Int) : Option Complex :=
  let power := powerFrom (ofReal 1) base 8 exponent.natAbs
  if 0 < exponent then some power else divide? (ofReal 1) power

/-- A power by distance and angle. -/
def polarPower? (base exponent : Complex) : Option Complex :=
  if exponent.isZero then some (ofReal 1)
  else if base.isZero then
    if exponent.imaginary != 0 || exponent.real < 0 then none else some (ofReal 0)
  else
    let distance := base.magnitude
    let angle := Float.atan2 base.imaginary base.real
    let length := distance.pow exponent.real
    let phase := angle * exponent.real
    let (length, phase) :=
      if exponent.imaginary != 0 then
        (length * (-angle * exponent.imaginary).exp, phase + exponent.imaginary * distance.log)
      else (length, phase)
    some ⟨length * phase.cos, length * phase.sin⟩

/-- A power, unless zero is raised to a power that is negative or complex. -/
def power? (base exponent : Complex) : Option Complex :=
  if exponent.imaginary == 0 && exponent.real == exponent.real.floor && exponent.real.abs ≤ 100 then
    wholePower? base exponent.real.toInt64.toInt
  else polarPower? base exponent

end Complex

end SetupScript.Decimal
