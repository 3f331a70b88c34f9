/-!
# Shortest decimals

The decimal that stands for a binary floating-point number: of all decimals that round to it one
with the fewest digits, and of those the nearest, an exact tie going to the even last digit.  All
comparisons are made on natural numbers.
-/

namespace SetupScript.Decimal

/-! ## Binary and decimal numbers -/

/-- A power of two. -/
def twoTo (exponent : Nat) : Nat :=
  Nat.pow 2 exponent

/-- A power of ten. -/
def tenTo (exponent : Nat) : Nat :=
  Nat.pow 10 exponent

/-- The number `mantissa * 2 ^ exponent`. -/
structure Dyadic where
  mantissa : Nat
  exponent : Int
deriving DecidableEq

/-- The number `digits * 10 ^ exponent`. -/
structure Scientific where
  digits : Nat
  exponent : Int
deriving DecidableEq

/-- Whether the sign of a number is set. -/
def isNegative (number : Float) : Bool :=
  number.toBits.toNat / twoTo 63 == 1

/-- The absolute value of a finite number. -/
def magnitude (number : Float) : Dyadic :=
  let bits := number.toBits.toNat
  let fraction : Nat := bits % twoTo 52
  let biased : Nat := bits / twoTo 52 % twoTo 11
  if biased = 0 then ⟨fraction, -1074⟩ else ⟨twoTo 52 + fraction, (biased : Int) - 1075⟩

/-! ## Grids -/

/-- The factor by which `n * 2 ^ binary` is multiplied to count steps of `10 ^ decimal`, as a
numerator and a denominator. -/
def stepsRatio (binary decimal : Int) : Nat × Nat :=
  (twoTo binary.toNat * tenTo (-decimal).toNat, twoTo (-binary).toNat * tenTo decimal.toNat)

/-- How many decimal digits a number has. -/
def digitCount (number : Nat) : Nat :=
  (Nat.toDigits 10 number).length

/-- The exponent `k` with `10 ^ (k - 1) ≤ value < 10 ^ k`, for a value that is not zero. -/
def pointPosition (value : Dyadic) : Int :=
  let (numerator, denominator) := stepsRatio value.exponent 0
  let scaled := value.mantissa * numerator
  if denominator ≤ scaled then digitCount (scaled / denominator)
  else 1 - (digitCount ((denominator - 1) / scaled) : Int)

/-! ## The numbers that round to a value -/

/-- The interval of the reals that round to a value, in quarters of its unit, and whether its ends
belong to it.  Below a power of two the numbers lie twice as close. -/
structure Rounding where
  low : Nat
  high : Nat
  closed : Bool

/-- The interval of a value. -/
def Rounding.of (value : Dyadic) : Rounding where
  low :=
    if value.mantissa = twoTo 52 ∧ -1074 < value.exponent then 4 * value.mantissa - 1
    else 4 * value.mantissa - 2
  high := 4 * value.mantissa + 2
  closed := value.mantissa % 2 == 0

/-- Whether a decimal rounds to the value. -/
def readsBack (value : Dyadic) (decimal : Scientific) : Bool :=
  let rounding := Rounding.of value
  let (numerator, denominator) := stepsRatio (value.exponent - 2) decimal.exponent
  let point := decimal.digits * denominator
  if rounding.closed then rounding.low * numerator ≤ point && point ≤ rounding.high * numerator
  else rounding.low * numerator < point && point < rounding.high * numerator

/-- The neighbours of a value on the grid `10 ^ exponent` that round to it, the nearer one if both
do. -/
def neighbour? (value : Dyadic) (exponent : Int) : Option Scientific :=
  let (numerator, denominator) := stepsRatio value.exponent exponent
  let scaled := value.mantissa * numerator
  let below := scaled / denominator
  let remainder := scaled % denominator
  let down : Scientific := ⟨below, exponent⟩
  let up : Scientific := ⟨below + 1, exponent⟩
  match readsBack value down, readsBack value up with
  | true, true =>
    if 2 * remainder < denominator then some down
    else if 2 * remainder = denominator then some (if below % 2 = 0 then down else up)
    else some up
  | true, false => some down
  | false, true => some up
  | false, false => none

/-- The shortest decimal of a value that is not zero.  Seventeen digits always suffice. -/
def shortest (value : Dyadic) : Scientific :=
  let position := pointPosition value
  let candidates := (List.range 17).map fun (digits : Nat) => position - (digits : Int) - 1
  (candidates.findSome? (neighbour? value)).getD ⟨0, 0⟩

end SetupScript.Decimal
