import SetupScript.Decimal.Rounding

/-!
# Notations of numbers

The text of a floating-point number with a fixed count of digits: behind the point, behind the first digit
in front of an exponent, or all together with or without an exponent, whichever suits the magnitude.
-/

namespace SetupScript.Decimal

/-- The first digits of a finite number, `places` of them behind the first one, and the exponent of the
first one. -/
def leadingDigits (places : Nat) (number : Float) : Nat × Int :=
  let value := magnitude number
  if value.mantissa = 0 then (0, 0)
  else
    let exponent := pointPosition value - 1
    let (numerator, denominator) := stepsRatio value.exponent (exponent - places)
    let digits := roundQuotient (value.mantissa * numerator) denominator
    if digits < tenTo (places + 1) then (digits, exponent) else (digits / 10, exponent + 1)

/-- The sign of a number and its text if it has no digits. -/
def signed (number : Float) (digits : Unit → String) : String :=
  if number.isNaN then "nan"
  else
    let sign := if isNegative number then "-" else ""
    sign ++ if number.isInf then "inf" else digits ()

/-- Digits with a point behind the first one, which is left out if nothing follows, unless it is to be
kept. -/
def pointed (keepPoint : Bool) (digits : List Char) : String :=
  String.ofList <|
    match digits with
    | [digit] => if keepPoint then [digit, '.'] else [digit]
    | digit :: rest => digit :: '.' :: rest
    | [] => []

/-- The digits of a number, at least so many. -/
def paddedDigits (count number : Nat) : List Char :=
  let digits := Nat.toDigits 10 number
  List.replicate (count - digits.length) '0' ++ digits

/-- The text of a number with an exponent and a fixed count of decimal places. -/
def exponential (keepPoint : Bool) (places : Nat) (number : Float) : String :=
  signed number fun _ =>
    let (digits, exponent) := leadingDigits places number
    pointed keepPoint (paddedDigits (places + 1) digits) ++ exponentText exponent

/-- A text of digits without the zeros at the end of its fraction. -/
def withoutIdleZeros (text : String) : String :=
  if text.contains '.' then
    String.ofList ((withoutTrailingZeros text.toList).reverse.dropWhile (· == '.')).reverse
  else text

/-- The text of a number with a count of significant digits.  An exponent is written from a magnitude on
that is given as a count of digits.  Zeros at the end of the fraction are kept if this is asked for. -/
def general (keepZeros : Bool) (digits : Nat) (largest : Int) (number : Float) : String :=
  signed number fun _ =>
    let count := max digits 1
    let (leading, exponent) := leadingDigits (count - 1) number
    if -4 ≤ exponent ∧ exponent < largest then
      let text := fixed ((count : Int) - 1 - exponent).toNat number.abs
      if keepZeros then (if text.contains '.' then text else text ++ ".") else withoutIdleZeros text
    else
      let text := pointed keepZeros (paddedDigits count leading)
      (if keepZeros then text else withoutIdleZeros text) ++ exponentText exponent

end SetupScript.Decimal
