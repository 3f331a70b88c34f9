import SetupScript.Decimal.Complex
import SetupScript.Decimal.Division
import SetupScript.Template.Conversion
import SetupScript.Template.Literal

/-!
# Magnitudes and rounding

The magnitude of a number, and numbers rounded to decimal places or to integers next to them.
-/

namespace SetupScript.Template.Value

/-! ## Magnitudes -/

/-- The magnitude of a number. -/
def magnitude (value : Value) : Result Value :=
  match value.form.number? with
  | some (.whole number) => .ok (.integer number.natAbs)
  | some (.fractional number) => .ok (.decimal number.abs)
  | some (.complex real imaginary) =>
    let distance := (⟨real, imaginary⟩ : Decimal.Complex).magnitude
    if distance.isInf && Literal.isFinite real && Literal.isFinite imaginary then .error .overflow
    else .ok (.decimal distance)
  | Option.none => .error .wrongType

/-! ## Rounding -/

/-- An integer rounded to a multiple of a power of ten, a half going to the even one. -/
def roundInteger (number places : Int) : Int :=
  let digits := (-places).toNat
  if 0 ≤ places then number
  else if Decimal.digitCount number.natAbs < digits then 0
  else
    let unit := Decimal.tenTo digits
    let steps := Decimal.roundQuotient number.natAbs unit * unit
    if number < 0 then -(steps : Int) else steps

/-- A floating-point number rounded to so many decimal places. -/
def roundDecimal (number : Float) (places : Int) : Result Value :=
  if !Literal.isFinite number || 323 < places then .ok (.decimal number)
  else if places < -308 then .ok (.decimal (Decimal.withSign 0 number))
  else
    let rounded := Decimal.roundTo places number
    if rounded.isInf then .error .overflow else .ok (.decimal rounded)

/-- A number rounded to the nearest one with so many decimal places, or to the nearest integer. -/
def roundCommon (value places : Value) : Result Value :=
  match value.form.number?, places.form with
  | some (.whole number), .none => .ok (.integer number)
  | some (.whole number), form => do return .integer (roundInteger number (← form.whole))
  | some (.fractional number), .none => do
    discard (truncated number)
    return .integer (Decimal.roundToWhole number)
  | some (.fractional number), form => do roundDecimal number (← form.whole)
  | _, _ => .error .wrongType

/-- The integer next to a number, above it or below it. -/
def nextInteger (above : Bool) (value : Value) : Result Value :=
  match value.form.number? with
  | some (.whole number) => .ok (.integer number)
  | some (.fractional number) => do
    discard (truncated number)
    return .integer (if above then -Decimal.floor (-number) else Decimal.floor number)
  | _ => .error .wrongType

end SetupScript.Template.Value
