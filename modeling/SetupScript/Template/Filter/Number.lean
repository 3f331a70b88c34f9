import SetupScript.Template.Arithmetic
import SetupScript.Template.Given
import SetupScript.Template.Rounding

/-!
# Filters of numbers

What the filters make of numbers: their magnitude, integers and floating-point numbers out of them, and
rounded ones.
-/

namespace SetupScript.Template.NumberFilter

/-! ## Conversions -/

/-- What to do about a failure to convert a value. -/
def orFallback (failures : List Failure) (result : Result Value) (fallback : Unit → Result Value) :
    Result Value :=
  match result with
  | .ok value => .ok value
  | .error failure => if failures.contains failure then fallback () else .error failure

/-- The floating-point number of a value, or a fallback. -/
def toDecimal (value fallback : Value) : Result Value :=
  orFallback [.wrongType, .wrongValue] (value.toDecimal.map Value.decimal) fun _ => .ok fallback

/-- The integer of a value, or a fallback. -/
def toInteger (value fallback base : Value) : Result Value :=
  let direct : Result Int :=
    match value.form.text? with
    | some content => Value.integerInBase base content
    | none => value.toInteger
  orFallback [.wrongType, .wrongValue] (direct.map Value.integer) fun _ =>
    orFallback [.wrongType, .wrongValue, .overflow]
      (do return .integer (← Value.truncated (← value.toDecimal))) fun _ => .ok fallback

/-! ## Rounding -/

/-- A number rounded: to the nearest one, or always up, or always down. -/
def round (value : Value) (given : Given) : Work Value := do
  let (places, direction) ←
    given.two (optional "precision" (.integer 0)) (optional "method" (.text "common"))
  direction.checkKey
  match direction.form.text? with
  | some "common" => value.roundCommon places
  | some "ceil" | some "floor" =>
    let scale ← Value.operate .power (.integer 10) places
    let scaled ← Value.operate .multiply value scale
    let whole ← scaled.nextInteger (direction.form.text? == some "ceil")
    Value.operate .divide whole (← Value.operate .power (.integer 10) places)
  | _ => throw .unusable

/-! ## Sizes -/

/-- The units of sizes, each so many times the one in front of it. -/
def sizeUnits (binary : Bool) : List String :=
  if binary then ["KiB", "MiB", "GiB", "TiB", "PiB", "EiB", "ZiB", "YiB"]
  else ["kB", "MB", "GB", "TB", "PB", "EB", "ZB", "YB"]

/-- A size in the first unit that suits it; the units begin behind one of so many bytes. -/
def sizeText (base unit : Nat) (size : Float) : List String → Result String
  | [] => .ok ""
  | name :: names =>
    let next := unit * base
    if (Number.fractional size).order? (.whole next) == some .lt || names.isEmpty then do
      let scaled := (← Number.decimalOf base) * size / (← Number.decimalOf next)
      return Decimal.fixed 1 scaled ++ " " ++ name
    else sizeText base next size names

/-- A number of bytes as people write it. -/
def fileSize (value : Value) (given : Given) : Work Value := do
  let binary ← (← given.one (optional "binary" (.boolean false))).truth
  let size ← value.toDecimal
  let base : Nat := if binary then 1024 else 1000
  if size == 1 then return .text "1 Byte"
  else if (Number.fractional size).order? (.whole base) == some .lt then
    return .text ((← integerText (← Value.truncated size)) ++ " Bytes")
  else return .text (← sizeText base base size (sizeUnits binary))

end SetupScript.Template.NumberFilter
