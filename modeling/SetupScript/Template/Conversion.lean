import SetupScript.Decimal.Reading
import SetupScript.Template.Number
import SetupScript.Text.Based

/-!
# Conversions

The integer and the floating-point number that a value gives when it is asked for one: a text is read, and
a floating-point number loses its fraction on the way to an integer.
-/

namespace SetupScript.Template.Value

/-- A text as the result of reading it, which must succeed. -/
def readWith {Answer : Type} (read? : List Char → Option Answer) (characters : List Char) :
    Result Answer :=
  match read? characters with
  | some answer => .ok answer
  | Option.none => .error .wrongValue

/-- The characters with the codes of bytes. -/
def byteCharacters (bytes : List UInt8) : List Char :=
  bytes.map fun byte => Char.ofNat byte.toNat

/-- A floating-point number without its fraction. -/
def truncated (number : Float) : Result Int :=
  if number.isNaN then .error .wrongValue
  else if number.isInf then .error .overflow
  else .ok (Decimal.truncate number)

/-- The integer that a number gives. -/
def numberToInteger (value : Value) : Result Int :=
  match value.form with
  | .undefined missing => failMissing missing
  | form =>
    match form.number? with
    | some (.whole number) => .ok number
    | some (.fractional number) => truncated number
    | _ => .error .wrongType

/-- The integer that a value gives. -/
def toInteger (value : Value) : Result Int :=
  match value.form with
  | .text content | .markup content => readWith (Text.integerInBase? 10) content.toList
  | .bytes bytes => readWith (Text.integerInBase? 10) (byteCharacters bytes)
  | _ => value.numberToInteger

/-- The integer that a text stands for in a base. -/
def integerInBase (base : Value) (content : String) : Result Int := do
  let base ← base.form.whole
  if base = 0 ∨ 2 ≤ base ∧ base ≤ 36 then
    readWith (Text.integerInBase? base.toNat) content.toList
  else throw .wrongValue

/-- The floating-point number that a number gives. -/
def numberToDecimal (value : Value) : Result Float :=
  match value.form with
  | .undefined missing => failMissing missing
  | form =>
    match form.number? with
    | some number => number.toDecimal
    | Option.none => .error .wrongType

/-- The floating-point number that a value gives. -/
def toDecimal (value : Value) : Result Float :=
  match value.form with
  | .text content | .markup content => readWith Decimal.read? content.toList
  | .bytes bytes => readWith Decimal.read? (byteCharacters bytes)
  | _ => value.numberToDecimal

end SetupScript.Template.Value
