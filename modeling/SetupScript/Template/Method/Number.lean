import SetupScript.Decimal.Rounding
import SetupScript.Template.Given
import SetupScript.Template.Iteration
import SetupScript.Text.Encoding

/-!
# Methods of numbers

What the methods of numbers answer: their parts, fractions and digits, and integers as bytes.
-/

namespace SetupScript.Template.NumberMethod

/-! ## Parts and fractions -/

/-- How many binary digits of a number are set. -/
def bitCount (value : Nat) : Nat :=
  (Nat.toDigits 2 value).count '1'

/-- A fraction in lowest terms. -/
def ratioOf (numerator : Int) (denominator : Nat) : Value :=
  let divisor := Nat.gcd numerator.natAbs denominator
  .tuple [.integer (numerator / divisor), .integer (denominator / divisor)]

/-- The hexadecimal form of a floating-point number: its digits and a power of two. -/
def hexadecimal (value : Float) : String :=
  let bits := value.toBits.toNat
  let sign := if Decimal.isNegative value then "-" else ""
  let exponent := bits / 0x10000000000000 % 0x800
  let digits := String.ofList (Text.hexadecimal 13 (bits % 0x10000000000000))
  if value.isNaN then "nan"
  else if value.isInf then sign ++ "inf"
  else if value == 0 then sign ++ "0x0.0p+0"
  else
    let power : Int := if exponent = 0 then -1022 else exponent - 1023
    sign ++ "0x" ++ (if exponent = 0 then "0" else "1") ++ "." ++ digits ++ "p" ++
      (if 0 ≤ power then "+" else "-") ++ toString power.natAbs

/-! ## Bytes -/

/-- The order of bytes that a value names. -/
def orderOf (value : Value) : Result Text.ByteOrder := do
  match ← value.content with
  | "little" => return .little
  | "big" => return .big
  | _ => throw .wrongValue

/-- Two arguments in order or by name, and whether there is a sign, which is said by name only. -/
def splitSigned (given : Given) (first : Parameter) : Result (Value × Value × Value) := do
  let signed := (given.named.lookup "signed").getD (.boolean false)
  let (value, order) ← { given with named := given.named.filter (·.1 != "signed") }.two first
    (optional "byteorder" (.text "big"))
  return (value, order, signed)

/-- An integer as bytes. -/
def toBytes (value : Int) (given : Given) : Work Value := do
  let (length, order, signed) ← splitSigned given (optional "length" (.integer 1))
  let length ← length.form.count
  let order ← orderOf order
  let signed ← signed.truth
  if length < 0 then throw .wrongValue
  else
    checkRoom length.toNat
    let size := length.toNat
    let bound : Int := Decimal.twoTo (8 * size)
    let fits : Bool :=
      if signed then -bound ≤ 2 * value && 2 * value < bound else 0 ≤ value && value < bound
    if fits then
      let bytes := Text.Encoding.bytesOf (if value < 0 then value + bound else value).toNat size
      return Form.bytes (Text.Encoding.ordered order bytes)
    else throw .overflow

/-- The bytes that the items of a value are. -/
def bytesOf (engine : Engine) (value : Value) : Work (List UInt8) := do
  match value.form with
  | .bytes bytes => return bytes
  | .text _ | .markup _ => throw .wrongType
  | _ =>
    (← value.items engine).mapM fun item => do
      let byte ← item.form.whole
      if 0 ≤ byte ∧ byte < 0x100 then return byte.toNat.toUInt8 else throw .wrongValue

/-- The integer of bytes. -/
def fromBytes (engine : Engine) (given : Given) : Work Value := do
  let (bytes, order, signed) ← splitSigned given (required "bytes")
  let order ← orderOf order
  let bytes ← bytesOf engine bytes
  let value : Int := Text.Encoding.valueOf order bytes
  let bound : Int := Decimal.twoTo (8 * bytes.length)
  return .integer (if (← signed.truth) && bound ≤ 2 * value then value - bound else value)

/-! ## All methods -/

/-- What a method of a number answers that takes no arguments. -/
def answer (number : Number) (name : String) : Result Value := do
  match number, name with
  | .whole value, "bit_length" => return .integer (if value = 0 then 0 else value.natAbs.log2 + 1)
  | .whole value, "bit_count" => return .integer (bitCount value.natAbs)
  | .whole value, "conjugate" => return .integer value
  | .whole value, "as_integer_ratio" => return ratioOf value 1
  | .fractional value, "is_integer" => return .boolean (Decimal.integer? value).isSome
  | .fractional value, "conjugate" => return .decimal value
  | .fractional value, "hex" => return .text (hexadecimal value)
  | .fractional value, "as_integer_ratio" =>
    if value.isNaN then throw .wrongValue
    else if value.isInf then throw .overflow
    else
      let (numerator, denominator) := Number.fraction value
      return ratioOf numerator denominator
  | .complex real imaginary, "conjugate" => return Form.complex real (-imaginary)
  | _, _ => throw .missingAttribute

/-- What a method of a number answers. -/
def call (engine : Engine) (number : Number) (name : String) (given : Given) : Work Value := do
  match number, name with
  | _, "from_bytes" => fromBytes engine given
  | .whole value, "to_bytes" => toBytes value given
  | _, _ =>
    given.nothing
    answer number name

end SetupScript.Template.NumberMethod
