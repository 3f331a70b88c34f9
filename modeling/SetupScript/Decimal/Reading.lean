import SetupScript.Character.Digit
import SetupScript.Decimal.Text
import SetupScript.Text.Integer

/-!
# Numbers in texts

Reading a floating-point number from a text that people write: white space around it, a sign,
underscores that each stand between two digits, a point and an exponent are allowed, as are the words for
the numbers that have no digits.  The digits may be those of any script.
-/

namespace SetupScript.Decimal

/-- The letters of a text in lower case. -/
def lowered (text : List Char) : String :=
  String.ofList (text.map Char.toLower)

/-- The digits of a part of a number, which may be missing. -/
def partDigits? (text : List Char) : Option (List Char) :=
  if text.isEmpty then some [] else Text.groupedDigits? text

/-- The exponent of a number. -/
def exponent? (text : List Char) : Option Int :=
  let (negative, digits) := Text.splitSign text
  (Text.groupedDigits? digits).map (Text.signedValue negative)

/-- The number without a sign that a text stands for. -/
def readUnsigned? (text : List Char) : Option Float :=
  let word := lowered text
  if word = "inf" ∨ word = "infinity" then some (1 / 0)
  else if word = "nan" then some (0 / 0)
  else do
    let isExponentMark (character : Char) : Bool := character == 'e' || character == 'E'
    let mantissa := text.takeWhile fun character => !isExponentMark character
    let marked := text.dropWhile fun character => !isExponentMark character
    let exponent ← if marked.isEmpty then some 0 else exponent? (marked.drop 1)
    let whole ← partDigits? (mantissa.takeWhile (· != '.'))
    let fraction ← partDigits? ((mantissa.dropWhile (· != '.')).drop 1)
    if whole.isEmpty && fraction.isEmpty then none
    else some (ofScientific (Text.digitsValue (whole ++ fraction)) (exponent - fraction.length))

/-- A decimal digit of any script as one of the common ones. -/
def commonDigit (character : Char) : Char :=
  match Character.decimal? character with
  | some value => Char.ofNat ('0'.toNat + value)
  | none => character

/-- The number that a text stands for. -/
def read? (text : List Char) : Option Float :=
  let (negative, unsigned) :=
    Text.splitSign ((Text.trimBy Text.isWhiteSpace text).map commonDigit)
  (readUnsigned? unsigned).map fun value => if negative then -value else value

end SetupScript.Decimal
