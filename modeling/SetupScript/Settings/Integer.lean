import SetupScript.Text.Integer

/-!
# Integers in settings

An integer may be written as a text: white space around it, a plus sign, leading zeros, underscores
between digits, and a tail of a point and zeros are passed over.  What is left must be the digits of
an integer, perhaps behind a minus sign.  A text that begins with too many digits is refused as too
long before anything is passed over.
-/

namespace SetupScript.Settings

/-! ## Passing over what does not count -/

/-- A text without the plus sign in front of it, behind which no minus sign may follow. -/
def withoutPlus? : List Char → Option (List Char)
  | '+' :: '-' :: _ => none
  | '+' :: rest => some rest
  | text => some text

/-- The rest behind leading zeros, among which underscores may stand.  The last character before a
point, or of a text that has nothing else, is kept. -/
def behindZeros? (last : Char) : List Char → Option (List Char)
  | [] => some [last]
  | character :: rest =>
    if character = '0' ∨ character = '_' then behindZeros? character rest
    else if character.isDigit ∨ character = '-' then some (character :: rest)
    else if character = '.' then some (last :: character :: rest)
    else none

/-- A text without leading zeros, which must begin with a digit or a minus sign. -/
def withoutZeros? : List Char → Option (List Char)
  | [] => none
  | first :: rest =>
    if first = '0' then behindZeros? first rest
    else if first.isDigit ∨ first = '-' then some (first :: rest)
    else none

/-- A text without a tail of a point and at least one zero. -/
def withoutFraction (text : List Char) : List Char :=
  match text.dropWhile (· != '.') with
  | _ :: zeros =>
    if !zeros.isEmpty && zeros.all (· == '0') then text.takeWhile (· != '.') else text
  | [] => text

/-- A text without its underscores, provided that each of them stands alone between two other
characters. -/
def withoutUnderscores (text : List Char) : List Char :=
  if (Text.fields '_' text).all fun field => !field.isEmpty then text.filter (· != '_') else text

/-- What counts of a text that may stand for an integer: whether a minus sign is in front, and the
rest. -/
def significant? (text : List Char) : Option (Bool × List Char) := do
  match ← withoutPlus? (Text.trimBy Text.isWhiteSpace text) with
  | '-' :: unsigned => return (true, withoutUnderscores (withoutFraction (← withoutZeros? unsigned)))
  | unsigned =>
    match withoutUnderscores (withoutFraction (← withoutZeros? unsigned)) with
    | '-' :: digits => return (true, digits)
    | digits => return (false, digits)

/-! ## Reading -/

/-- Why a text gives no integer. -/
inductive IntegerFault
  | unreadable
  | oversized
deriving DecidableEq

/-- Integers of more digits are not read. -/
def digitLimit : Nat := 4300

/-- Whether a text begins with more digits than an integer may have, the first of which is no zero. -/
def isOversized (text : List Char) : Bool :=
  let digits := (Text.splitSign text).2.takeWhile Char.isDigit
  text.head? != some '+' && digits.head? != some '0' && digitLimit < digits.length

/-- The natural number of digits, of which the first is a zero only if it is the only one. -/
def naturalOf? (digits : List Char) : Option Nat :=
  if digits.isEmpty || !digits.all Char.isDigit || digitLimit < digits.length then none
  else if digits.head? = some '0' ∧ digits ≠ ['0'] then none
  else some (Text.digitsValue digits)

/-- The integer that a text stands for. -/
def integerOf (text : List Char) : Except IntegerFault Int :=
  if isOversized text then .error .oversized
  else
    match significant? text with
    | none => .error .unreadable
    | some (negative, digits) =>
      match naturalOf? digits with
      | none => .error .unreadable
      | some value => .ok (if negative then -value else value)

end SetupScript.Settings
