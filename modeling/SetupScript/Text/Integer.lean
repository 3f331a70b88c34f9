import SetupScript.Text.Fields
import SetupScript.Text.Trim

/-!
# Integers in texts

Reading an integer from a text that people write: white space around it, a sign, underscores that
each stand between two digits, and a tail of a point and zeros are allowed.
-/

namespace SetupScript.Text

open SetupScript.Character

/-- White space proper: the blanks without the information separators. -/
def isWhiteSpace (character : Char) : Bool :=
  isBlank character && !(0x1C ≤ character.toNat && character.toNat ≤ 0x1F)

/-- The number that decimal digits stand for. -/
def digitsValue (digits : List Char) : Nat :=
  digits.foldl (fun value digit => 10 * value + (digit.toNat - '0'.toNat)) 0

/-- A sign and what it stands in front of. -/
def splitSign : List Char → Bool × List Char
  | '-' :: rest => (true, rest)
  | '+' :: rest => (false, rest)
  | rest => (false, rest)

/-- Whether a text is empty, or a point and at least one zero. -/
def isZeroTail : List Char → Bool
  | [] => true
  | '.' :: zeros => !zeros.isEmpty && zeros.all (· == '0')
  | _ => false

/-- The digits of a run of groups that single underscores separate. -/
def groupedDigits? (text : List Char) : Option (List Char) :=
  let groups := fields '_' text
  if groups.all fun group => !group.isEmpty && group.all Char.isDigit then some groups.flatten
  else none

/-- The sign and the digits of an integer that a text stands for. -/
def integer? (text : List Char) : Option (Bool × List Char) :=
  let (negative, unsigned) := splitSign (trimBy isWhiteSpace text)
  let whole := unsigned.takeWhile (· != '.')
  if isZeroTail (unsigned.dropWhile (· != '.')) then
    (groupedDigits? whole).map fun digits => (negative, digits)
  else none

/-- The integer with a sign and digits. -/
def signedValue (negative : Bool) (digits : List Char) : Int :=
  if negative then -(digitsValue digits : Int) else digitsValue digits

end SetupScript.Text
