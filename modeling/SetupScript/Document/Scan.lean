import SetupScript.Datum
import SetupScript.Text.Integer

/-!
# Characters of settings documents

The smallest parts of a settings document: blanks, which mean nothing; line ends, for which a comment
may stand; names; and numbers, whose digits may have blanks between them.
-/

namespace SetupScript.Document

/-- What is read from the front of a text, and the rest. -/
abbrev Reader (Result : Type) := List Char → Option (Result × List Char)

/-! ## Gaps -/

/-- Whether a character means nothing between others. -/
def isGap (character : Char) : Bool :=
  character == ' ' || character == '\t'

/-- The text behind its leading blanks. -/
def skipGap (text : List Char) : List Char :=
  text.dropWhile isGap

/-- What stands behind the end of a comment that may run over several lines. -/
def afterBlockComment? : List Char → Option (List Char)
  | '*' :: '/' :: rest => some rest
  | _ :: rest => afterBlockComment? rest
  | [] => none

/-- What stands behind the line end that a text begins with, if it begins with one. -/
def afterLineEnd? : List Char → Option (List Char)
  | '\n' :: rest => some rest
  | '#' :: rest => (rest.dropWhile (· != '\n')).tail?
  | '/' :: '/' :: rest => (rest.dropWhile (· != '\n')).tail?
  | '/' :: '*' :: rest => afterBlockComment? rest
  | _ => none

/-- The text behind its leading blanks and line ends. -/
def skipLineEnds (text : List Char) : List Char :=
  match afterLineEnd? (skipGap text) with
  | some rest => if rest.length < text.length then skipLineEnds rest else skipGap text
  | none => skipGap text
termination_by text.length

/-- Whether a text begins with a line end, in front of which blanks may stand. -/
def breaksLine (text : List Char) : Bool :=
  (afterLineEnd? (skipGap text)).isSome

/-! ## Symbols and names -/

/-- What stands behind a symbol, in front of which blanks may stand. -/
def afterSymbol? (symbol : String) (text : List Char) : Option (List Char) :=
  let text := skipGap text
  if symbol.toList.isPrefixOf text then some (text.drop symbol.length) else none

/-- What stands behind an equals sign that is no part of another symbol. -/
def afterEquals? (text : List Char) : Option (List Char) :=
  match skipGap text with
  | '=' :: rest => if rest.head? = some '=' ∨ rest.head? = some '>' then none else some rest
  | _ => none

/-- The characters that open a name. -/
def opensName (character : Char) : Bool :=
  character.isAlpha || character == '_'

/-- The characters that continue a name. -/
def continuesName (character : Char) : Bool :=
  character.isAlphanum || character == '_' || character == '-'

/-- A name. -/
def readName? : Reader String := fun text =>
  match skipGap text with
  | first :: rest =>
    if opensName first then
      some (String.ofList (first :: rest.takeWhile continuesName), rest.dropWhile continuesName)
    else none
  | [] => none

/-! ## Numbers -/

/-- Digits, between which blanks may stand, and the rest. -/
def readDigits : List Char → List Char × List Char
  | [] => ([], [])
  | character :: rest =>
    if character.isDigit then
      let (digits, after) := readDigits rest
      (character :: digits, after)
    else if isGap character then
      match readDigits rest with
      | ([], _) => ([], character :: rest)
      | read => read
    else ([], character :: rest)

/-- The exponent at the front of a text, if there is one, and the rest. -/
def readExponent (text : List Char) : Option Int × List Char :=
  match skipGap text with
  | mark :: rest =>
    let (negative, unsigned) := Text.splitSign rest
    let digits := unsigned.takeWhile Char.isDigit
    if (mark = 'e' ∨ mark = 'E') ∧ !digits.isEmpty then
      (some (Text.signedValue negative digits), unsigned.dropWhile Char.isDigit)
    else (none, text)
  | [] => (none, text)

/-- Integers of more digits are not read. -/
def digitLimit : Nat := 4300

/-- The fraction at the front of a text, if a point stands there that opens no other symbol, and the
rest.  Behind such a point there must be digits. -/
def readFraction? (text : List Char) : Option (List Char × List Char) :=
  match skipGap text with
  | '.' :: '*' :: _ | '.' :: '.' :: '.' :: _ => some ([], text)
  | '.' :: rest =>
    let (digits, after) := readDigits rest
    if digits.isEmpty then none else some (digits, after)
  | _ => some ([], text)

/-- Whether a number stands at the front of a text: a digit, perhaps right behind a hyphen. -/
def atNumber : List Char → Bool
  | '-' :: digit :: _ => digit.isDigit
  | digit :: _ => digit.isDigit
  | [] => false

/-- A number: an integer, unless a fraction or an exponent follows the digits. -/
def readNumber? : Reader Datum := fun text => do
  let (negative, unsigned) := Text.splitSign text
  let (whole, rest) := readDigits unsigned
  let (fraction, rest) ← readFraction? rest
  match readExponent rest, fraction with
  | (none, rest), [] =>
    if digitLimit < whole.length then none
    else some (.integer (Text.signedValue negative whole), rest)
  | (exponent, rest), fraction =>
    let exponent := exponent.getD 0 - fraction.length
    let value := Decimal.ofScientific (Text.digitsValue (whole ++ fraction)) exponent
    some (.decimal (if negative then -value else value), rest)

end SetupScript.Document
