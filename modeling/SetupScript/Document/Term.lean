import SetupScript.Document.Quoted
import SetupScript.Text.Json

/-!
# Terms of settings documents

What an expression of a settings document comes to: a value, or a formula that is left to be worked
out by others and is kept as text.  A quoted text is a formula too, as long as it stands inside
another one; as a value of its own it loses its quotes.
-/

namespace SetupScript.Document

/-- What an expression comes to. -/
inductive Term
  | value (datum : Datum)
  | formula (text : List Char)

namespace Term

/-- A formula, given as a string. -/
def ofString (text : String) : Term :=
  .formula text.toList

/-- What a name comes to: three words are values, and any other name is a formula. -/
def ofName (name : String) : Term :=
  match name with
  | "true" => .value (.boolean true)
  | "false" => .value (.boolean false)
  | "null" => .value .none
  | name => ofString name

/-! ## Values -/

/-- The words that stand for themselves though they are no texts. -/
def typeWords : List String :=
  ["bool", "number", "string"]

/-- Whether a text begins and ends with a double quote. -/
def isQuoted (text : List Char) : Bool :=
  text.head? == some '"' && text.getLast? == some '"'

/-- A text without the quotes around it, its escapes decoded. -/
def withoutQuotes (text : List Char) : List Char :=
  if isQuoted text then unescape ((text.drop 1).dropLast) else text

/-- The value that stands for a formula: a quoted text without its quotes, or the formula between
braces behind a dollar sign. -/
def formulaText (text : List Char) : List Char :=
  if isQuoted text then withoutQuotes text
  else if "$\x7b".toList.isPrefixOf text && text.getLast? == some '\x7d' then text
  else if typeWords.contains (String.ofList text) then text
  else "$\x7b".toList ++ text ++ ['\x7d']

/-- The value that stands for a term. -/
def datum : Term → Datum
  | value datum => datum
  | formula text => .text (String.ofList (formulaText text))

/-- The key that a term is, unless it is a value that holds other values.  A formula is kept as it
stands, and a quoted text loses its quotes. -/
def key? : Term → Option Datum.Key
  | value datum => datum.key?
  | formula text => some (.text (String.ofList (withoutQuotes text)))

/-! ## Terms inside formulas -/

/-- A text whose double quotes lose their backslashes behind the first `${`. -/
def withoutInnerEscapes : List Char → List Char
  | '$' :: '\x7b' :: rest => '$' :: '\x7b' :: replacePair '\\' '"' '"' rest
  | character :: rest => character :: withoutInnerEscapes rest
  | [] => []

mutual

/-- A value inside a formula.  The formulas that a mapping holds stand there as they are. -/
def inlineDatum : Datum → String
  | .boolean truth => if truth then "true" else "false"
  | .list items => "[" ++ String.intercalate ", " (inlineItems items) ++ "]"
  | .mapping entries =>
    String.ofList (withoutInnerEscapes (Datum.json (.mapping entries)).toList)
  | .text content => content
  | other => other.nested

/-- The values of a list inside a formula. -/
def inlineItems : List Datum → List String
  | [] => []
  | item :: items => inlineDatum item :: inlineItems items

end

/-- The text of a term as an operand or an argument. -/
def operand : Term → List Char
  | value datum => (inlineDatum datum).toList
  | formula text => text

/-- The text of a term in front of an attribute or an index, inside brackets and in a choice. -/
def plain : Term → List Char
  | value datum => datum.display.toList
  | formula text => text

end Term

end SetupScript.Document
