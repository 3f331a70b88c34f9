import SetupScript.Datum

/-!
# JSON texts

The JSON text of plain values, in which every character beyond ASCII is written as an escape.
-/

namespace SetupScript

namespace Text

/-- An escape of four hexadecimal digits. -/
def jsonEscape (code : Nat) : List Char :=
  '\\' :: 'u' :: hexadecimal 4 code

/-- A character inside a JSON text. -/
def jsonCharacter (character : Char) : List Char :=
  match character with
  | '"' => ['\\', '"']
  | '\\' => ['\\', '\\']
  | '\n' => ['\\', 'n']
  | '\r' => ['\\', 'r']
  | '\t' => ['\\', 't']
  | '\x08' => ['\\', 'b']
  | '\x0c' => ['\\', 'f']
  | _ =>
    let code := character.toNat
    if 0x20 ≤ code ∧ code ≤ 0x7E then [character]
    else if code < 0x10000 then jsonEscape code
    else
      jsonEscape (0xD800 + (code - 0x10000) / 0x400) ++
        jsonEscape (0xDC00 + (code - 0x10000) % 0x400)

/-- A text in quotes. -/
def jsonQuoted (text : String) : String :=
  String.ofList ('"' :: text.toList.flatMap jsonCharacter ++ ['"'])

/-- A floating-point number in JSON, which has words for the numbers without digits. -/
def jsonDecimal (number : Float) : String :=
  if number.isNaN then "NaN"
  else if number.isInf then (if number < 0 then "-Infinity" else "Infinity")
  else Decimal.text number

end Text

namespace Datum

/-- The text of a key as a JSON text. -/
def Key.json : Key → String
  | none => Text.jsonQuoted "null"
  | boolean value => Text.jsonQuoted (if value then "true" else "false")
  | text value => Text.jsonQuoted value
  | integer value => Text.jsonQuoted (toString value)
  | decimal value => Text.jsonQuoted (Text.jsonDecimal value)

mutual

/-- The JSON text of a value. -/
def json : Datum → String
  | .none => "null"
  | .boolean value => if value then "true" else "false"
  | .integer value => toString value
  | .decimal value => Text.jsonDecimal value
  | .text value => Text.jsonQuoted value
  | .list items => "[" ++ String.intercalate ", " (jsonItems items) ++ "]"
  | .mapping entries => "\x7b" ++ String.intercalate ", " (jsonEntries entries) ++ "\x7d"

/-- The JSON texts of the items of a list. -/
def jsonItems : List Datum → List String
  | [] => []
  | item :: items => item.json :: jsonItems items

/-- The JSON texts of the entries of a mapping. -/
def jsonEntries : List (Key × Datum) → List String
  | [] => []
  | (key, value) :: entries => (key.json ++ ": " ++ value.json) :: jsonEntries entries

end

end Datum

end SetupScript
