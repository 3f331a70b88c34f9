import SetupScript.Character.Printable

/-!
# Quoted text

The form in which a text is shown inside a message or a nested value: between single quotes, or
between double quotes when the text holds a single quote and no double one; with a backslash
before the quote and the backslash; and with line feed, carriage return, tab and every
unprintable character written as an escape.
-/

namespace SetupScript.Text

open SetupScript.Character

/-- The lower-case hexadecimal digits of a number, filled up with zeros to a width. -/
def hexadecimal (width number : Nat) : List Char :=
  let digits := Nat.toDigits 16 number
  List.replicate (width - digits.length) '0' ++ digits

/-- The escape that names a character by its code point, in the shortest of three forms. -/
def codePointEscape (character : Char) : List Char :=
  let codePoint := character.toNat
  if codePoint < 0x100 then '\\' :: 'x' :: hexadecimal 2 codePoint
  else if codePoint < 0x10000 then '\\' :: 'u' :: hexadecimal 4 codePoint
  else '\\' :: 'U' :: hexadecimal 8 codePoint

/-- One character of a quoted text. -/
def quotedCharacter (quote character : Char) : List Char :=
  if character = quote ∨ character = '\\' then ['\\', character]
  else if character = '\n' then ['\\', 'n']
  else if character = '\r' then ['\\', 'r']
  else if character = '\t' then ['\\', 't']
  else if isPrintable character then [character]
  else codePointEscape character

/-- The quote that surrounds a text: the double one only where it saves escapes. -/
def surroundingQuote (text : List Char) : Char :=
  if text.contains '\'' && !text.contains '"' then '"' else '\''

/-- The quoted form of a text. -/
def quoted (text : List Char) : List Char :=
  let quote := surroundingQuote text
  quote :: text.flatMap (quotedCharacter quote) ++ [quote]

/-- A text in which every character beyond ASCII is written as an escape. -/
def asciiOnly (text : String) : String :=
  String.ofList <| text.toList.flatMap fun character =>
    if character.toNat < 0x80 then [character] else codePointEscape character

/-- The quoted form of a string. -/
def quotedString (text : String) : String :=
  String.ofList (quoted text.toList)

end SetupScript.Text
