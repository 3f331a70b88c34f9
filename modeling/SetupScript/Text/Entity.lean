import SetupScript.Text.EntityNames
import SetupScript.Text.Fields
import SetupScript.Text.Integer
import SetupScript.Text.Search

/-!
# Entities

Markup as plain text: without comments and tags, with its words separated by single blanks, and with the
characters that references stand for.  A reference gives a character by its number or by a name.
-/

namespace SetupScript.Text

/-! ## Names -/

/-- The number that hexadecimal digits stand for. -/
def hexadecimalValue (digits : List Char) : Nat :=
  digits.foldl (fun value digit =>
    16 * value +
      if digit.isDigit then digit.toNat - '0'.toNat else digit.toLower.toNat - 'a'.toNat + 10) 0

/-- The characters of code points in hexadecimal digits, with plus signs between them. -/
def coded (codes : List Char) : List Char :=
  (fields '+' codes).map fun digits => Char.ofNat (hexadecimalValue digits)

/-- The characters behind a name in a row of names and code points. -/
def lookUpEntity? (name : List Char) : List (List Char) → Option (List Char)
  | other :: codes :: rest =>
    if other = name then some (coded codes) else lookUpEntity? name rest
  | _ => none

/-- The characters behind a name in several rows. -/
def findEntity? (name : List Char) (rows : List String) : Option (List Char) :=
  rows.findSome? fun row => lookUpEntity? name (fields ' ' row.toList)

/-- The characters that a name stands for. -/
def namedEntity? (closed : Bool) (name : List Char) : Option (List Char) :=
  (findEntity? name looseEntityRows).or
    (if closed then findEntity? name strictEntityRows else none)

/-- The longest beginning of a name, of at most so many characters but at least two, that stands for
characters, as those with the rest of the name. -/
def namedStart? (name : List Char) : Nat → Option (List Char)
  | 0 | 1 => none
  | length + 2 =>
    match namedEntity? false (name.take (length + 2)) with
    | some characters => some (characters ++ name.drop (length + 2))
    | none => namedStart? name (length + 1)

/-! ## Numbers -/

/-- The characters for the code points from U+0080 to U+009F, which mean others than they say. -/
def replacedControls : List Char :=
  ['€', '\x81', '‚', 'ƒ', '„', '…', '†', '‡', 'ˆ', '‰', 'Š', '‹', 'Œ', '\x8d', 'Ž', '\x8f', '\x90', '‘',
   '’', '“', '”', '•', '–', '—', '˜', '™', 'š', '›', 'œ', '\x9d', 'ž', 'Ÿ']

/-- Whether a code point stands for nothing. -/
def isVoid (code : Nat) : Bool :=
  (1 ≤ code && code ≤ 8) || code == 0x0B || (0x0E ≤ code && code ≤ 0x1F) || code == 0x7F ||
    (0xFDD0 ≤ code && code ≤ 0xFDEF) || 0xFFFE ≤ code % 0x10000

/-- The text that a number stands for. -/
def numberedEntity (code : Nat) : List Char :=
  if code = 0 ∨ (0xD800 ≤ code ∧ code ≤ 0xDFFF) ∨ 0x10FFFF < code then ['\uFFFD']
  else if 0x80 ≤ code ∧ code ≤ 0x9F then (replacedControls[code - 0x80]?).toList
  else if isVoid code then []
  else [Char.ofNat code]

/-! ## References -/

/-- A text without the semicolon in front of it, if there is one, and whether there is. -/
def afterSemicolon (text : List Char) : Bool × List Char :=
  match text with
  | ';' :: rest => (true, rest)
  | _ => (false, text)

/-- Whether a character may stand in a name. -/
def continuesEntity (character : Char) : Bool :=
  !(['\t', '\n', '\x0c', ' ', '<', '&', '#', ';'].contains character)

/-- What a reference behind its ampersand stands for, and the rest of the text. -/
def readReference? (text : List Char) : Option (List Char × List Char) :=
  let numbered (value : List Char → Nat) (class? : Char → Bool) (text : List Char) :
      Option (List Char × List Char) :=
    let digits := text.takeWhile class?
    if digits.isEmpty then none
    else some (numberedEntity (value digits), (afterSemicolon (text.drop digits.length)).2)
  let isHexadecimal (character : Char) : Bool :=
    character.isDigit || ('a' ≤ character.toLower && character.toLower ≤ 'f')
  match text with
  | '#' :: 'x' :: rest | '#' :: 'X' :: rest => numbered hexadecimalValue isHexadecimal rest
  | '#' :: rest => numbered digitsValue Char.isDigit rest
  | _ =>
    let name := (text.takeWhile continuesEntity).take 32
    if name.isEmpty then none
    else
      let (closed, rest) := afterSemicolon (text.drop name.length)
      let written := if closed then name ++ [';'] else name
      match namedEntity? closed name with
      | some characters => some (characters, rest)
      | none =>
        some ((namedStart? written (written.length - 1)).getD ('&' :: written), rest)

/-- A text with its references resolved. -/
def resolveEntities (text : List Char) : List Char :=
  match text with
  | [] => []
  | '&' :: rest =>
    match readReference? rest with
    | some (resolved, after) =>
      if after.length ≤ rest.length then resolved ++ resolveEntities after else []
    | none => '&' :: resolveEntities rest
  | character :: rest => character :: resolveEntities rest
termination_by text.length
decreasing_by all_goals simp only [List.length_cons]; omega

/-! ## Tags -/

/-- A text without the parts between two marks, as long as both are found. -/
def withoutSpans (first last : List Char) : Nat → List Char → List Char
  | 0, text => text
  | fuel + 1, text =>
    match find? first text with
    | none => text
    | some start =>
      match find? last (text.drop start) with
      | none => text
      | some length =>
        withoutSpans first last fuel (text.take start ++ text.drop (start + length + last.length))

/-- A text without comments and tags, its words separated by single blanks. -/
def withoutTags (text : List Char) : List Char :=
  let withoutComments := withoutSpans ['<', '!', '-', '-'] ['-', '-', '>'] text.length text
  let plain := withoutSpans ['<'] ['>'] text.length withoutComments
  List.intercalate [' '] (words plain)

end SetupScript.Text
