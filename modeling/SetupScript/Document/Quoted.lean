import SetupScript.Document.Scan
import SetupScript.Text.Fields

/-!
# Texts in settings documents

A text is written between double quotes, or between a tag behind `<<` and the next occurrence of that
tag.  Escapes are decoded only where the text is used as a value.
-/

namespace SetupScript.Document

/-! ## Escapes -/

/-- Replace every occurrence of a pair of characters by one character. -/
def replacePair (first second replacement : Char) : List Char → List Char
  | [] => []
  | [character] => [character]
  | left :: right :: rest =>
    if left = first ∧ right = second then replacement :: replacePair first second replacement rest
    else left :: replacePair first second replacement (right :: rest)

/-- The text that escapes stand for.  One kind of escape is replaced after the other, the doubled
backslash last. -/
def unescape (text : List Char) : List Char :=
  replacePair '\\' '\\' '\\' <| replacePair '\\' '"' '"' <| replacePair '\\' 't' '\t' <|
    replacePair '\\' 'r' '\r' <| replacePair '\\' 'n' '\n' text

/-! ## Quotes -/

/-- What a quoted text without insertions holds behind its opening quote, escapes untouched.  A
backslash keeps the character behind it, which is not the end of a line. -/
def readLiteral? : Reader (List Char)
  | [] => none
  | '"' :: rest => some ([], rest)
  | '\\' :: code :: rest =>
    if code = '\n' then none
    else (readLiteral? rest).map fun read => ('\\' :: code :: read.1, read.2)
  | character :: rest =>
    if character = '\\' ∨ (character = '$' ∧ rest.head? = some '\x7b') then none
    else (readLiteral? rest).map fun read => (character :: read.1, read.2)

/-- The plain characters of a quoted text up to its end or the next insertion. -/
def readPlain : List Char → List Char × List Char
  | [] => ([], [])
  | '\\' :: code :: rest =>
    if code = '\n' then ([], '\\' :: code :: rest)
    else
      let (plain, after) := readPlain rest
      ('\\' :: code :: plain, after)
  | character :: rest =>
    if character = '"' ∨ character = '\\' ∨ (character = '$' ∧ rest.head? = some '\x7b') then
      ([], character :: rest)
    else
      let (plain, after) := readPlain rest
      (character :: plain, after)

/-! ## Tags -/

/-- The characters that may follow the first one of a tag. -/
def isTagCharacter (character : Char) : Bool :=
  character.isAlphanum || character == '.' || character == '_' || character == '-'

/-- The text in front of the first occurrence of a tag, and what follows it. -/
def beforeTag? (tag : List Char) : Reader (List Char)
  | [] => none
  | character :: rest =>
    if tag.isPrefixOf (character :: rest) then some ([], (character :: rest).drop tag.length)
    else (beforeTag? tag rest).map fun found => (character :: found.1, found.2)

/-- The lines of a text without the spaces that all of them start with. -/
def dedent (text : List Char) : List Char :=
  let lines := Text.fields '\n' text
  let indents := lines.map fun line => (line.takeWhile (· == ' ')).length
  let common := indents.foldl Nat.min (indents.headD 0)
  List.intercalate ['\n'] (lines.map (List.drop common))

/-- A tagged text behind its opening `<<`.  It loses the line ends and blanks at its end; with a
hyphen in front of the tag also the common indentation. -/
def readTagged? : Reader (List Char) := fun text =>
  let indented := text.head? == some '-'
  let text := if indented then text.drop 1 else text
  let tag := text.takeWhile isTagCharacter
  if tag.head?.any Char.isAlpha && 2 ≤ tag.length then
    match text.dropWhile isTagCharacter with
    | '\n' :: body =>
      (beforeTag? tag body).map fun (held, rest) =>
        let held := Text.trimEndBy (fun character => character == '\n' || isGap character) held
        (if indented then dedent held else held, rest)
    | _ => none
  else none

end SetupScript.Document
