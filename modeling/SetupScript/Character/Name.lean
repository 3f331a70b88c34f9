import SetupScript.Character.Name.Alias
import SetupScript.Character.Name.Asian
import SetupScript.Character.Name.Eastern
import SetupScript.Character.Name.Indic
import SetupScript.Character.Name.Latin
import SetupScript.Character.Name.Pattern
import SetupScript.Character.Name.Phonetic
import SetupScript.Character.Name.Pictograph
import SetupScript.Character.Name.Presentation
import SetupScript.Character.Name.Semitic
import SetupScript.Character.Name.Symbol
import SetupScript.Character.Range
import SetupScript.Character.Row

/-!
# Names of characters

Finding a character by its name.  Most names stand in tables, whatever the case of their letters; those
of unified ideographs and of Hangul syllables follow rules, and are written in capital letters.
-/

namespace SetupScript.Character

/-! ## Names in tables -/

/-- The code point of the character with a name in a group of names. -/
def codeInGroup? (name group : List Char) : Option Nat :=
  let (head, endings) := splitFirst ':' group
  let (code, start) := splitFirst ' ' head
  let start := if start.isEmpty then [] else start ++ [' ']
  if start.isPrefixOf name then do
    let place ← (Text.fields ',' endings).findIdx? (· == name.drop start.length)
    return (← capitalValue? code) + place
  else none

/-- The code point of the character with a further name in a group of them. -/
def codeOfAlias? (name group : List Char) : Option Nat :=
  let (code, names) := splitFirst ':' group
  if (Text.fields ',' names).contains name then capitalValue? code else none

/-- What the groups in rows give first. -/
def findInRows? (find? : List Char → Option Nat) (rows : List String) : Option Nat :=
  (entriesOfRows rows).findSome? find?

/-- The tables of names. -/
def nameTables : List (List String) :=
  [latinNames, semiticNames, indicNames, asianNames, phoneticNames, symbolNames, patternNames,
    easternNames, presentationNames, pictographNames]

/-! ## Ideographs -/

/-- The unified ideographs. -/
def ideographRanges : Ranges :=
  [(0x3400, 0x4DBF), (0x4E00, 0x9FFF), (0x20000, 0x2A6DF), (0x2A700, 0x2B738), (0x2B740, 0x2B81D),
   (0x2B820, 0x2CEA1), (0x2CEB0, 0x2EBE0), (0x30000, 0x3134A)]

/-- What follows a start of a text, if it stands there. -/
def afterStart? (start : String) (text : List Char) : Option (List Char) :=
  if start.toList.isPrefixOf text then some (text.drop start.length) else none

/-- The code point of an ideograph, which is part of its name. -/
def ideograph? (name : List Char) : Option Nat := do
  let digits ← afterStart? "CJK UNIFIED IDEOGRAPH-" name
  let code ← if digits.length = 4 ∨ digits.length = 5 then capitalValue? digits else none
  if ideographRanges.contains code then some code else none

/-! ## Syllables -/

/-- The romanised consonants that begin a syllable, in their order. -/
def syllableStarts : List String :=
  ["G", "GG", "N", "D", "DD", "R", "M", "B", "BB", "S", "SS", "", "J", "JJ", "C", "K", "T", "P", "H"]

/-- The romanised vowels of syllables. -/
def syllableVowels : List String :=
  ["A", "AE", "YA", "YAE", "EO", "E", "YEO", "YE", "O", "WA", "WAE", "OE", "YO", "U", "WEO", "WE",
    "WI", "YU", "EU", "YI", "I"]

/-- The romanised consonants that end a syllable. -/
def syllableEnds : List String :=
  ["", "G", "GG", "GS", "N", "NJ", "NH", "D", "L", "LG", "LM", "LB", "LS", "LT", "LP", "LH", "M", "B",
    "BS", "S", "SS", "NG", "J", "C", "K", "T", "P", "H"]

/-- The place of the longest of several texts that a text begins with, and the rest. -/
def longestStart? (starts : List String) (text : List Char) : Option (Nat × List Char) := do
  let fitting := starts.filter fun start => start.toList.isPrefixOf text
  let longest := fitting.foldl (fun length start => max length start.length) 0
  let start ← fitting.find? fun start => start.length == longest
  return (← starts.findIdx? (· == start), text.drop longest)

/-- The code point of a Hangul syllable, whose name is made of its letters. -/
def syllable? (name : List Char) : Option Nat := do
  let (start, rest) ← longestStart? syllableStarts (← afterStart? "HANGUL SYLLABLE " name)
  let (vowel, rest) ← longestStart? syllableVowels rest
  let (ending, rest) ← longestStart? syllableEnds rest
  if rest.isEmpty then some (0xAC00 + (start * 21 + vowel) * 28 + ending) else none

/-! ## All names -/

/-- The character with a name. -/
def named? (name : List Char) : Option Char :=
  let capital := name.map Char.toUpper
  let inTables := nameTables.findSome? (findInRows? (codeInGroup? capital))
  let code? := ((ideograph? name).or (syllable? name)).or
    (inTables.or (findInRows? (codeOfAlias? capital) aliasNames))
  code?.map Char.ofNat

end SetupScript.Character
