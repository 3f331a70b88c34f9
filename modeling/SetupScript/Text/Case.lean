import SetupScript.Character.Case
import SetupScript.Character.Cased
import SetupScript.Character.Fold
import SetupScript.Text.Trim

/-!
# Letter case

Texts in upper case, in lower case and with capital initials.  A letter may have more than one
letter as its counterpart, and the Greek capital sigma has another one at the end of a word.
-/

namespace SetupScript.Text

open SetupScript.Character

/-! ## Forms of characters in a text -/

/-- Whether the first character that counts has a case. -/
def meetsCased (text : List Char) : Bool :=
  (text.dropWhile isIgnorable).head?.any isCased

/-- The lower-case form of a character between what stands in front of it, the last character first,
and what follows it. -/
def lowerBetween (before after : List Char) (character : Char) : List Char :=
  if character = 'Σ' then if meetsCased before && !meetsCased after then ['ς'] else ['σ']
  else Character.lower character

/-- The forms of the characters of a text, each chosen by what stands in front of it, the last
character first, and by what follows it. -/
def mapBetween (form : List Char → List Char → Char → List Char) (before : List Char) :
    List Char → List Char
  | [] => []
  | character :: rest =>
    form before rest character ++ mapBetween form (character :: before) rest

/-! ## Texts -/

/-- A text in upper case. -/
def upper (text : List Char) : List Char :=
  text.flatMap Character.upper

/-- A text in lower case. -/
def lower (text : List Char) : List Char :=
  mapBetween lowerBetween [] text

/-- A text without differences of case. -/
def fold (text : List Char) : List Char :=
  text.flatMap Character.fold

/-- A text with its first letter as a capital and all else in lower case. -/
def capitalize (text : List Char) : List Char :=
  mapBetween (fun before after character =>
    if before.isEmpty then Character.title character else lowerBetween before after character) [] text

/-- A text in which every letter that follows no other letter is a capital. -/
def title (text : List Char) : List Char :=
  mapBetween (fun before after character =>
    if before.head?.any isCased then lowerBetween before after character
    else Character.title character) [] text

/-- A text with the case of every letter exchanged. -/
def swapCase (text : List Char) : List Char :=
  mapBetween (fun before after character =>
    if isUpper character then lowerBetween before after character
    else if isLower character then Character.upper character
    else [character]) [] text

/-! ## Tests -/

/-- Whether a text has letters with a case and all of them are in upper case. -/
def isUpperCase (text : List Char) : Bool :=
  text.any isUpper && !text.any fun character => isLower character || isTitle character

/-- Whether a text has letters with a case and all of them are in lower case. -/
def isLowerCase (text : List Char) : Bool :=
  text.any isLower && !text.any fun character => isUpper character || isTitle character

/-- Whether capitals stand where words begin, and nowhere else; `inside` says whether a letter stands
in front. -/
def hasCapitals (inside : Bool) : List Char → Bool
  | [] => true
  | character :: rest =>
    if isUpper character || isTitle character then !inside && hasCapitals true rest
    else if isLower character then inside && hasCapitals true rest
    else hasCapitals false rest

/-- Whether a text has letters with a case and all its words begin with capitals. -/
def isTitled (text : List Char) : Bool :=
  text.any isCased && hasCapitals false text

/-! ## Headings -/

/-- Whether a character separates the words of a heading. -/
def separatesWords (character : Char) : Bool :=
  isBlank character || ['-', '(', '\x7b', '[', '<'].contains character

/-- A word with its first character in upper case and the others in lower case. -/
def headingWord : List Char → List Char
  | [] => []
  | first :: rest => Character.upper first ++ lower rest

/-- The words of a text as those of a heading; `word` is the one under way, in reverse. -/
def headingFrom (word : List Char) : List Char → List Char
  | [] => headingWord word.reverse
  | character :: rest =>
    if separatesWords character then
      headingWord word.reverse ++ character :: headingFrom [] rest
    else headingFrom (character :: word) rest

/-- A text in which the first character of every word is in upper case and all others in lower
case. -/
def heading (text : List Char) : List Char :=
  headingFrom [] text

end SetupScript.Text
