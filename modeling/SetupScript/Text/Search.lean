import SetupScript.Character.Letter
import SetupScript.Text.Trim

/-!
# Searching texts

Finding, counting, replacing and cutting at the occurrences of one text in another.  Occurrences are
taken from left to right and do not overlap.
-/

namespace SetupScript.Text

open SetupScript.Character

/-! ## Occurrences -/

/-- The place of the first occurrence. -/
def find? (pattern : List Char) : List Char → Option Nat
  | [] => if pattern.isEmpty then some 0 else none
  | character :: rest =>
    if pattern.isPrefixOf (character :: rest) then some 0
    else (find? pattern rest).map (· + 1)

/-- Whether a text occurs in another. -/
def occursIn (pattern text : List Char) : Bool :=
  (find? pattern text).isSome

/-- Whether a text begins with another. -/
def beginsWith (pattern text : List Char) : Bool :=
  pattern.isPrefixOf text

/-- Whether a text ends with another. -/
def endsWith (pattern text : List Char) : Bool :=
  pattern.isSuffixOf text

/-- The parts of a text between the first `limit` occurrences of a separator that is not empty;
`skip` characters of an occurrence are still to pass. -/
def cutFrom (separator : List Char) (limit skip : Nat) : List Char → List (List Char)
  | [] => [[]]
  | character :: rest =>
    if 0 < skip then cutFrom separator limit (skip - 1) rest
    else if 0 < limit ∧ separator.isPrefixOf (character :: rest) then
      [] :: cutFrom separator (limit - 1) (separator.length - 1) rest
    else
      match cutFrom separator limit 0 rest with
      | [] => [[character]]
      | part :: parts => (character :: part) :: parts

/-- The parts of a text between the occurrences of a separator that is not empty; at most `limit`
occurrences count, if there is a limit. -/
def cut (separator text : List Char) (limit? : Option Nat) : List (List Char) :=
  cutFrom separator (limit?.getD text.length) 0 text

/-- The parts between the last `limit` occurrences of a separator. -/
def cutFromEnd (separator text : List Char) (limit? : Option Nat) : List (List Char) :=
  ((cut separator.reverse text.reverse limit?).map List.reverse).reverse

/-- How often a text occurs. -/
def countOf (pattern text : List Char) : Nat :=
  if pattern.isEmpty then text.length + 1 else (cut pattern text none).length - 1

/-- A text with another put between its characters and at its ends, at most `limit` times. -/
def interleave (new : List Char) (limit : Nat) : List Char → List Char
  | [] => if 0 < limit then new else []
  | character :: rest =>
    if 0 < limit then new ++ character :: interleave new (limit - 1) rest
    else character :: rest

/-- A text with the occurrences of an old text replaced by a new one, at most `limit` of them. -/
def replace (old new text : List Char) (limit? : Option Nat) : List Char :=
  if old.isEmpty then interleave new (limit?.getD (text.length + 1)) text
  else List.intercalate new (cut old text limit?)

/-! ## Words and lines -/

/-- The words of a text: its longest parts without blanks. -/
def words (text : List Char) : List (List Char) :=
  go [] text
where
  /-- The words of what is left, the one under way in reverse. -/
  go (word : List Char) : List Char → List (List Char)
    | [] => if word.isEmpty then [] else [word.reverse]
    | character :: rest =>
      if isBlank character then
        if word.isEmpty then go [] rest else word.reverse :: go [] rest
      else go (character :: word) rest

/-- The first `limit` words and what follows them, trimmed at its start. -/
def wordsUpTo : Nat → List Char → List (List Char)
  | 0, text =>
    let rest := text.dropWhile isBlank
    if rest.isEmpty then [] else [rest]
  | limit + 1, text =>
    let rest := text.dropWhile isBlank
    if rest.isEmpty then []
    else
      (rest.takeWhile fun character => !isBlank character) ::
        wordsUpTo limit (rest.dropWhile fun character => !isBlank character)

/-- The last `limit` words and what stands in front of them. -/
def wordsFromEnd (limit : Nat) (text : List Char) : List (List Char) :=
  ((wordsUpTo limit text.reverse).map List.reverse).reverse

/-- The longest parts of a text that consist of letters, digits and underscores. -/
def wordCount (text : List Char) : Nat :=
  go false text
where
  /-- The words of what is left; `inside` says whether one has begun. -/
  go (inside : Bool) : List Char → Nat
    | [] => 0
    | character :: rest =>
      let isPart := isAlphanumeric character || character == '_'
      (if isPart && !inside then 1 else 0) + go isPart rest

/-- The characters that end a line. -/
def isLineBreak (character : Char) : Bool :=
  let codePoint := character.toNat
  (0x0A ≤ codePoint && codePoint ≤ 0x0D) || (0x1C ≤ codePoint && codePoint ≤ 0x1E) ||
    codePoint == 0x85 || codePoint == 0x2028 || codePoint == 0x2029

/-- The lines of a text, with their ends if these are kept.  A carriage return and a line feed are
one end; a text that ends with a line end has no empty line behind it. -/
def lines (keepEnds : Bool) (text : List Char) : List (List Char) :=
  go [] text
where
  /-- The lines of what is left, the one under way in reverse. -/
  go (line : List Char) : List Char → List (List Char)
    | [] => if line.isEmpty then [] else [line.reverse]
    | '\r' :: '\n' :: rest =>
      (line.reverse ++ if keepEnds then ['\r', '\n'] else []) :: go [] rest
    | character :: rest =>
      if isLineBreak character then
        (line.reverse ++ if keepEnds then [character] else []) :: go [] rest
      else go (character :: line) rest

end SetupScript.Text
