import SetupScript.Character.Digit
import SetupScript.Character.Letter
import SetupScript.Text.Trim

/-!
# Wrapping

A line of text as several lines of a limited width.  A line may end at blanks, behind a hyphen between
letters, and around a dash of several hyphens; a word that is too long for a line of its own is cut.
-/

namespace SetupScript.Text.Wrap

open SetupScript.Character

/-! ## Characters -/

/-- The characters between words. -/
def isGap (character : Char) : Bool :=
  [' ', '\t', '\n', '\x0b', '\x0c', '\r'].contains character

/-- The characters of words. -/
def isWordPart (character : Char) : Bool :=
  isAlphanumeric character || character == '_'

/-- The characters of words that are no digits. -/
def isWordLetter (character : Char) : Bool :=
  isWordPart character && !isDecimal character

/-- The characters in front of a dash. -/
def opensDash (character : Char) : Bool :=
  isWordPart character || ['!', '"', '\'', '&', '.', ',', '?'].contains character

/-! ## Pieces -/

/-- Whether a dash that is followed by a word stands at the front of a text. -/
def atDash (text : List Char) : Bool :=
  2 ≤ (text.takeWhile (· == '-')).length && ((text.dropWhile (· == '-')).head?).any isWordPart

/-- Whether a hyphen between letters stands at the front of a text; `before` is what stands in front of it,
in reverse. -/
def atHyphen (before text : List Char) : Bool :=
  match text with
  | '-' :: rest =>
    let inFront :=
      match before with
      | last :: previous :: more =>
        isWordLetter last &&
          (isWordLetter previous || (previous == '-' && more.head?.any isWordLetter))
      | _ => false
    let behind :=
      match rest with
      | first :: '-' :: second :: _ => isWordLetter first && isWordLetter second
      | first :: second :: _ => isWordLetter first && isWordLetter second
      | _ => false
    inFront && behind
  | _ => false

/-- Where a piece ends: not yet, in front of a character, or behind it. -/
inductive PieceEnd
  | none
  | inFront
  | behind

/-- Whether a piece, in reverse, ends at the front of a text; `before` is all that stands in front of the
text, in reverse. -/
def pieceEnd (piece before text : List Char) : PieceEnd :=
  match piece, text with
  | last :: _, character :: _ =>
    let isDash := 2 ≤ piece.length && piece.all (· == '-') &&
      (before.drop piece.length).head?.any opensDash
    if isGap character != isGap last then .inFront
    else if isGap character then .none
    else if isDash && isWordPart character then .inFront
    else if atHyphen before text then .behind
    else if opensDash last && atDash text then .inFront
    else .none
  | _, _ => .none

/-- The pieces of a text that stay together; `piece` is the one under way, in reverse, and `before` all that
stands in front, in reverse. -/
def pieces (piece before : List Char) : List Char → List (List Char)
  | [] => if piece.isEmpty then [] else [piece.reverse]
  | character :: rest =>
    match pieceEnd piece before (character :: rest) with
    | .none => pieces (character :: piece) (character :: before) rest
    | .inFront => piece.reverse :: pieces [character] (character :: before) rest
    | .behind => (character :: piece).reverse :: pieces [] (character :: before) rest

/-- The words of a text and the gaps between them. -/
def wordsAndGaps (word : List Char) : List Char → List (List Char)
  | [] => if word.isEmpty then [] else [word.reverse]
  | character :: rest =>
    match word with
    | last :: _ =>
      if isGap character = isGap last then wordsAndGaps (character :: word) rest
      else word.reverse :: wordsAndGaps [character] rest
    | [] => wordsAndGaps [character] rest

/-! ## Lines -/

/-- How lines are filled. -/
structure Rule where
  width : Nat
  breaksLongWords : Bool := true
  breaksAtHyphens : Bool := true

/-- The pieces that fit into what is left of a line, and the others. -/
def takeFitting (room : Nat) : List (List Char) → List (List Char) × List (List Char)
  | [] => ([], [])
  | piece :: pieces =>
    if piece.length ≤ room then
      let (fitting, rest) := takeFitting (room - piece.length) pieces
      (piece :: fitting, rest)
    else ([], piece :: pieces)

/-- Where a long word is cut for what is left of a line. -/
def cutPlace (rule : Rule) (room : Nat) (word : List Char) : Nat :=
  let front := word.take room
  let behindHyphen := (front.reverse.dropWhile (· != '-')).length
  if rule.breaksAtHyphens && 1 < behindHyphen && (front.take (behindHyphen - 1)).any (· != '-') then
    behindHyphen
  else room

/-- The lines of pieces; `isFirst` tells whether there is a line in front of them. -/
def fill (rule : Rule) (isFirst : Bool) : Nat → List (List Char) → List (List Char)
  | 0, _ | _, [] => []
  | fuel + 1, piece :: pieces =>
    let pieces := if piece.all isBlank && !isFirst then pieces else piece :: pieces
    let (line, rest) := takeFitting rule.width pieces
    let room := rule.width - line.flatten.length
    let (line, rest) :=
      match rest with
      | word :: others =>
        if word.length ≤ rule.width then (line, rest)
        else if rule.breaksLongWords then
          let place := cutPlace rule room word
          (line ++ [word.take place], word.drop place :: others)
        else if line.isEmpty then ([word], others)
        else (line, rest)
      | [] => (line, [])
    let line :=
      match line.getLast? with
      | some last => if last.all isBlank then line.dropLast else line
      | none => line
    if line.isEmpty then fill rule isFirst fuel rest
    else line.flatten :: fill rule false fuel rest

/-- A text in lines. -/
def lines (rule : Rule) (text : List Char) : List (List Char) :=
  let pieces := if rule.breaksAtHyphens then pieces [] [] text else wordsAndGaps [] text
  fill rule true (2 * text.length + 2) pieces

end SetupScript.Text.Wrap
