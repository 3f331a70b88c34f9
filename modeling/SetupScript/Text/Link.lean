import SetupScript.Text.Fields
import SetupScript.Text.Search
import SetupScript.Text.Wrap

/-!
# Links

Addresses of pages and of people in a text of markup, made into links.  Brackets around an address and
punctuation behind it stay outside, unless brackets inside the address would be left open.
-/

namespace SetupScript.Text.Link

open SetupScript.Character Wrap

/-! ## Addresses -/

/-- The rest of a text behind a beginning, in which the case of letters does not matter. -/
def after? (start : String) (text : List Char) : Option (List Char) :=
  if (text.take start.length).map Char.toLower = start.toList then some (text.drop start.length)
  else none

/-- The characters of the labels of a host. -/
def isLabelPart (character : Char) : Bool :=
  isWordPart character || character == '%' || character == '-'

/-- Whether a label ends the name of a host: letters, or an encoded name. -/
def isLastLabel (label : List Char) : Bool :=
  let length := label.length
  (2 ≤ length && length ≤ 63 && label.all Char.isAlpha) ||
    match after? "xn--" label with
    | some rest =>
      2 ≤ rest.length && rest.length ≤ 59 &&
        rest.all fun character => isWordPart character || character == '%'
    | none => false

/-- The labels that end the name of a host even without anything in front of the name. -/
def commonLabels : List String :=
  ["com", "net", "int", "edu", "gov", "org", "info", "mil"]

/-- Whether labels are the name of a host that is marked as one. -/
def isHost (labels : List (List Char)) : Bool :=
  match labels.reverse with
  | last :: others =>
    isLastLabel last && others.all fun label => !label.isEmpty && label.all isLabelPart
  | [] => false

/-- Whether labels are the name of a host that can be told without a mark. -/
def isCommonHost (labels : List (List Char)) : Bool :=
  match labels.reverse with
  | last :: first :: others =>
    commonLabels.contains (String.ofList (last.map Char.toLower)) &&
      (first :: others).all fun label =>
        2 ≤ label.length && label.length ≤ 63 && label.all isLabelPart
  | _ => false

/-- Whether labels are four numbers. -/
def isNumbers (labels : List (List Char)) : Bool :=
  labels.length == 4 && labels.all fun label =>
    !label.isEmpty && label.length ≤ 3 && label.all isDecimal

/-- Whether a text in square brackets is made of hexadecimal groups. -/
def isGroups (text : List Char) : Bool :=
  let isHexadecimal (character : Char) : Bool :=
    isDecimal character || ('a' ≤ character.toLower && character.toLower ≤ 'f')
  match text with
  | '[' :: rest =>
    match rest.reverse with
    | ']' :: inner =>
      let groups := fields ':' inner.reverse
      let later := groups.drop 2
      let later := if later.getLast? = some [] then later.dropLast else later
      2 < groups.length && groups.all (fun group => group.all isHexadecimal) &&
        (groups.take 2).all (fun group => group.length ≤ 4) &&
        (later.map fun group => max 1 ((group.length + 3) / 4)).foldr (· + ·) 0 ≤ 6
    | _ => false
  | _ => false

/-- A text without a port at its end. -/
def withoutPort (text : List Char) : List Char :=
  let digits := text.reverse.takeWhile isDecimal
  match text.reverse.drop digits.length with
  | ':' :: rest => if 1 ≤ digits.length ∧ digits.length ≤ 5 then rest.reverse else text
  | _ => text

/-- Whether a text is the address of a page. -/
def isPage (text : List Char) : Bool :=
  let host (rest : List Char) : List Char :=
    withoutPort (rest.takeWhile fun character => !(['/', '?', '#'].contains character))
  let named (rest : List Char) : Bool := isHost (fields '.' (host rest))
  match (after? "https://" text).or (after? "http://" text) with
  | some rest => named rest || isNumbers (fields '.' (host rest)) || isGroups (host rest)
  | none => (after? "www." text).any named || isCommonHost (fields '.' (host text))

/-- Whether a text is the address of a person. -/
def isPerson (text : List Char) : Bool :=
  let domain := (text.reverse.takeWhile (· != '@')).reverse
  let last := (domain.reverse.takeWhile (· != '.')).reverse
  let front := domain.take (domain.length - last.length)
  domain.length + 1 < text.length && front.getLast? == some '.' && front.head?.any isWordPart &&
    2 ≤ front.length && !last.isEmpty && last.all isWordPart &&
    front.all fun character => isWordPart character || character == '.' || character == '-'

/-! ## Words -/

/-- The closing brackets and other marks that end a word. -/
def tailMarks : List String :=
  ["&gt;", ")", ">", ".", ",", "\n"]

/-- The opening brackets that begin a word. -/
def headMarks : List String :=
  ["&lt;", "(", "<"]

/-- How long the marks are at the front of a text. -/
def marksLength (marks : List (List Char)) : Nat → List Char → Nat
  | 0, _ => 0
  | fuel + 1, text =>
    match marks.find? fun mark => mark.isPrefixOf text with
    | some mark => mark.length + marksLength marks fuel (text.drop mark.length)
    | none => 0

/-- Move marks from behind a word into it, as long as an opening bracket in it is without its closing
one. -/
def balance (opening closing : List Char) (word tail : List Char) : List Char × List Char :=
  if countOf opening word ≤ countOf closing word then (word, tail)
  else
    let times := min (countOf opening word) (countOf closing tail)
    let parts := cut closing tail (some times)
    let moved := (parts.take times).flatMap fun part => part ++ closing
    (word ++ moved, tail.drop moved.length)

/-- How links are written. -/
structure Style where
  /-- The text that a link shows for an address. -/
  shown : List Char → List Char
  attributes : String
  /-- The beginnings of other addresses that count. -/
  schemes : List (List Char)

/-- A link to an address with a text. -/
def linkTo (address shown : List Char) (attributes : String) : List Char :=
  "<a href=\"".toList ++ address ++ '"' :: attributes.toList ++ '>' :: shown ++ "</a>".toList

/-- A word as a link, if it is an address. -/
def linkWord (style : Style) (word : List Char) : List Char :=
  if isPage word then
    let hasScheme := beginsWith "https://".toList word || beginsWith "http://".toList word
    linkTo (if hasScheme then word else "https://".toList ++ word) (style.shown word) style.attributes
  else if beginsWith "mailto:".toList word && isPerson (word.drop 7) then linkTo word (word.drop 7) ""
  else if word.contains '@' && !beginsWith "www.".toList word && !word.contains ':' &&
      isPerson word then
    linkTo ("mailto:".toList ++ word) word ""
  else
    style.schemes.foldl (fun word scheme =>
      if word != scheme && beginsWith scheme word then linkTo word word style.attributes else word)
      word

/-- A word with marks around it, as a link if it is an address. -/
def link (style : Style) (word : List Char) : List Char :=
  let headLength := marksLength (headMarks.map String.toList) word.length word
  let rest := word.drop headLength
  let tailLength :=
    marksLength (tailMarks.map fun mark => mark.toList.reverse) rest.length rest.reverse
  let middle := rest.take (rest.length - tailLength)
  let tail := rest.drop (rest.length - tailLength)
  let (middle, tail) := balance ['('] [')'] middle tail
  let (middle, tail) := balance ['<'] ['>'] middle tail
  let (middle, tail) := balance "&lt;".toList "&gt;".toList middle tail
  word.take headLength ++ linkWord style middle ++ tail

/-- The longest parts of a text with blanks only, or without. -/
def parts (part : List Char) : List Char → List (List Char)
  | [] => [part.reverse]
  | character :: rest =>
    match part with
    | last :: _ =>
      if isBlank character = isBlank last then parts (character :: part) rest
      else part.reverse :: parts [character] rest
    | [] => parts [character] rest

/-- A text of markup with its addresses as links. -/
def linkAll (style : Style) (text : List Char) : List Char :=
  (parts [] text).flatMap (link style)

/-- Whether a text is the beginning of an address. -/
def isScheme (text : List Char) : Bool :=
  let slashes := text.reverse.takeWhile (· == '/')
  match text.reverse.drop slashes.length with
  | ':' :: name =>
    slashes.length ≤ 2 && 2 ≤ name.length && name.all fun character =>
      isWordPart character || character == '.' || character == '+' || character == '-'
  | _ => false

end SetupScript.Text.Link
