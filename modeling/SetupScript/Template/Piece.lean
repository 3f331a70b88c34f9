import SetupScript.Text.LineEnding
import SetupScript.Template.Token

/-!
# Pieces of templates

A template is plain text with tags in it: output tags, block tags, comments, and raw sections whose
inside is plain text.  A text without the three opening delimiters is one piece of plain text
(`pieces?_of_noDelimiter`).
-/

namespace SetupScript.Template

open SetupScript.Character

/-! ## Pieces -/

/-- A piece of a template. -/
inductive Piece
  | plain (text : List Char)
  | output (tokens : List Token)
  | block (tokens : List Token)

/-- The three kinds of opening delimiter. -/
inductive Opening
  | output
  | block
  | comment
deriving DecidableEq

/-- The delimiter that a text begins with. -/
def opening? : List Char → Option (Opening × List Char)
  | '\x7b' :: '\x7b' :: rest => some (.output, rest)
  | '\x7b' :: '%' :: rest => some (.block, rest)
  | '\x7b' :: '#' :: rest => some (.comment, rest)
  | _ => none

/-- The plain text up to the first opening delimiter, that delimiter, and what is behind it. -/
def splitOpening : List Char → List Char × Option (Opening × List Char)
  | [] => ([], none)
  | character :: rest =>
    match opening? (character :: rest) with
    | some found => ([], some found)
    | none =>
      let (plain, found) := splitOpening rest
      (character :: plain, found)

/-- A sign behind an opening delimiter. -/
inductive Sign
  | minus
  | plus
  | none
deriving DecidableEq

/-- The sign at the front of a text, and the rest. -/
def readSign : List Char → Sign × List Char
  | '-' :: rest => (.minus, rest)
  | '+' :: rest => (.plus, rest)
  | rest => (.none, rest)

/-- The plain text in front of a tag: a minus sign drops the blanks at its end. -/
def beforeTag (sign : Sign) (text : List Char) : List Char :=
  if sign = .minus then Text.trimEndBy isBlank text else text

/-! ## Comments and raw sections -/

/-- What follows a comment behind its opening. -/
def afterComment? : List Char → Option (List Char)
  | [] => none
  | '-' :: '#' :: '\x7d' :: rest => some (rest.dropWhile isBlank)
  | '#' :: '\x7d' :: rest => some rest
  | _ :: rest => afterComment? rest

/-- What follows a word that stands alone in a block tag, behind the opening of the tag. -/
def afterWordTag? (word : List Char) (text : List Char) : Option (Sign × List Char) :=
  let (sign, text) := readSign text
  let text := text.dropWhile isBlank
  if word.isPrefixOf text then
    (afterClosing? .block ((text.drop word.length).dropWhile isBlank)).map fun rest => (sign, rest)
  else none

/-- What follows the opening tag of a raw section; a plus sign may not close it. -/
def afterRaw? (text : List Char) : Option (Sign × List Char) :=
  match afterWordTag? "raw".toList text with
  | some found =>
    let inside := (((readSign text).2.dropWhile isBlank).drop 3).dropWhile isBlank
    if inside.head? = some '+' then none else some found
  | none => none

/-- The inside of a raw section, the sign of its closing tag, and what follows that tag. -/
def readRaw? : List Char → Option (List Char × Sign × List Char)
  | [] => none
  | character :: rest =>
    let closing :=
      match character, rest with
      | '\x7b', '%' :: inside => afterWordTag? "endraw".toList inside
      | _, _ => none
    match closing with
    | some (sign, after) => some ([], sign, after)
    | none => (readRaw? rest).map fun read => (character :: read.1, read.2)

/-! ## All pieces -/

/-- A piece of plain text, unless it is empty. -/
def plainPiece (text : List Char) : List Piece :=
  if text.isEmpty then [] else [.plain text]

/-- What an opening delimiter leads to: the sign behind it, the pieces of its tag and the rest. -/
def readOpening? (line : Nat) (opening : Opening) (inside : List Char) :
    Option (Sign × List Piece × List Char) :=
  let (sign, body) := readSign inside
  match opening with
  | .output => (readTag? .output [] false line body).map fun read => (sign, [.output read.1], read.2)
  | .comment =>
    if body.isEmpty then some (sign, [], []) else (afterComment? body).map fun rest => (sign, [], rest)
  | .block =>
    match afterRaw? inside with
    | some (sign, []) => some (sign, [], [])
    | some (sign, raw) =>
      (readRaw? raw).map fun (held, closingSign, rest) =>
        (sign, plainPiece (beforeTag closingSign held), rest)
    | none => (readTag? .block [] false line body).map fun read => (sign, [.block read.1], read.2)

/-- The pieces of a template whose first line has a number. -/
def piecesFrom? (line : Nat) (text : List Char) : Option (List Piece) :=
  match splitOpening text with
  | (plain, none) => some (plainPiece plain)
  | (plain, some (opening, inside)) =>
    let lineHere := line + plain.count '\n'
    match readOpening? lineHere opening inside with
    | none => none
    | some (sign, pieces, rest) =>
      if rest.length < text.length then
        (piecesFrom? (line + linesBetween text rest) rest).map fun more =>
          plainPiece (beforeTag sign plain) ++ pieces ++ more
      else none
termination_by text.length

/-- The pieces of a template. -/
def pieces? (text : List Char) : Option (List Piece) :=
  piecesFrom? 1 text

/-! ## Plain texts -/

/-- No opening delimiter stands anywhere in a text. -/
def NoDelimiter (text : List Char) : Prop :=
  ∀ rest, rest <:+ text → opening? rest = none

theorem splitOpening_of_noDelimiter {text : List Char} (plain : NoDelimiter text) :
    splitOpening text = (text, none) := by
  induction text with
  | nil => rfl
  | cons character rest ih =>
    have here := plain (character :: rest) (List.suffix_refl _)
    have tail := ih fun after suffix => plain after (suffix.trans (List.suffix_cons ..))
    simp only [splitOpening, here, tail]

/-- A text without opening delimiters is one piece of plain text. -/
theorem pieces?_of_noDelimiter {text : List Char} (plain : NoDelimiter text) :
    pieces? text = some (plainPiece text) := by
  unfold pieces? piecesFrom?
  simp only [splitOpening_of_noDelimiter plain]

end SetupScript.Template
