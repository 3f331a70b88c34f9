/-!
# Padding

Texts filled up to a width: on one side or on both, with zeros behind a sign, or with blanks up to the next
stop of a tabulator.
-/

namespace SetupScript.Text

/-- A text in the middle of blanks. -/
def center (width : Nat) (filler : Char) (text : List Char) : List Char :=
  let missing := width - text.length
  let left := missing / 2 + (if missing % 2 = 1 ∧ width % 2 = 1 then 1 else 0)
  List.replicate left filler ++ text ++ List.replicate (missing - left) filler

/-- A text with fillers behind it. -/
def padEnd (width : Nat) (filler : Char) (text : List Char) : List Char :=
  text ++ List.replicate (width - text.length) filler

/-- A text with fillers in front of it. -/
def padStart (width : Nat) (filler : Char) (text : List Char) : List Char :=
  List.replicate (width - text.length) filler ++ text

/-- A text with zeros behind its sign. -/
def fillZeros (width : Nat) (text : List Char) : List Char :=
  let zeros := List.replicate (width - text.length) '0'
  match text with
  | '-' :: rest => '-' :: zeros ++ rest
  | '+' :: rest => '+' :: zeros ++ rest
  | _ => zeros ++ text

/-- A text with blanks for its tabulators, behind a number of characters of its line.  Stops without a
distance are left out. -/
def expandTabs (distance column : Nat) : List Char → List Char
  | [] => []
  | '\t' :: rest =>
    let blanks := if distance = 0 then 0 else distance - column % distance
    List.replicate blanks ' ' ++ expandTabs distance (column + blanks) rest
  | character :: rest =>
    character ::
      expandTabs distance (if character = '\n' ∨ character = '\r' then 0 else column + 1) rest

end SetupScript.Text
