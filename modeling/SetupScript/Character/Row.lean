import SetupScript.Text.Fields

/-!
# Rows of tables

Large tables of characters are written as texts: rows of entries, with code points in hexadecimal
digits.
-/

namespace SetupScript.Character

/-- The value of a hexadecimal digit that is written as a capital letter. -/
def capitalDigit? (character : Char) : Option Nat :=
  if character.isDigit then some (character.toNat - '0'.toNat)
  else if 'A' ≤ character ∧ character ≤ 'F' then some (character.toNat - 'A'.toNat + 10)
  else none

/-- The number that hexadecimal digits stand for, if they are ones. -/
def capitalValue? (digits : List Char) : Option Nat :=
  (digits.mapM capitalDigit?).map fun values => values.foldl (fun value digit => 16 * value + digit) 0

/-- The parts of a text in front of the first occurrence of a character and behind it. -/
def splitFirst (separator : Char) (text : List Char) : List Char × List Char :=
  (text.takeWhile (· != separator), (text.dropWhile (· != separator)).drop 1)

/-- The entries of rows. -/
def entriesOfRows (rows : List String) : List (List Char) :=
  rows.flatMap fun row => Text.fields ';' row.toList

/-- An entry for one code point or for a run of them, with the numbers behind it. -/
structure Run where
  first : Nat
  last : Nat
  values : List Nat

/-- Read the entry of a run. -/
def Run.read? (entry : List Char) : Option Run := do
  let (place, values) := splitFirst ' ' entry
  let (first, last) := splitFirst '-' place
  let first ← capitalValue? first
  let last ← if last.isEmpty then some first else capitalValue? last
  return ⟨first, last, ← (Text.fields '+' values).mapM capitalValue?⟩

/-- Whether a run holds a code point. -/
def Run.holds (run : Run) (code : Nat) : Bool :=
  run.first ≤ code && code ≤ run.last

/-- The runs of rows. -/
def runsOfRows (rows : List String) : List Run :=
  (entriesOfRows rows).filterMap Run.read?

end SetupScript.Character
