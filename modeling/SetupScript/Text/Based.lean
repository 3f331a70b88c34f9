import SetupScript.Character.Digit
import SetupScript.Text.Integer

/-!
# Integers in a base

Reading an integer from a text: white space around it, a sign, a mark for the base, and underscores
that each stand between two digits, are allowed.  Digits above nine are Latin letters.
-/

namespace SetupScript.Text

open SetupScript.Character

/-- Integers of more decimal digits are neither read nor written. -/
def digitLimit : Nat := 4300

/-- The value of a digit, which may be a letter. -/
def digit? (character : Char) : Option Nat :=
  match decimal? character with
  | some value => some value
  | none =>
    if 'a' ≤ character ∧ character ≤ 'z' then some (character.toNat - 'a'.toNat + 10)
    else if 'A' ≤ character ∧ character ≤ 'Z' then some (character.toNat - 'A'.toNat + 10)
    else none

/-- The values of the digits of a base, between which single underscores may stand. -/
def digitsOf? (base : Nat) (text : List Char) : Option (List Nat) :=
  let groups := fields '_' text
  if groups.any List.isEmpty then none
  else
    groups.flatten.mapM fun character =>
      (digit? character).filter (· < base)

/-- The base that a mark behind a leading zero announces. -/
def markedBase? : Char → Option Nat
  | 'x' | 'X' => some 16
  | 'o' | 'O' => some 8
  | 'b' | 'B' => some 2
  | _ => none

/-- The base of a text and its digits behind the mark of a base, behind which one underscore may stand.
A base of zero is found out by the mark; without one it is ten. -/
def splitMark (base : Nat) (text : List Char) : Nat × List Char :=
  let marked? :=
    match text with
    | '0' :: mark :: rest => (markedBase? mark).map fun found => (found, rest)
    | _ => none
  match marked? with
  | some (found, rest) =>
    if found = base ∨ base = 0 then (found, if rest.head? = some '_' then rest.tail else rest)
    else (base, text)
  | none => (if base = 0 then 10 else base, text)

/-- Whether the digits are a number with leading zeros. -/
def hasIdleZeros (values : List Nat) : Bool :=
  values.head? == some 0 && values.any (· != 0)

/-- The integer that a text stands for in a base from two to thirty-six, or in the base of its mark if
the base is zero. -/
def integerInBase? (base : Nat) (text : List Char) : Option Int := do
  let (negative, unsigned) := splitSign (trimBy isWhiteSpace text)
  let (found, digits) := splitMark base unsigned
  let values ← digitsOf? found digits
  if base = 0 ∧ found = 10 ∧ hasIdleZeros values then none
  else if !([2, 4, 8, 16, 32].contains found) ∧ digitLimit < values.length then none
  else
    let value := values.foldl (fun value digit => found * value + digit) 0
    return if negative then -(value : Int) else value

end SetupScript.Text
