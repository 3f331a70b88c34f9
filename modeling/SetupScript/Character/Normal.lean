import SetupScript.Character.Normal.Composition
import SetupScript.Character.Normal.Decomposition
import SetupScript.Character.Row

/-!
# Normal forms

Two spellings of a name are one if their normal forms agree: characters are decomposed, also where they
only look alike, marks are put in order, and what can be composed is composed again.  A text in ASCII is
its own normal form (`normalForm_of_ascii`).
-/

namespace SetupScript.Character

/-! ## Tables -/

/-- The decompositions of characters. -/
def decompositions : List Run :=
  runsOfRows decompositionRows

/-- The compositions of characters. -/
def compositions : List Run :=
  runsOfRows compositionRows

/-- The classes of marks. -/
def marks : List Run :=
  runsOfRows markRows

/-! ## Syllables -/

/-- The letters of a Hangul syllable, if the code point is that of one. -/
def lettersOfSyllable? (code : Nat) : Option (List Nat) :=
  if 0xAC00 ≤ code ∧ code ≤ 0xD7A3 then
    let place := code - 0xAC00
    let ending := if place % 28 = 0 then [] else [0x11A7 + place % 28]
    some ([0x1100 + place / 588, 0x1161 + place % 588 / 28] ++ ending)
  else none

/-- The Hangul syllable of two letters, or of a syllable without an ending and a letter. -/
def syllableOfLetters? (first second : Nat) : Option Nat :=
  if 0x1100 ≤ first ∧ first ≤ 0x1112 ∧ 0x1161 ≤ second ∧ second ≤ 0x1175 then
    some (0xAC00 + ((first - 0x1100) * 21 + (second - 0x1161)) * 28)
  else if 0xAC00 ≤ first ∧ first ≤ 0xD7A3 ∧ (first - 0xAC00) % 28 = 0 ∧
      0x11A8 ≤ second ∧ second ≤ 0x11C2 then
    some (first + (second - 0x11A7))
  else none

/-! ## Single characters -/

/-- The code points that a character is decomposed into. -/
def decompose (code : Nat) : List Nat :=
  match lettersOfSyllable? code, decompositions.find? (·.holds code) with
  | some letters, _ => letters
  | none, some ⟨first, last, values⟩ =>
    if first = last then values else values.map (· + (code - first))
  | none, none => [code]

/-- The class of a mark; all other characters have the class zero. -/
def markClass (code : Nat) : Nat :=
  ((marks.find? (·.holds code)).bind fun run => run.values.head?).getD 0

/-- The character that two others are composed to. -/
def compose? (first second : Nat) : Option Nat :=
  (syllableOfLetters? first second).or
    ((compositions.find? fun run => run.values == [first, second]).map Run.first)

/-! ## Texts -/

/-- Put a mark behind the marks of its class and the lower ones, and any other character at the end.
The text is given backwards. -/
def putInOrder (code : Nat) : List Nat → List Nat
  | [] => [code]
  | last :: before =>
    if markClass code ≠ 0 ∧ markClass code < markClass last then last :: putInOrder code before
    else code :: last :: before

/-- The code points of a text with its marks in order. -/
def inOrder (codes : List Nat) : List Nat :=
  (codes.foldl (fun before code => putInOrder code before) []).reverse

/-- Compose what follows a character, behind which marks of lower classes, given backwards, have been
left. -/
def composeFrom (base : Nat) (left : List Nat) : List Nat → List Nat
  | [] => base :: left.reverse
  | code :: codes =>
    let isNext := left.head?.all fun last => markClass last < markClass code
    match if isNext then compose? base code else none with
    | some composed => composeFrom composed left codes
    | none =>
      if markClass code = 0 then base :: left.reverse ++ composeFrom code [] codes
      else composeFrom base (code :: left) codes

/-- The normal form of a text. -/
def normalForm (text : List Char) : List Char :=
  if text.all fun character => character.toNat < 0x80 then text
  else
    match inOrder (text.flatMap fun character => decompose character.toNat) with
    | [] => []
    | code :: codes => (composeFrom code [] codes).map Char.ofNat

/-- A text in ASCII is its own normal form. -/
theorem normalForm_of_ascii {text : List Char}
    (ascii : ∀ character ∈ text, character.toNat < 0x80) : normalForm text = text := by
  unfold normalForm
  rw [if_pos]
  simpa using ascii

end SetupScript.Character
