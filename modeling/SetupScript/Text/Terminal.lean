/-!
# Texts for terminals

A terminal takes an escape character, an opening bracket, digits, semicolons and question marks, and
a letter for a change of colour or of the place of writing.  Where the output is no terminal these
sequences are left out.
-/

namespace SetupScript.Text

/-- The escape character. -/
def escapeCharacter : Char := '\x1b'

/-- Whether a character may stand between the bracket and the letter of a sequence. -/
def isSequenceParameter (character : Char) : Bool :=
  character.isDigit || character == ';' || character == '?'

/-- What follows the sequence whose opening bracket has been passed, if there is one. -/
def afterSequence? (text : List Char) : Option (List Char) :=
  match text.dropWhile isSequenceParameter with
  | letter :: rest => if letter.isAlpha then some rest else none
  | [] => none

theorem length_afterSequence?_lt {text rest : List Char} (found : afterSequence? text = some rest) :
    rest.length < text.length := by
  unfold afterSequence? at found
  have bound := (List.dropWhile_suffix isSequenceParameter (l := text)).length_le
  split at found
  · rename_i letter after dropped
    rw [dropped, List.length_cons] at bound
    split at found
    · cases found
      omega
    · cases found
  · cases found

/-- A text without the sequences for terminals. -/
def withoutSequences (text : List Char) : List Char :=
  match text with
  | [] => []
  | '\x1b' :: '[' :: inside =>
    match found : afterSequence? inside with
    | some rest =>
      have : rest.length < inside.length := length_afterSequence?_lt found
      withoutSequences rest
    | none => '\x1b' :: withoutSequences ('[' :: inside)
  | character :: rest => character :: withoutSequences rest
termination_by text.length

/-- A text without escape characters is left as it is. -/
theorem withoutSequences_eq_self {text : List Char} (absent : '\x1b' ∉ text) :
    withoutSequences text = text := by
  fun_induction withoutSequences text with
  | case1 => rfl
  | case2 inside rest found bound ih => simp at absent
  | case3 inside missing ih => simp at absent
  | case4 character rest apart ih =>
    rw [ih fun inside => absent (List.mem_cons_of_mem _ inside)]

end SetupScript.Text
