/-!
# Positions

A place in a text: line and column, both counted from one.  Only a line feed ends a line, and a
column counts code points.
-/

namespace SetupScript

/-- A line and a column, both counted from one. -/
structure Position where
  line : Nat := 1
  column : Nat := 1
deriving DecidableEq, Inhabited

namespace Position

/-- The first place of a text. -/
def origin : Position := {}

/-- The place behind one character. -/
def after (position : Position) (character : Char) : Position :=
  if character = '\n' then ⟨position.line + 1, 1⟩ else ⟨position.line, position.column + 1⟩

/-- The place behind a run of characters. -/
def advance (position : Position) (passed : List Char) : Position :=
  passed.foldl after position

@[simp]
theorem advance_nil (position : Position) : position.advance [] = position := rfl

@[simp]
theorem advance_cons (position : Position) (character : Char) (rest : List Char) :
    position.advance (character :: rest) = (position.after character).advance rest := rfl

/-- Passing two runs is passing one and then the other. -/
theorem advance_append (position : Position) (first second : List Char) :
    position.advance (first ++ second) = (position.advance first).advance second :=
  List.foldl_append

/-- The place behind a text, by counting: one line more than the text has line feeds, and one
column more than it has characters behind the last of them. -/
def behind (passed : List Char) : Position :=
  ⟨passed.count '\n' + 1, (passed.reverse.takeWhile (· != '\n')).length + 1⟩

theorem after_behind (passed : List Char) (character : Char) :
    (behind passed).after character = behind (passed ++ [character]) := by
  by_cases feed : character = '\n'
  · simp [behind, after, feed]
  · simp [behind, after, feed]

/-- Passing over a text moves from the place behind one text to the place behind both. -/
theorem advance_behind (passed more : List Char) :
    (behind passed).advance more = behind (passed ++ more) := by
  induction more generalizing passed with
  | nil => rw [advance_nil, List.append_nil]
  | cons character rest ih =>
    rw [advance_cons, after_behind, ih, List.append_assoc, List.singleton_append]

/-- The form `line:column`. -/
def text (position : Position) : String :=
  s!"{position.line}:{position.column}"

end Position

end SetupScript
