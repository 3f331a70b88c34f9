import SetupScript.Character.Blank

/-!
# Trimming

Removing the blanks at both ends of a text.
-/

namespace SetupScript.Text

open SetupScript.Character

/-- The text without the characters of a class at its end. -/
def trimEndBy (class? : Char → Bool) (text : List Char) : List Char :=
  (text.reverse.dropWhile class?).reverse

/-- The text without the characters of a class at both ends. -/
def trimBy (class? : Char → Bool) (text : List Char) : List Char :=
  trimEndBy class? (text.dropWhile class?)

/-- The text without the blanks at both ends. -/
def trim (text : List Char) : List Char :=
  trimBy isBlank text

/-- A text that begins outside a class loses nothing at its start. -/
theorem dropWhile_eq_self {class? : Char → Bool} {text : List Char}
    (outside : ∀ first ∈ text.head?, class? first = false) : text.dropWhile class? = text := by
  cases text with
  | nil => rfl
  | cons first rest =>
    have absent := outside first rfl
    simp only [List.dropWhile, absent]

end SetupScript.Text
