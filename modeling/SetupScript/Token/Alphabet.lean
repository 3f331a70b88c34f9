import SetupScript.Character.Letter

/-!
# Alphabets

Which characters may open a word of a script, and which may continue it.
-/

namespace SetupScript

/-- The characters of words.  Whatever opens a word may also continue one. -/
structure Alphabet where
  opensWord : Char → Bool
  continuesWord : Char → Bool
  continuesWord_of_opensWord : ∀ {character : Char},
    opensWord character = true → continuesWord character = true

namespace Alphabet

open SetupScript.Character

/-- A word opens with a Unicode letter or an underscore and goes on with alphanumerics, underscores
and hyphens. -/
def unicode : Alphabet where
  opensWord character := isLetter character || character == '_'
  continuesWord character := isAlphanumeric character || character == '_' || character == '-'
  continuesWord_of_opensWord {character} opens := by
    simp only [Bool.or_eq_true] at opens ⊢
    exact Or.inl (opens.imp_left isAlphanumeric_of_isLetter)

/-- The same rule with ASCII letters and digits alone. -/
def ascii : Alphabet where
  opensWord character := character.isAlpha || character == '_'
  continuesWord character :=
    character.isAlpha || character.isDigit || character == '_' || character == '-'
  continuesWord_of_opensWord {character} opens := by
    simp only [Bool.or_eq_true] at opens ⊢
    exact Or.inl (opens.imp_left Or.inl)

end Alphabet

end SetupScript
