import SetupScript.Template.Display

/-!
# Escaping

The characters with a meaning in markup written as references.  A text that counts as escaped already is
left as it is.
-/

namespace SetupScript.Template

/-- The reference for a character with a meaning in markup. -/
def escapeCharacter (character : Char) : String :=
  match character with
  | '&' => "&amp;"
  | '<' => "&lt;"
  | '>' => "&gt;"
  | '\'' => "&#39;"
  | '"' => "&#34;"
  | _ => character.toString

/-- A text with its markup characters written as references. -/
def escapeText (text : String) : String :=
  String.join (text.toList.map escapeCharacter)

/-- The escaped text of a value. -/
def Value.escaped (value : Value) : Work String := do
  match value.form with
  | .markup content => return content
  | _ => return escapeText (← value.display)

end SetupScript.Template
