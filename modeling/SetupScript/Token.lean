import SetupScript.Position
import SetupScript.Text.Quoted

/-!
# Tokens

What a script is made of: keywords, string literals, semicolons, comments, other words, and the end
of the input.
-/

namespace SetupScript

/-! ## Kinds -/

/-- The kinds of token. -/
inductive Token.Kind
  | clone
  | run
  | extract
  | set
  | as
  | string
  | semicolon
  | comment
  | endOfInput
  | unknown
deriving DecidableEq, Inhabited

namespace Token.Kind

/-- The name of a kind in messages. -/
def name : Kind → String
  | clone => "Clone"
  | run => "Run"
  | extract => "Extract"
  | set => "Set"
  | as => "As"
  | string => "String"
  | semicolon => "Semicolon"
  | comment => "Comment"
  | endOfInput => "EOF"
  | unknown => "Unknown"

/-- The keywords are five words in lower case; every other word is of unknown kind. -/
def ofWord (word : String) : Kind :=
  if word = "clone" then clone
  else if word = "run" then run
  else if word = "extract" then extract
  else if word = "set" then set
  else if word = "as" then as
  else unknown

/-- The keywords that open a declaration. -/
def opensDeclaration : Kind → Bool
  | clone | run | extract | set => true
  | _ => false

end Token.Kind

/-! ## Tokens -/

/-- A token: its kind, its text, and the place where it starts.  The text of a string literal is
the decoded one, without quotes; that of a comment is trimmed. -/
structure Token where
  kind : Token.Kind
  text : String
  position : Position
deriving DecidableEq, Inhabited

namespace Token

/-- The token that ends every input, at a place. -/
def final (position : Position) : Token :=
  ⟨.endOfInput, "", position⟩

/-- The printed form of a token: kind, quoted text and place. -/
def display (token : Token) : String :=
  "Token(" ++ token.kind.name ++ ", " ++ Text.quotedString token.text ++ ", " ++
    token.position.text ++ ")"

end Token

end SetupScript
