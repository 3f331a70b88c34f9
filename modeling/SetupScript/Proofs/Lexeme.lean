import SetupScript.Token.Scanner

/-!
# Lexemes

How a script is written.  A lexeme is the written form of one token, and a layout is a whole text:
lexemes with gaps in front of them, and a gap behind the last.  What a lexeme consists of is part
of its type; that a comment or a word goes on as far as it can is the predicate `Layout.Maximal`.
Nothing here mentions the scanner.
-/

namespace SetupScript

/-! ## Lexemes -/

/-- One character of a literal as it is written: for itself, or as one of four escapes. -/
inductive Lexeme.Glyph
  | plain (character : Char)
      (ordinary : character ≠ '"' ∧ character ≠ '\\' ∧ character ≠ '\n')
  | quote
  | backslash
  | lineFeed
  | tab

namespace Lexeme.Glyph

/-- The characters that a glyph takes in the text. -/
def source : Glyph → List Char
  | plain character _ => [character]
  | quote => ['\\', '"']
  | backslash => ['\\', '\\']
  | lineFeed => ['\\', 'n']
  | tab => ['\\', 't']

/-- The character that a glyph stands for. -/
def character : Glyph → Char
  | plain character _ => character
  | quote => '"'
  | backslash => '\\'
  | lineFeed => '\n'
  | tab => '\t'

end Lexeme.Glyph

/-- The written form of a token.  A word opens with a letter of the alphabet and goes on with
further characters of words. -/
inductive Lexeme (alphabet : Alphabet)
  | semicolon
  | comment (body : List Char) (oneLine : '\n' ∉ body)
  | literal (glyphs : List Lexeme.Glyph)
  | word (first : Char) (more : List Char) (opens : alphabet.opensWord first = true)
      (continues : ∀ character ∈ more, alphabet.continuesWord character = true)

namespace Lexeme

variable {alphabet : Alphabet}

/-- The characters that a lexeme takes in the text. -/
def source : Lexeme alphabet → List Char
  | semicolon => [';']
  | comment body _ => '/' :: '/' :: body
  | literal glyphs => '"' :: (glyphs.flatMap Glyph.source ++ ['"'])
  | word first more _ _ => first :: more

/-- The five keywords. -/
def keywords : List (String × Token.Kind) :=
  [("clone", .clone), ("run", .run), ("extract", .extract), ("set", .set), ("as", .as)]

/-- The kind of the token that is written so. -/
def kind : Lexeme alphabet → Token.Kind
  | semicolon => .semicolon
  | comment _ _ => .comment
  | literal _ => .string
  | word first more _ _ => (keywords.lookup (String.ofList (first :: more))).getD .unknown

/-- The text of the token that is written so. -/
def text : Lexeme alphabet → List Char
  | semicolon => [';']
  | comment body _ => Text.trim body
  | literal glyphs => glyphs.map Glyph.character
  | word first more _ _ => first :: more

/-- A lexeme stops only where it must: a comment in front of a line feed or the end of the text,
a word in front of what cannot continue it. -/
def EndsBefore : Lexeme alphabet → List Char → Prop
  | comment _ _, rest => ∀ next ∈ rest.head?, next = '\n'
  | word .., rest => ∀ next ∈ rest.head?, alphabet.continuesWord next = false
  | _, _ => True

end Lexeme

/-! ## Layouts -/

/-- The characters of gaps: space, tab, carriage return and line feed. -/
def Layout.gapCharacters : List Char :=
  [' ', '\t', '\r', '\n']

/-- A text as a sequence of lexemes, with a gap, possibly empty, in front of each of them and a
last gap behind them all. -/
inductive Layout (alphabet : Alphabet)
  | closing (gap : List Char) (blank : ∀ character ∈ gap, character ∈ Layout.gapCharacters)
  | block (gap : List Char) (blank : ∀ character ∈ gap, character ∈ Layout.gapCharacters)
      (lexeme : Lexeme alphabet) (rest : Layout alphabet)

namespace Layout

variable {alphabet : Alphabet}

/-- The text that is laid out. -/
def source : Layout alphabet → List Char
  | closing gap _ => gap
  | block gap _ lexeme rest => gap ++ (lexeme.source ++ rest.source)

/-- Every lexeme goes on as far as it can. -/
def Maximal : Layout alphabet → Prop
  | closing _ _ => True
  | block _ _ lexeme rest => lexeme.EndsBefore rest.source ∧ rest.Maximal

/-- A layout spells a text if it is maximal and the text is its source. -/
def Spells (layout : Layout alphabet) (text : List Char) : Prop :=
  layout.source = text ∧ layout.Maximal

/-- The tokens of a layout behind the text `passed`: one for each lexeme, at the place of its first
character, and the final one at the end of the text. -/
def tokensBehind (passed : List Char) : Layout alphabet → List Token
  | closing gap _ => [⟨.endOfInput, "", .behind (passed ++ gap)⟩]
  | block gap _ lexeme rest =>
    ⟨lexeme.kind, String.ofList lexeme.text, .behind (passed ++ gap)⟩ ::
      rest.tokensBehind (passed ++ (gap ++ lexeme.source))

/-- The tokens of a layout that stands at the start of a text. -/
def tokens (layout : Layout alphabet) : List Token :=
  layout.tokensBehind []

end Layout

end SetupScript
