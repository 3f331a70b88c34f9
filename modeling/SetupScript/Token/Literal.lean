/-!
# String literals

The reading of a string literal behind its opening quote.  A literal ends at the first quote that
stands outside an escape; a line feed, an unknown escape or the end of the input breaks it off.
-/

namespace SetupScript

/-- How the reading of a literal ends. -/
inductive Literal.Ending
  | closed
  | lineFeed
  | badEscape (code : Option Char)
  | endOfInput
deriving DecidableEq

/-- A literal as far as it could be read: the decoded text, the characters read, closing quote
included, what stands behind them, and the reason to end there. -/
structure Literal where
  text : List Char
  taken : List Char
  rest : List Char
  ending : Literal.Ending

namespace Literal

/-! ## Escapes -/

/-- The character that an escape stands for. -/
def unescape? : Char → Option Char
  | '"' => some '"'
  | '\\' => some '\\'
  | 'n' => some '\n'
  | 't' => some '\t'
  | _ => none

/-! ## Reading -/

/-- The literal with one more decoded character in front, read from `source`. -/
def precede (literal : Literal) (source : List Char) (character : Char) : Literal :=
  { literal with text := character :: literal.text, taken := source ++ literal.taken }

/-- Read a literal behind its opening quote. -/
def read : List Char → Literal
  | [] => ⟨[], [], [], .endOfInput⟩
  | '"' :: rest => ⟨[], ['"'], rest, .closed⟩
  | '\n' :: rest => ⟨[], [], '\n' :: rest, .lineFeed⟩
  | ['\\'] => ⟨[], [], ['\\'], .badEscape none⟩
  | '\\' :: code :: rest =>
    match unescape? code with
    | some character => (read rest).precede ['\\', code] character
    | none => ⟨[], [], '\\' :: code :: rest, .badEscape (some code)⟩
  | character :: rest => (read rest).precede [character] character

/-- Nothing is lost: the input is what was read and what stands behind. -/
theorem taken_append_rest (input : List Char) : (read input).taken ++ (read input).rest = input := by
  fun_induction read input <;> simp_all [precede]

/-- Reading leaves no more than was there. -/
theorem rest_length_le (input : List Char) : (read input).rest.length ≤ input.length := by
  have whole := congrArg List.length (taken_append_rest input)
  simp only [List.length_append] at whole
  omega

end Literal

end SetupScript
