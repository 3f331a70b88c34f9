import SetupScript.Text.Trim
import SetupScript.Token
import SetupScript.Token.Alphabet
import SetupScript.Token.Literal

/-!
# Scanner

The scanner hands out the tokens of a script one at a time.  Every step that yields a token other
than the final one leaves less to read (`rest_length_lt_of_next`), so the whole token list is a
total function of the text.
-/

namespace SetupScript

/-! ## Faults -/

/-- Why no token can be read. -/
inductive Scanner.Fault
  | unterminatedLiteral
  | lineFeedInLiteral
  | badEscape (code : Option Char)
  | unexpectedCharacter (character : Char)
deriving DecidableEq

namespace Scanner.Fault

/-- The wording of a fault. -/
def message : Fault → String
  | unterminatedLiteral => "unterminated string literal"
  | lineFeedInLiteral => "newline in string literal"
  | badEscape code => "invalid escape sequence '\\" ++ String.ofList code.toList ++ "'"
  | unexpectedCharacter character =>
    "unexpected character " ++ String.ofList (Text.quoted [character])

end Scanner.Fault

/-- A fault and the place where it shows. -/
structure Scanner.Error where
  fault : Scanner.Fault
  position : Position
deriving DecidableEq

/-! ## State -/

/-- A scanner: the characters still to read, how many were read, and the place reached. -/
structure Scanner where
  alphabet : Alphabet
  rest : List Char
  offset : Nat
  position : Position

namespace Scanner

/-- The scanner at the start of a text. -/
def ofList (text : List Char) (alphabet : Alphabet := .unicode) : Scanner :=
  ⟨alphabet, text, 0, .origin⟩

/-- The scanner at the start of a script. -/
def ofString (text : String) : Scanner :=
  ofList text.toList

/-- Move past `taken`, behind which `rest` stands. -/
def move (scanner : Scanner) (taken rest : List Char) : Scanner :=
  { scanner with
    rest := rest
    offset := scanner.offset + taken.length
    position := scanner.position.advance taken }

/-! ## Gaps, comments, words, literals -/

/-- The characters that separate tokens. -/
def isGap (character : Char) : Bool :=
  character == ' ' || character == '\t' || character == '\r' || character == '\n'

/-- Move past the gap in front of the next token. -/
def skipGap (scanner : Scanner) : Scanner :=
  scanner.move (scanner.rest.takeWhile isGap) (scanner.rest.dropWhile isGap)

/-- The characters of a comment: all up to the end of the line. -/
def isCommentCharacter (character : Char) : Bool :=
  character != '\n'

/-- Read a comment whose two slashes stand in front of `body`. -/
def comment (scanner : Scanner) (body : List Char) : Token × Scanner :=
  let text := body.takeWhile isCommentCharacter
  (⟨.comment, String.ofList (Text.trim text), scanner.position⟩,
    scanner.move ('/' :: '/' :: text) (body.dropWhile isCommentCharacter))

/-- Read a word. -/
def word (scanner : Scanner) : Token × Scanner :=
  let letters := scanner.rest.takeWhile scanner.alphabet.continuesWord
  let text := String.ofList letters
  (⟨.ofWord text, text, scanner.position⟩,
    scanner.move letters (scanner.rest.dropWhile scanner.alphabet.continuesWord))

/-- Read a literal whose opening quote stands in front of `body`.  A literal that is not closed is
reported at its start if the input ends, else at the character that breaks it off; only the
backslash of a bad escape is passed over. -/
def literal (scanner : Scanner) (body : List Char) : Except Error Token × Scanner :=
  let read := Literal.read body
  let reached := scanner.move ('"' :: read.taken) read.rest
  match read.ending with
  | .closed => (.ok ⟨.string, String.ofList read.text, scanner.position⟩, reached)
  | .endOfInput => (.error ⟨.unterminatedLiteral, scanner.position⟩, reached)
  | .lineFeed => (.error ⟨.lineFeedInLiteral, reached.position⟩, reached)
  | .badEscape code =>
    (.error ⟨.badEscape code, reached.position⟩, reached.move ['\\'] (read.rest.drop 1))

/-! ## One step -/

/-- Read the token at hand, in front of which no gap stands. -/
def tokenHere (scanner : Scanner) : Except Error Token × Scanner :=
  match scanner.rest with
  | [] => (.ok (.final scanner.position), scanner)
  | '/' :: '/' :: body =>
    let (token, after) := scanner.comment body
    (.ok token, after)
  | ';' :: rest => (.ok ⟨.semicolon, ";", scanner.position⟩, scanner.move [';'] rest)
  | '"' :: body => scanner.literal body
  | character :: _ =>
    if scanner.alphabet.opensWord character then
      let (token, after) := scanner.word
      (.ok token, after)
    else (.error ⟨.unexpectedCharacter character, scanner.position⟩, scanner)

/-- Read the next token. -/
def next (scanner : Scanner) : Except Error Token × Scanner :=
  scanner.skipGap.tokenHere

/-! ## Progress -/

theorem length_dropWhile_le (class? : Char → Bool) (text : List Char) :
    (text.dropWhile class?).length ≤ text.length :=
  (List.dropWhile_suffix class?).length_le

/-- Skipping a gap leaves no more than was there. -/
theorem rest_length_skipGap_le (scanner : Scanner) :
    scanner.skipGap.rest.length ≤ scanner.rest.length :=
  length_dropWhile_le isGap scanner.rest

/-- Reading a literal leaves less than was there. -/
theorem rest_length_literal_lt (scanner : Scanner) (body : List Char) :
    (scanner.literal body).2.rest.length < body.length + 1 := by
  have bound := Literal.rest_length_le body
  simp only [literal, move]
  split <;> simp only [List.length_drop] <;> omega

/-- Reading a token leaves no more than was there, and less when it is not the final one. -/
theorem rest_length_tokenHere (scanner : Scanner) :
    scanner.tokenHere.2.rest.length ≤ scanner.rest.length ∧
      ∀ token, scanner.tokenHere.1 = .ok token → token.kind ≠ .endOfInput →
        scanner.tokenHere.2.rest.length < scanner.rest.length := by
  unfold tokenHere
  split
  · refine ⟨Nat.le_refl _, fun token step notFinal => ?_⟩
    cases step
    exact absurd rfl notFinal
  · rename_i body here
    have bound := length_dropWhile_le isCommentCharacter body
    simp only [comment, move, here, List.length_cons]
    exact ⟨by omega, fun _ _ _ => by omega⟩
  · rename_i rest here
    simp only [move, here, List.length_cons]
    exact ⟨by omega, fun _ _ _ => by omega⟩
  · rename_i body here
    have bound := rest_length_literal_lt scanner body
    simp only [here, List.length_cons]
    exact ⟨by omega, fun _ _ _ => bound⟩
  · rename_i character rest _ _ _ here
    split
    · rename_i opens
      have bound := length_dropWhile_le scanner.alphabet.continuesWord rest
      have continues := scanner.alphabet.continuesWord_of_opensWord opens
      simp only [word, move, here, List.dropWhile, continues, List.length_cons]
      exact ⟨by omega, fun _ _ _ => by omega⟩
    · exact ⟨Nat.le_refl _, fun token step => by cases step⟩

/-- Reading a token leaves no more than was there. -/
theorem rest_length_next_le (scanner : Scanner) :
    scanner.next.2.rest.length ≤ scanner.rest.length :=
  Nat.le_trans (rest_length_tokenHere scanner.skipGap).1 (rest_length_skipGap_le scanner)

/-- Reading a token other than the final one leaves less than was there. -/
theorem rest_length_lt_of_next {scanner after : Scanner} {token : Token}
    (step : scanner.next = (.ok token, after)) (notFinal : token.kind ≠ .endOfInput) :
    after.rest.length < scanner.rest.length := by
  have progress := (rest_length_tokenHere scanner.skipGap).2 token
    (congrArg Prod.fst step) notFinal
  have reached : scanner.skipGap.tokenHere.2 = after := congrArg Prod.snd step
  rw [reached] at progress
  exact Nat.lt_of_lt_of_le progress (rest_length_skipGap_le scanner)

/-! ## Runs -/

/-- The tokens up to the final one or the first error. -/
def run (scanner : Scanner) : List Token × Option Error :=
  match _ : scanner.next with
  | (.error error, _) => ([], some error)
  | (.ok token, after) =>
    if _ : token.kind = .endOfInput then ([token], none)
    else
      let (tokens, error?) := after.run
      (token :: tokens, error?)
termination_by scanner.rest.length
decreasing_by exact rest_length_lt_of_next ‹_› ‹_›

theorem run_of_error {scanner after : Scanner} {error : Error}
    (step : scanner.next = (.error error, after)) : scanner.run = ([], some error) := by
  rw [run]
  split
  · rename_i found _ taken
    rw [step] at taken
    cases taken
    rfl
  · rename_i token _ taken
    rw [step] at taken
    cases taken

theorem run_of_final {scanner after : Scanner} {token : Token}
    (step : scanner.next = (.ok token, after)) (final : token.kind = .endOfInput) :
    scanner.run = ([token], none) := by
  rw [run]
  split
  · rename_i found _ taken
    rw [step] at taken
    cases taken
  · rename_i found _ taken
    rw [step] at taken
    cases taken
    rw [dif_pos final]

theorem run_of_token {scanner after : Scanner} {token : Token}
    (step : scanner.next = (.ok token, after)) (notFinal : token.kind ≠ .endOfInput) :
    scanner.run = (token :: after.run.1, after.run.2) := by
  rw [run]
  split
  · rename_i found _ taken
    rw [step] at taken
    cases taken
  · rename_i found _ taken
    rw [step] at taken
    cases taken
    rw [dif_neg notFinal]

/-- All tokens of the input, the final one included, or the first error. -/
def tokenize (scanner : Scanner) : Except Error (List Token) :=
  match scanner.run with
  | (tokens, none) => .ok tokens
  | (_, some error) => .error error

theorem tokenize_eq_ok_iff {scanner : Scanner} {tokens : List Token} :
    scanner.tokenize = .ok tokens ↔ scanner.run = (tokens, none) := by
  unfold tokenize
  split
  · rename_i found ran
    rw [ran, Except.ok.injEq, Prod.mk.injEq, and_iff_left rfl]
  · rename_i found error ran
    rw [ran]
    exact ⟨nofun, nofun⟩

/-- The results of so many steps, going on after errors, each with the scanner it leaves. -/
def steps (scanner : Scanner) : Nat → List (Except Error Token × Scanner)
  | 0 => []
  | count + 1 => scanner.next :: scanner.next.2.steps count

end Scanner

end SetupScript
