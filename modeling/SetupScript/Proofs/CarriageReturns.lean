import SetupScript.Proofs.Compilation
import SetupScript.Proofs.Continuation
import SetupScript.Proofs.LineEnds

/-!
# Carriage returns

A text whose lines end with a carriage return and a line feed has the tokens of the text whose lines
end with a line feed, in the same places, and so the same plan (`Script.compile_endLines_iff`).  The
carriage return gets into a gap or, at the end of a comment, into what is trimmed; in a literal it
comes before the line feed that breaks the literal off, or behind a backslash it is no escape
either.
-/

namespace SetupScript

/-! ## Runs of characters -/

namespace Text

/-- Where a class does not tell the two characters apart, what begins with it is cut off alike. -/
theorem cut_endLines {class? : Char → Bool} (alike : class? '\r' = class? '\n')
    (text : List Char) :
    (endLines .both text).takeWhile class? = endLines .both (text.takeWhile class?) ∧
      (endLines .both text).dropWhile class? = endLines .both (text.dropWhile class?) := by
  induction text with
  | nil => exact ⟨rfl, rfl⟩
  | cons character rest ih =>
    obtain ⟨front, behind⟩ := ih
    by_cases ends : character = '\n'
    · subst ends
      cases inside : class? '\n' <;> simp [LineEnd.characters, alike, inside, front, behind]
    · cases inside : class? character <;> simp [endLines_cons_of_ne ends, inside, front, behind]

/-- Apart from the carriage return, a text begins with the character that it began with. -/
theorem head?_of_endLines {text : List Char} {first : Char} (other : first ≠ '\r')
    (begins : (endLines .both text).head? = some first) : text.head? = some first := by
  cases text with
  | nil => cases begins
  | cons character rest =>
    by_cases ends : character = '\n'
    · subst ends
      cases begins
      exact absurd rfl other
    · rw [endLines_cons_of_ne ends] at begins
      exact begins

/-- A blank at the end is trimmed. -/
theorem trim_concat {blank : Char} (isBlank : Character.isBlank blank = true)
    (text : List Char) : trim (text ++ [blank]) = trim text := by
  rw [trim, trim, trimBy, trimBy, List.dropWhile_append]
  split
  · rename_i empty
    rw [List.isEmpty_iff.1 empty, List.dropWhile_cons_of_pos isBlank]
    rfl
  · rw [trimEndBy, trimEndBy, List.reverse_append, List.reverse_singleton, List.singleton_append,
      List.dropWhile_cons_of_pos isBlank]

end Text

/-- Lines that end in this way are passed over to the same places. -/
theorem Position.advance_endLines (position : Position) (text : List Char) :
    position.advance (Text.endLines .both text) = position.advance text := by
  induction text generalizing position with
  | nil => rfl
  | cons character rest ih =>
    by_cases ends : character = '\n'
    · subst ends
      rw [Text.endLines_lineFeed_cons, advance_append, ih]
      rfl
    · rw [Text.endLines_cons_of_ne ends, advance_cons, advance_cons, ih]

/-! ## Literals -/

theorem Lexeme.Glyph.lineFeed_notMem_flatMap (glyphs : List Lexeme.Glyph) :
    '\n' ∉ glyphs.flatMap Glyph.source := by
  rw [List.mem_flatMap]
  rintro ⟨glyph, _, inside⟩
  exact glyph.lineFeed_notMem_source inside

/-- A literal is read alike up to its closing quote, and if there is none, there is none in either
text. -/
theorem Literal.read_endLines (body : List Char) :
    ((read body).ending = .closed ∧ read (Text.endLines .both body) =
        { read body with rest := Text.endLines .both (read body).rest }) ∨
      (read body).ending ≠ .closed ∧ (read (Text.endLines .both body)).ending ≠ .closed := by
  obtain ⟨glyphs, rest, rfl, stops⟩ := exists_glyphs body
  rw [Text.endLines_append, Text.endLines_eq_self (Lexeme.Glyph.lineFeed_notMem_flatMap glyphs),
    read_glyphs_append, read_glyphs_append]
  cases stops with
  | quote rest => exact Or.inl ⟨rfl, rfl⟩
  | endOfInput => exact Or.inr ⟨by simp [read], by simp [read]⟩
  | lineFeed rest =>
    refine Or.inr ⟨by simp [read], ?_⟩
    have returned := read_plain ('\n' :: Text.endLines .both rest)
      (show '\r' ≠ '"' ∧ '\r' ≠ '\\' ∧ '\r' ≠ '\n' by decide)
    simp [Text.LineEnd.characters, returned, read, precede]
  | backslash => exact Or.inr ⟨by simp [read], by simp [read, Text.endLines]⟩
  | @escape code rest unknown =>
    refine Or.inr ⟨by simp [read, unknown], ?_⟩
    rw [Text.endLines_cons_of_ne (by decide)]
    by_cases ends : code = '\n'
    · subst ends
      simp [Text.LineEnd.characters, read, unescape?]
    · simp [Text.endLines_cons_of_ne ends, read, unknown]

/-! ## One step -/

namespace Scanner

/-- A text begins with a line, behind which it ends or goes on with a line feed. -/
theorem exists_line (body : List Char) :
    ∃ line behind, body = line ++ behind ∧ '\n' ∉ line ∧ ∀ next ∈ behind.head?, next = '\n' := by
  refine ⟨body.takeWhile isCommentCharacter, body.dropWhile isCommentCharacter,
    List.takeWhile_append_dropWhile.symm, ?_, ?_⟩
  · exact fun member => absurd (List.mem_takeWhile_imp member) (by decide)
  · intro next first
    have stops := outside_dropWhile isCommentCharacter body next first
    rwa [isCommentCharacter, bne_eq_false_iff_eq] at stops

/-- A literal that is not closed is no token. -/
theorem exists_error_of_literal (scanner : Scanner) {body : List Char}
    (broken : (Literal.read body).ending ≠ .closed) :
    ∃ error after, scanner.literal body = (.error error, after) := by
  rw [literal]
  cases ending : (Literal.read body).ending with
  | closed => exact absurd ending broken
  | _ => exact ⟨_, _, rfl⟩

/-- A scanner, and one whose lines end with both characters: from the next token on, they have the
same to read, in the same place. -/
structure Mirrors (scanner mirror : Scanner) : Prop where
  alphabet : scanner.alphabet = .unicode
  mirrored : mirror.alphabet = .unicode
  rest : mirror.skipGap.rest = Text.endLines .both scanner.skipGap.rest
  position : mirror.skipGap.position = scanner.skipGap.position

/-- Scanners in the same place, in front of the same text but for its line ends. -/
theorem Mirrors.of_rest {scanner mirror : Scanner} (alphabet : scanner.alphabet = .unicode)
    (mirrored : mirror.alphabet = .unicode)
    (rest : mirror.rest = Text.endLines .both scanner.rest)
    (position : mirror.position = scanner.position) : Mirrors scanner mirror := by
  refine ⟨alphabet, mirrored, ?_, ?_⟩
  · show mirror.rest.dropWhile isGap = Text.endLines .both (scanner.rest.dropWhile isGap)
    rw [rest, (Text.cut_endLines rfl _).2]
  · show mirror.position.advance (mirror.rest.takeWhile isGap) =
      scanner.position.advance (scanner.rest.takeWhile isGap)
    rw [rest, (Text.cut_endLines rfl _).1, position, Position.advance_endLines]

/-- To pass over the same characters keeps the place the same. -/
theorem Mirrors.move {scanner mirror : Scanner} (alphabet : scanner.alphabet = .unicode)
    (mirrored : mirror.alphabet = .unicode) (position : mirror.position = scanner.position)
    (taken rest : List Char) :
    Mirrors (scanner.move taken rest) (mirror.move taken (Text.endLines .both rest)) :=
  .of_rest alphabet mirrored rfl (congrArg (Position.advance · taken) position)

/-- Scanners at the end of the same line, when the carriage return was read. -/
theorem Mirrors.of_line {scanner mirror : Scanner} {more : List Char}
    (alphabet : scanner.alphabet = .unicode) (mirrored : mirror.alphabet = .unicode)
    (here : scanner.rest = '\n' :: more) (there : mirror.rest = '\n' :: Text.endLines .both more)
    (line : mirror.position.line = scanner.position.line) : Mirrors scanner mirror := by
  have blank : ∀ character ∈ ['\n'], character ∈ Layout.gapCharacters := by
    intro character member
    obtain rfl := List.mem_singleton.1 member
    decide
  have next : Mirrors (scanner.move ['\n'] more)
      (mirror.move ['\n'] (Text.endLines .both more)) := by
    refine .of_rest alphabet mirrored rfl ?_
    show Position.mk (mirror.position.line + 1) 1 = Position.mk (scanner.position.line + 1) 1
    rw [line]
  refine ⟨alphabet, mirrored, ?_, ?_⟩
  · rw [mirror.skipGap_append_gap there blank, scanner.skipGap_append_gap here blank]
    exact next.rest
  · rw [mirror.skipGap_append_gap there blank, scanner.skipGap_append_gap here blank]
    exact next.position

/-- Two scanners read the same token and mirror each other again, or neither reads one. -/
inductive Mirrored : Except Error Token × Scanner → Except Error Token × Scanner → Prop
  | read {token : Token} {after mirror : Scanner} (mirrors : Mirrors after mirror) :
      Mirrored (.ok token, after) (.ok token, mirror)
  | unread {error other : Error} {after mirror : Scanner} :
      Mirrored (.error error, after) (.error other, mirror)

section Tokens

variable {scanner mirror : Scanner} (alphabet : scanner.alphabet = .unicode)
  (mirrored : mirror.alphabet = .unicode) (position : mirror.position = scanner.position)

include alphabet mirrored position

/-- The carriage return at the end of a comment is trimmed. -/
theorem mirrored_comment {line behind : List Char} (oneLine : '\n' ∉ line)
    (ends : ∀ next ∈ behind.head?, next = '\n')
    (here : scanner.rest = '/' :: '/' :: (line ++ behind))
    (there : mirror.rest = Text.endLines .both scanner.rest) :
    Mirrored scanner.tokenHere mirror.tokenHere := by
  have read := tokenHere_of_lexeme (alphabet ▸ Alphabet.clear_unicode)
    (.comment line oneLine) here ends
  have spelled : mirror.rest = '/' :: '/' :: (line ++ Text.endLines .both behind) := by
    rw [there, here, Text.endLines_cons_of_ne (by decide), Text.endLines_cons_of_ne (by decide),
      Text.endLines_append, Text.endLines_eq_self oneLine]
  rw [read]
  cases behind with
  | nil =>
    rw [tokenHere_of_lexeme (mirrored ▸ Alphabet.clear_unicode) (.comment line oneLine) spelled
      ends, position]
    exact .read (.move alphabet mirrored position _ [])
  | cons next more =>
    obtain rfl := ends next rfl
    have returned : '\n' ∉ line ++ ['\r'] := by simpa using oneLine
    have longer : mirror.rest =
        '/' :: '/' :: (line ++ ['\r']) ++ '\n' :: Text.endLines .both more := by
      rw [spelled]
      simp [Text.LineEnd.characters]
    have onLine : '\n' ∉ '/' :: '/' :: line := by simpa using oneLine
    have returnedOnLine : '\n' ∉ '/' :: '/' :: (line ++ ['\r']) := by simpa using returned
    rw [tokenHere_of_lexeme (mirrored ▸ Alphabet.clear_unicode)
      (.comment (line ++ ['\r']) returned) longer (by simp [Lexeme.EndsBefore]), position]
    simp only [Lexeme.text, Text.trim_concat (show Character.isBlank '\r' = true from rfl)]
    refine .read (.of_line alphabet mirrored rfl rfl ?_)
    show (mirror.position.advance _).line = (scanner.position.advance _).line
    rw [position]
    exact (Position.line_advance returnedOnLine _).trans (Position.line_advance onLine _).symm

/-- A literal is closed, or it is not. -/
theorem mirrored_literal (body : List Char) :
    Mirrored (scanner.literal body) (mirror.literal (Text.endLines .both body)) := by
  rcases Literal.read_endLines body with ⟨closed, same⟩ | ⟨broken, alsoBroken⟩
  · rw [literal, literal, same]
    simp only [closed, position]
    exact .read (.move alphabet mirrored position _ _)
  · obtain ⟨error, after, failed⟩ := exists_error_of_literal scanner broken
    obtain ⟨other, reached, alsoFailed⟩ := exists_error_of_literal mirror alsoBroken
    rw [failed, alsoFailed]
    exact .unread

/-- No word has a line end in it. -/
theorem mirrored_word (there : mirror.rest = Text.endLines .both scanner.rest) :
    Mirrored (.ok scanner.word.1, scanner.word.2) (.ok mirror.word.1, mirror.word.2) := by
  have single : '\n' ∉ scanner.rest.takeWhile scanner.alphabet.continuesWord := by
    intro member
    have continues := List.mem_takeWhile_imp member
    rw [alphabet] at continues
    cases continues
  have alike : scanner.alphabet.continuesWord '\r' = scanner.alphabet.continuesWord '\n' := by
    rw [alphabet]
    rfl
  have letters : mirror.rest.takeWhile mirror.alphabet.continuesWord =
      scanner.rest.takeWhile scanner.alphabet.continuesWord := by
    rw [there, mirrored, ← alphabet, (Text.cut_endLines alike _).1, Text.endLines_eq_self single]
  have behind : mirror.rest.dropWhile mirror.alphabet.continuesWord =
      Text.endLines .both (scanner.rest.dropWhile scanner.alphabet.continuesWord) := by
    rw [there, mirrored, ← alphabet, (Text.cut_endLines alike _).2]
  rw [word, word, letters, behind, position]
  exact .read (.move alphabet mirrored position _ _)

/-- In front of a token, both read it, or neither finds one. -/
theorem mirrored_tokenHere (there : mirror.rest = Text.endLines .both scanner.rest)
    (stops : ∀ next ∈ scanner.rest.head?, isGap next = false) :
    Mirrored scanner.tokenHere mirror.tokenHere := by
  cases here : scanner.rest with
  | nil =>
    have ended : mirror.rest = [] := by rw [there, here, Text.endLines_nil]
    simp only [tokenHere, here, ended, position]
    exact .read (.of_rest alphabet mirrored there position)
  | cons character more =>
    have inside : character ≠ '\n' := by
      rintro rfl
      rw [here] at stops
      cases stops '\n' rfl
    have spelled : mirror.rest = character :: Text.endLines .both more := by
      rw [there, here, Text.endLines_cons_of_ne inside]
    by_cases comment : character = '/' ∧ more.head? = some '/'
    · obtain ⟨rfl, second⟩ := comment
      obtain ⟨body, rfl⟩ := List.head?_eq_some_iff.1 second
      obtain ⟨line, behind, rfl, oneLine, ends⟩ := exists_line body
      exact mirrored_comment alphabet mirrored position oneLine ends here there
    · by_cases semicolon : character = ';'
      · subst semicolon
        simp only [tokenHere, here, spelled, position]
        exact .read (.move alphabet mirrored position _ _)
      · by_cases quote : character = '"'
        · subst quote
          simp only [tokenHere, here, spelled]
          exact mirrored_literal alphabet mirrored position more
        · have noComment : character = '/' → more.head? ≠ some '/' :=
            fun slash second => comment ⟨slash, second⟩
          have alsoNone : character = '/' → (Text.endLines .both more).head? ≠ some '/' :=
            fun slash second => comment ⟨slash, Text.head?_of_endLines (by decide) second⟩
          rw [tokenHere_of_other here noComment ⟨semicolon, quote⟩,
            tokenHere_of_other spelled alsoNone ⟨semicolon, quote⟩, alphabet, mirrored]
          split
          · exact mirrored_word alphabet mirrored position there
          · exact .unread

end Tokens

/-- One step of scanners that mirror each other. -/
theorem Mirrors.next {scanner mirror : Scanner} (mirrors : Mirrors scanner mirror) :
    Mirrored scanner.next mirror.next :=
  mirrored_tokenHere mirrors.alphabet mirrors.mirrored mirrors.position mirrors.rest
    (outside_dropWhile isGap scanner.rest)

/-! ## Whole texts -/

/-- Scanners that mirror each other read the same tokens, and both come to the end or neither. -/
theorem Mirrors.run {scanner mirror : Scanner} (mirrors : Mirrors scanner mirror) :
    mirror.run.1 = scanner.run.1 ∧ (mirror.run.2 = none ↔ scanner.run.2 = none) := by
  generalize measured : scanner.rest.length = measure
  induction measure using Nat.strong_induction_on generalizing scanner mirror with
  | _ measure ih =>
    subst measured
    have step := mirrors.next
    generalize took : scanner.next = outcome at step
    generalize alsoTook : mirror.next = other at step
    cases step with
    | @read token _ _ behind =>
      by_cases final : token.kind = .endOfInput
      · rw [run_of_final took final, run_of_final alsoTook final]
        exact ⟨rfl, Iff.rfl⟩
      · rw [run_of_token took final, run_of_token alsoTook final]
        obtain ⟨tokens, ends⟩ := ih _ (rest_length_lt_of_next took final) behind rfl
        exact ⟨congrArg (token :: ·) tokens, ends⟩
    | unread =>
      rw [run_of_error took, run_of_error alsoTook]
      exact ⟨rfl, iff_of_false nofun nofun⟩

/-- A text whose lines end with both characters is read to its end if the text is, and has the same
tokens. -/
theorem tokenize_endLines_iff {text : List Char} {tokens : List Token} :
    (ofList (Text.endLines .both text)).tokenize = .ok tokens ↔
      (ofList text).tokenize = .ok tokens := by
  have mirrors : Mirrors (ofList text) (ofList (Text.endLines .both text)) :=
    .of_rest rfl rfl rfl rfl
  obtain ⟨same, ends⟩ := mirrors.run
  rw [tokenize_eq_ok_iff, tokenize_eq_ok_iff, Prod.ext_iff, Prod.ext_iff]
  dsimp only
  rw [same, ends]

end Scanner

namespace Script

/-- A carriage return in front of every line feed makes no difference: the text is read to its end
exactly if it is without them, to the same tokens in the same places, and it is compiled to the same
plan. -/
theorem compile_endLines_iff (text : String) :
    (∀ tokens, (Scanner.ofString (String.ofList (Text.endLines .both text.toList))).tokenize =
        .ok tokens ↔ (Scanner.ofString text).tokenize = .ok tokens) ∧
      ∀ filename around plan,
        (compile (String.ofList (Text.endLines .both text.toList)) filename around).1 = .ok plan ↔
          (compile text filename around).1 = .ok plan := by
  have alike (tokens : List Token) :
      (Scanner.ofString (String.ofList (Text.endLines .both text.toList))).tokenize = .ok tokens ↔
        (Scanner.ofString text).tokenize = .ok tokens := by
    rw [Scanner.ofString, String.toList_ofList]
    exact Scanner.tokenize_endLines_iff
  refine ⟨alike, fun filename around plan => ?_⟩
  rw [compile_eq_ok_iff, compile_eq_ok_iff]
  simp only [alike]

/-- Where a line feed breaks a literal off, both texts fail, but not in the same place. -/
example :
    (Scanner.ofString "\"a\nb\"").tokenize = .error ⟨.lineFeedInLiteral, ⟨1, 3⟩⟩ ∧
      (Scanner.ofString "\"a\r\nb\"").tokenize = .error ⟨.lineFeedInLiteral, ⟨1, 4⟩⟩ := by
  with_unfolding_all exact ⟨rfl, rfl⟩

end Script

end SetupScript
