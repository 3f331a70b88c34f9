import SetupScript.Proofs.Tokenization

/-!
# Printing

How kinds and texts are written so that a scanner reads them back.  A literal is written with its
escapes, a comment behind its two slashes, all else as it stands, and every token has a line of its
own.  What is written so is read back whatever the literals hold.
-/

namespace SetupScript

/-! ## Written forms -/

/-- How a character of a literal is written: by its escape, if there is one for it. -/
def Literal.escape : Char → List Char
  | '"' => ['\\', '"']
  | '\\' => ['\\', '\\']
  | '\n' => ['\\', 'n']
  | '\t' => ['\\', 't']
  | character => [character]

namespace Token

/-- How a token of this kind and text is written. -/
def written : Kind → String → List Char
  | .string, text => '"' :: (text.toList.flatMap Literal.escape ++ ['"'])
  | .comment, text => '/' :: '/' :: text.toList
  | _, text => text.toList

/-- The kinds and texts that have a written form: the keywords, the semicolon, other words, literals
of any content, and trimmed comments of one line. -/
inductive Writable : Kind → String → Prop
  | keyword {kind : Kind} {text : String} (listed : (text, kind) ∈ Lexeme.keywords) :
      Writable kind text
  | semicolon : Writable .semicolon ";"
  | word {first : Char} {more : List Char} (opens : Alphabet.unicode.opensWord first = true)
      (continues : ∀ character ∈ more, Alphabet.unicode.continuesWord character = true)
      (other : ∀ keyword ∈ Lexeme.keywords, String.ofList (first :: more) ≠ keyword.1) :
      Writable .unknown (String.ofList (first :: more))
  | literal (text : String) : Writable .string text
  | comment {text : String} (oneLine : '\n' ∉ text.toList)
      (trimmed : Text.trim text.toList = text.toList) : Writable .comment text

/-- Kinds and texts written one to a line. -/
def lines (pairs : List (Kind × String)) : List Char :=
  pairs.flatMap fun pair => written pair.1 pair.2 ++ ['\n']

end Token

/-! ## Lexemes on a line -/

namespace Lexeme

/-- Every character can be written in a glyph. -/
theorem Glyph.exists_of_character (character : Char) :
    ∃ glyph : Glyph, glyph.character = character ∧ glyph.source = Literal.escape character := by
  unfold Literal.escape
  split
  · exact ⟨.quote, rfl, rfl⟩
  · exact ⟨.backslash, rfl, rfl⟩
  · exact ⟨.lineFeed, rfl, rfl⟩
  · exact ⟨.tab, rfl, rfl⟩
  · rename_i notQuote notBackslash notFeed _
    exact ⟨.plain character ⟨notQuote, notBackslash, notFeed⟩, rfl, rfl⟩

/-- Every text can be written in glyphs. -/
theorem Glyph.exists_of_text (text : List Char) :
    ∃ glyphs : List Glyph, glyphs.map Glyph.character = text ∧
      glyphs.flatMap Glyph.source = text.flatMap Literal.escape := by
  induction text with
  | nil => exact ⟨[], rfl, rfl⟩
  | cons character rest ih =>
    obtain ⟨glyph, stands, spelled⟩ := exists_of_character character
    obtain ⟨glyphs, standRest, spelledRest⟩ := ih
    refine ⟨glyph :: glyphs, ?_, ?_⟩
    · rw [List.map_cons, stands, standRest]
    · rw [List.flatMap_cons, List.flatMap_cons, spelled, spelledRest]

/-- No glyph is written with a line feed. -/
theorem Glyph.lineFeed_notMem_source (glyph : Glyph) : '\n' ∉ glyph.source := by
  cases glyph with
  | plain character ordinary =>
    rw [source, List.mem_singleton]
    exact Ne.symm ordinary.2.2
  | _ => decide

/-- No lexeme goes on to another line. -/
theorem lineFeed_notMem_source (lexeme : Lexeme .unicode) : '\n' ∉ lexeme.source := by
  cases lexeme with
  | semicolon => decide
  | comment body oneLine =>
    intro member
    exact oneLine (by simpa [source] using member)
  | literal glyphs =>
    intro member
    obtain ⟨glyph, _, inside⟩ : ∃ glyph ∈ glyphs, '\n' ∈ glyph.source := by
      simpa [source] using member
    exact glyph.lineFeed_notMem_source inside
  | word first more opens continues =>
    intro member
    have letter : Alphabet.unicode.continuesWord '\n' = true := by
      rcases List.mem_cons.1 member with rfl | later
      · exact Alphabet.unicode.continuesWord_of_opensWord opens
      · exact continues _ later
    cases letter

/-- Every lexeme can end in front of a line feed. -/
theorem endsBefore_lineFeed (lexeme : Lexeme .unicode) (rest : List Char) :
    lexeme.EndsBefore ('\n' :: rest) := by
  cases lexeme with
  | semicolon => trivial
  | literal glyphs => trivial
  | comment body oneLine =>
    intro next first
    cases first
    rfl
  | word first more opens continues =>
    intro next first
    cases first
    rfl

end Lexeme

/-- What has a written form is written as a lexeme of its kind and text. -/
theorem Token.Writable.exists_lexeme {kind : Kind} {text : String} (writable : Writable kind text) :
    ∃ lexeme : Lexeme .unicode, lexeme.kind = kind ∧ String.ofList lexeme.text = text ∧
      lexeme.source = written kind text := by
  cases writable with
  | keyword listed =>
    simp only [Lexeme.keywords, List.mem_cons, Prod.mk.injEq, List.not_mem_nil, or_false] at listed
    rcases listed with ⟨rfl, rfl⟩ | ⟨rfl, rfl⟩ | ⟨rfl, rfl⟩ | ⟨rfl, rfl⟩ | ⟨rfl, rfl⟩
    · exact ⟨.word 'c' ['l', 'o', 'n', 'e'] rfl (List.all_eq_true.1 rfl), rfl, rfl, rfl⟩
    · exact ⟨.word 'r' ['u', 'n'] rfl (List.all_eq_true.1 rfl), rfl, rfl, rfl⟩
    · exact ⟨.word 'e' ['x', 't', 'r', 'a', 'c', 't'] rfl (List.all_eq_true.1 rfl), rfl, rfl, rfl⟩
    · exact ⟨.word 's' ['e', 't'] rfl (List.all_eq_true.1 rfl), rfl, rfl, rfl⟩
    · exact ⟨.word 'a' ['s'] rfl (List.all_eq_true.1 rfl), rfl, rfl, rfl⟩
  | semicolon => exact ⟨.semicolon, rfl, rfl, rfl⟩
  | @word first more opens continues other =>
    have unlisted : Lexeme.keywords.lookup (String.ofList (first :: more)) = none := by
      rw [List.lookup_eq_none_iff]
      intro keyword member
      exact bne_iff_ne.2 (other keyword member)
    refine ⟨.word first more opens continues, ?_, rfl, ?_⟩
    · rw [Lexeme.kind, unlisted]
      rfl
    · exact String.toList_ofList.symm
  | literal =>
    obtain ⟨glyphs, stand, spelled⟩ := Lexeme.Glyph.exists_of_text text.toList
    refine ⟨.literal glyphs, rfl, ?_, ?_⟩
    · rw [Lexeme.text, stand, String.ofList_toList]
    · rw [Lexeme.source, spelled]
      rfl
  | comment oneLine trimmed =>
    refine ⟨.comment text.toList oneLine, rfl, ?_, rfl⟩
    rw [Lexeme.text, trimmed, String.ofList_toList]

namespace Position

/-- What has no line feed is passed over on one line. -/
theorem line_advance {passed : List Char} (oneLine : '\n' ∉ passed) (position : Position) :
    (position.advance passed).line = position.line := by
  induction passed generalizing position with
  | nil => rfl
  | cons character rest ih =>
    rw [List.mem_cons, not_or] at oneLine
    rw [advance_cons, ih oneLine.2, after, if_neg (Ne.symm oneLine.1)]

/-- Behind a line there is the first column of the next one. -/
theorem advance_line {passed : List Char} (oneLine : '\n' ∉ passed) (position : Position) :
    position.advance (passed ++ ['\n']) = ⟨position.line + 1, 1⟩ := by
  rw [advance_append, advance_cons, advance_nil, after, if_pos rfl, line_advance oneLine]

end Position

/-! ## Reading back -/

/-- Tokens of these kinds and texts, each at the start of a line, and the final one behind them. -/
def Token.onLines (line : Nat) : List (Kind × String) → List Token
  | [] => [.final ⟨line, 1⟩]
  | pair :: pairs => ⟨pair.1, pair.2, ⟨line, 1⟩⟩ :: onLines (line + 1) pairs

namespace Scanner

/-- Written lines are read back, one token from each of them. -/
theorem run_of_lines {pairs : List (Token.Kind × String)}
    (writable : ∀ pair ∈ pairs, Token.Writable pair.1 pair.2) {scanner : Scanner}
    {gap : List Char} {line : Nat} (same : scanner.alphabet = .unicode)
    (blank : ∀ character ∈ gap, character ∈ Layout.gapCharacters)
    (here : scanner.rest = gap ++ Token.lines pairs)
    (place : scanner.position.advance gap = ⟨line, 1⟩) :
    scanner.run = (Token.onLines line pairs, none) := by
  induction pairs generalizing scanner gap line with
  | nil =>
    rw [Token.lines, List.flatMap_nil, List.append_nil] at here
    subst here
    rw [run_of_final (next_of_gap blank) rfl, place]
    rfl
  | cons pair pairs ih =>
    obtain ⟨kind, text⟩ := pair
    obtain ⟨alphabet, rest, offset, position⟩ := scanner
    obtain rfl : alphabet = .unicode := same
    obtain ⟨lexeme, rfl, rfl, written⟩ := (writable _ List.mem_cons_self).exists_lexeme
    have spelled : rest = gap ++ (lexeme.source ++ '\n' :: Token.lines pairs) := by
      rw [written]
      simpa [Token.lines] using here
    have step := @next_of_lexeme ⟨.unicode, rest, offset, position⟩ Alphabet.clear_unicode gap blank
      lexeme _ spelled (lexeme.endsBefore_lineFeed _)
    have nextLine : (position.advance (gap ++ lexeme.source)).advance ['\n'] = ⟨line + 1, 1⟩ := by
      rw [← Position.advance_append, List.append_assoc, Position.advance_append, place]
      exact Position.advance_line lexeme.lineFeed_notMem_source _
    rw [run_of_token step lexeme.kind_ne_endOfInput,
      ih (fun pair member => writable pair (List.mem_cons_of_mem _ member)) rfl
        (List.forall_mem_singleton.2 (by decide)) rfl nextLine, place]
    rfl

end Scanner

/-- The tokens on lines have the given kinds and texts, and the final token is behind them. -/
theorem Token.map_onLines (line : Nat) (pairs : List (Kind × String)) :
    (onLines line pairs).map (fun token => (token.kind, token.text)) =
      pairs ++ [(.endOfInput, "")] := by
  induction pairs generalizing line with
  | nil => rfl
  | cons pair pairs ih => rw [onLines, List.map_cons, ih, List.cons_append]

/-- The tokens on lines stand at the starts of lines that follow each other. -/
theorem Token.position_onLines (line : Nat) (pairs : List (Kind × String)) :
    (onLines line pairs).map Token.position =
      (List.range' line (pairs.length + 1)).map fun line => ⟨line, 1⟩ := by
  induction pairs generalizing line with
  | nil => rfl
  | cons pair pairs ih =>
    rw [onLines, List.map_cons, ih, List.length_cons]
    rfl

/-- Kinds and texts that are written one to a line are read back exactly and in order, with the
final token behind them; each stands at the start of its line. -/
theorem tokenize_lines {pairs : List (Token.Kind × String)}
    (writable : ∀ pair ∈ pairs, Token.Writable pair.1 pair.2) :
    ∃ tokens, (Scanner.ofString (String.ofList (Token.lines pairs))).tokenize = .ok tokens ∧
      tokens.map (fun token => (token.kind, token.text)) = pairs ++ [(.endOfInput, "")] ∧
      tokens.map Token.position =
        (List.range' 1 (pairs.length + 1)).map fun line => ⟨line, 1⟩ := by
  have here : (Scanner.ofString (String.ofList (Token.lines pairs))).rest =
      [] ++ Token.lines pairs := String.toList_ofList
  have ran := Scanner.run_of_lines writable rfl (List.forall_mem_nil _) here rfl
  exact ⟨_, Scanner.tokenize_eq_ok_iff.2 ran, Token.map_onLines 1 pairs,
    Token.position_onLines 1 pairs⟩

/-- A keyword, a literal with quotes, backslashes and line ends, a word, a comment and a semicolon,
written one to a line and read back. -/
theorem tokenize_lines_mixed :
    ∃ pairs : List (Token.Kind × String),
      pairs = [(.set, "set"), (.string, "\"\\\n\t\r//$[a]\\"), (.unknown, "é-9_"),
        (.comment, "a \"b\""), (.semicolon, ";")] ∧
      String.ofList (Token.lines pairs) =
        "set\n\"\\\"\\\\\\n\\t\r//$[a]\\\\\"\né-9_\n//a \"b\"\n;\n" ∧
      (∀ pair ∈ pairs, Token.Writable pair.1 pair.2) ∧
      ∃ tokens, (Scanner.ofString (String.ofList (Token.lines pairs))).tokenize = .ok tokens ∧
        tokens.map (fun token => (token.kind, token.text)) = pairs ++ [(.endOfInput, "")] ∧
        tokens.map Token.position =
          (List.range' 1 (pairs.length + 1)).map fun line => ⟨line, 1⟩ := by
  have writable : ∀ pair ∈ [(Token.Kind.set, "set"), (.string, "\"\\\n\t\r//$[a]\\"),
      (.unknown, "é-9_"), (.comment, "a \"b\""), (.semicolon, ";")],
      Token.Writable pair.1 pair.2 := by
    simp only [List.forall_mem_cons]
    exact ⟨.keyword (by decide), .literal _,
      @Token.Writable.word 'é' ['-', '9', '_'] rfl (List.all_eq_true.1 rfl) (by decide),
      .comment (by decide) rfl, .semicolon, List.forall_mem_nil _⟩
  exact ⟨_, rfl, rfl, writable, tokenize_lines writable⟩

end SetupScript
