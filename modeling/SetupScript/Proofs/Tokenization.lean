import Mathlib.Data.List.TakeWhile
import Mathlib.Data.Set.Subsingleton
import Mathlib.Tactic.SplitIfs
import SetupScript.Bindings
import SetupScript.Proofs.Lexeme

/-!
# Tokenization

The scanner reads exactly the texts that have a layout, and its tokens are those of the layout.  One
step of the scanner passes over one gap and one lexeme (`next_of_lexeme`, `exists_lexeme_of_next`);
the whole run follows by induction on the layout in one direction (`run_of_layout`) and on the run
in the other (`exists_layout_of_run`).
-/

namespace SetupScript

/-! ## Literals -/

namespace Literal

open Lexeme (Glyph)

/-- A character that is neither a quote nor a backslash nor a line feed stands for itself. -/
theorem read_plain {character : Char} (rest : List Char)
    (ordinary : character ≠ '"' ∧ character ≠ '\\' ∧ character ≠ '\n') :
    read (character :: rest) = (read rest).precede [character] character := by
  obtain ⟨notQuote, notBackslash, notFeed⟩ := ordinary
  exact read.eq_6 character rest notQuote notFeed (fun same _ => notBackslash same)
    (fun _ _ same _ => notBackslash same)

/-- Glyphs in front of a literal are read, and then the literal. -/
theorem read_glyphs_append (glyphs : List Glyph) (rest : List Char) :
    read (glyphs.flatMap Glyph.source ++ rest) =
      ⟨glyphs.map Glyph.character ++ (read rest).text,
        glyphs.flatMap Glyph.source ++ (read rest).taken, (read rest).rest,
        (read rest).ending⟩ := by
  induction glyphs with
  | nil => rfl
  | cons glyph glyphs ih =>
    cases glyph with
    | plain character ordinary =>
      simp [Glyph.source, Glyph.character, read_plain _ ordinary, ih, precede]
    | quote => simp [Glyph.source, Glyph.character, read, unescape?, ih, precede]
    | backslash => simp [Glyph.source, Glyph.character, read, unescape?, ih, precede]
    | lineFeed => simp [Glyph.source, Glyph.character, read, unescape?, ih, precede]
    | tab => simp [Glyph.source, Glyph.character, read, unescape?, ih, precede]

/-- The glyphs of a literal are read back up to the closing quote. -/
theorem read_glyphs (glyphs : List Glyph) (rest : List Char) :
    read (glyphs.flatMap Glyph.source ++ '"' :: rest) =
      ⟨glyphs.map Glyph.character, glyphs.flatMap Glyph.source ++ ['"'], rest, .closed⟩ := by
  rw [read_glyphs_append, read, List.append_nil]

/-- The known escapes are those of the glyphs. -/
theorem exists_glyph_of_unescape? {code character : Char}
    (known : unescape? code = some character) :
    ∃ glyph : Glyph, glyph.source = ['\\', code] := by
  unfold unescape? at known
  split at known
  · exact ⟨.quote, rfl⟩
  · exact ⟨.backslash, rfl⟩
  · exact ⟨.lineFeed, rfl⟩
  · exact ⟨.tab, rfl⟩
  · cases known

/-- What stands where the glyphs of a literal end. -/
inductive Stops : List Char → Prop
  | endOfInput : Stops []
  | quote (rest : List Char) : Stops ('"' :: rest)
  | lineFeed (rest : List Char) : Stops ('\n' :: rest)
  | backslash : Stops ['\\']
  | escape {code : Char} (rest : List Char) (unknown : unescape? code = none) :
      Stops ('\\' :: code :: rest)

/-- What stands behind an opening quote begins with glyphs. -/
theorem exists_glyphs (input : List Char) :
    ∃ (glyphs : List Glyph) (rest : List Char),
      input = glyphs.flatMap Glyph.source ++ rest ∧ Stops rest := by
  fun_induction read input with
  | case1 => exact ⟨[], [], rfl, .endOfInput⟩
  | case2 rest => exact ⟨[], _, rfl, .quote rest⟩
  | case3 rest => exact ⟨[], _, rfl, .lineFeed rest⟩
  | case4 => exact ⟨[], _, rfl, .backslash⟩
  | case5 code rest character known ih =>
    obtain ⟨glyphs, behind, spelled, stops⟩ := ih
    obtain ⟨glyph, written⟩ := exists_glyph_of_unescape? known
    refine ⟨glyph :: glyphs, behind, ?_, stops⟩
    rw [List.flatMap_cons, written, List.append_assoc]
    exact congrArg ('\\' :: code :: ·) spelled
  | case6 code rest unknown => exact ⟨[], _, rfl, .escape rest unknown⟩
  | case7 character rest notQuote notFeed notLast notEscape ih =>
    obtain ⟨glyphs, behind, spelled, stops⟩ := ih
    have notBackslash : character ≠ '\\' := by
      intro same
      cases rest with
      | nil => exact notLast same rfl
      | cons code rest => exact notEscape code rest same rfl
    refine ⟨.plain character ⟨notQuote, notBackslash, notFeed⟩ :: glyphs, behind, ?_, stops⟩
    rw [List.flatMap_cons, List.append_assoc]
    exact congrArg (character :: ·) spelled

/-- A literal that could be read to its closing quote is written in glyphs. -/
theorem exists_glyphs_of_closed (input : List Char) (closed : (read input).ending = .closed) :
    ∃ glyphs : List Glyph, input = glyphs.flatMap Glyph.source ++ '"' :: (read input).rest := by
  obtain ⟨glyphs, behind, rfl, stops⟩ := exists_glyphs input
  rw [read_glyphs_append] at closed ⊢
  cases stops with
  | quote rest => exact ⟨glyphs, rfl⟩
  | escape rest unknown => simp [read, unknown] at closed
  | _ => cases closed

/-- A literal that an unknown escape breaks off is written in glyphs up to the backslash. -/
theorem exists_glyphs_of_badEscape {input : List Char} {code : Char}
    (broken : (read input).ending = .badEscape (some code)) :
    ∃ (glyphs : List Glyph) (rest : List Char), (read input).taken = glyphs.flatMap Glyph.source ∧
      input = glyphs.flatMap Glyph.source ++ '\\' :: code :: rest := by
  obtain ⟨glyphs, behind, rfl, stops⟩ := exists_glyphs input
  rw [read_glyphs_append] at broken ⊢
  cases stops with
  | escape rest unknown =>
    simp only [read, unknown] at broken ⊢
    cases broken
    exact ⟨glyphs, rest, List.append_nil _, rfl⟩
  | _ => cases broken

end Literal

namespace Scanner

/-! ## Runs of a class of characters -/

/-- A run of a class that stops in front of the class's complement is cut off exactly. -/
theorem takeWhile_run {class? : Char → Bool} {run rest : List Char}
    (inside : ∀ character ∈ run, class? character = true)
    (outside : ∀ next ∈ rest.head?, class? next = false) :
    (run ++ rest).takeWhile class? = run := by
  have kept : rest.dropWhile class? = rest := Text.dropWhile_eq_self outside
  have whole := List.takeWhile_append_dropWhile (p := class?) (l := rest)
  rw [kept, List.append_left_eq_self] at whole
  rw [List.takeWhile_append_of_pos inside, whole, List.append_nil]

theorem dropWhile_run {class? : Char → Bool} {run rest : List Char}
    (inside : ∀ character ∈ run, class? character = true)
    (outside : ∀ next ∈ rest.head?, class? next = false) :
    (run ++ rest).dropWhile class? = rest := by
  rw [List.dropWhile_append_of_pos inside, Text.dropWhile_eq_self outside]

theorem outside_dropWhile (class? : Char → Bool) (text : List Char) :
    ∀ next ∈ (text.dropWhile class?).head?, class? next = false := by
  intro next first
  have stops := List.head?_dropWhile_not class? text
  rw [Option.mem_def.1 first] at stops
  exact stops

theorem isGap_iff {character : Char} :
    isGap character = true ↔ character ∈ Layout.gapCharacters := by
  simp [isGap, Layout.gapCharacters, or_assoc]

end Scanner

/-! ## Alphabets -/

/-- No word opens with a character of gaps or with the first character of another lexeme. -/
def Alphabet.Clear (alphabet : Alphabet) : Prop :=
  ∀ character ∈ Layout.gapCharacters ++ [';', '/', '"'], alphabet.opensWord character = false

theorem Alphabet.clear_unicode : unicode.Clear := by
  intro character member
  simp only [Layout.gapCharacters, List.cons_append, List.nil_append, List.mem_cons,
    List.not_mem_nil, or_false] at member
  rcases member with rfl | rfl | rfl | rfl | rfl | rfl | rfl <;> rfl

/-! ## Lexemes -/

namespace Lexeme

variable {alphabet : Alphabet}

/-- The first character of a word is not one that opens another lexeme or stands in a gap. -/
theorem first_notMem_of_opens (clear : alphabet.Clear) {first : Char}
    (opens : alphabet.opensWord first = true) :
    first ∉ Layout.gapCharacters ++ [';', '/', '"'] := by
  intro member
  rw [clear first member] at opens
  cases opens

/-- No gap begins with a lexeme. -/
theorem isGap_head_source (clear : alphabet.Clear) (lexeme : Lexeme alphabet) (rest : List Char) :
    ∀ next ∈ (lexeme.source ++ rest).head?, Scanner.isGap next = false := by
  intro next first
  cases lexeme with
  | semicolon => cases first; rfl
  | comment body oneLine => cases first; rfl
  | literal glyphs => cases first; rfl
  | word letter more opens continues =>
    cases first
    have apart := first_notMem_of_opens clear opens
    rw [List.mem_append, not_or] at apart
    rw [← Bool.not_eq_true, Scanner.isGap_iff]
    exact apart.1

/-- The kind of a word is looked up among the keywords. -/
theorem ofWord_eq_lookup (word : String) :
    Token.Kind.ofWord word = (keywords.lookup word).getD .unknown := by
  simp only [Token.Kind.ofWord, keywords, Bindings.lookup_cons_eq_ite, List.lookup_nil]
  split_ifs <;> rfl

theorem ofWord_ne_endOfInput (word : String) : Token.Kind.ofWord word ≠ .endOfInput := by
  unfold Token.Kind.ofWord
  split_ifs <;> exact nofun

/-- No lexeme is the final token. -/
theorem kind_ne_endOfInput (lexeme : Lexeme alphabet) : lexeme.kind ≠ .endOfInput := by
  cases lexeme with
  | semicolon => exact nofun
  | comment body oneLine => exact nofun
  | literal glyphs => exact nofun
  | word first more opens continues =>
    rw [kind, ← ofWord_eq_lookup]
    exact ofWord_ne_endOfInput _

end Lexeme

/-! ## Written forms -/

namespace Lexeme

/-- No glyph begins with another one. -/
theorem Glyph.source_append_inj {first second : Glyph} {rest other : List Char}
    (same : first.source ++ rest = second.source ++ other) : first = second ∧ rest = other := by
  cases first with
  | plain character ordinary =>
    cases second with
    | plain another _ =>
      obtain ⟨rfl, rests⟩ := List.cons.inj same
      exact ⟨rfl, rests⟩
    | _ => exact absurd (List.cons.inj same).1 ordinary.2.1
  | _ =>
    cases second with
    | plain character ordinary => exact absurd (List.cons.inj same).1.symm ordinary.2.1
    | _ => simp_all [Glyph.source]

theorem Glyph.flatMap_source_inj {first second : List Glyph}
    (same : first.flatMap Glyph.source = second.flatMap Glyph.source) : first = second := by
  induction first generalizing second with
  | nil =>
    cases second with
    | nil => rfl
    | cons glyph glyphs => cases glyph <;> cases same
  | cons glyph glyphs ih =>
    cases second with
    | nil => cases glyph <;> cases same
    | cons other others =>
      obtain ⟨rfl, rests⟩ := Glyph.source_append_inj same
      rw [ih rests]

/-- Different lexemes are written differently. -/
theorem source_inj (clear : alphabet.Clear) {first second : Lexeme alphabet}
    (same : first.source = second.source) : first = second := by
  cases first with
  | semicolon =>
    cases second with
    | semicolon => rfl
    | comment body oneLine => simp [source] at same
    | literal glyphs => simp [source] at same
    | word letter more opens continues =>
      exact absurd (by simp [← (List.cons.inj same).1]) (first_notMem_of_opens clear opens)
  | comment body oneLine =>
    cases second with
    | semicolon => simp [source] at same
    | comment other _ =>
      obtain ⟨_, tails⟩ := List.cons.inj same
      obtain ⟨_, rfl⟩ := List.cons.inj tails
      rfl
    | literal glyphs => simp [source] at same
    | word letter more opens continues =>
      exact absurd (by simp [← (List.cons.inj same).1]) (first_notMem_of_opens clear opens)
  | literal glyphs =>
    cases second with
    | semicolon => simp [source] at same
    | comment body oneLine => simp [source] at same
    | literal others =>
      obtain ⟨_, tails⟩ := List.cons.inj same
      rw [Glyph.flatMap_source_inj (List.append_cancel_right tails)]
    | word letter more opens continues =>
      exact absurd (by simp [← (List.cons.inj same).1]) (first_notMem_of_opens clear opens)
  | word letter more opens continues =>
    have apart := first_notMem_of_opens clear opens
    cases second with
    | semicolon => exact absurd (by simp [(List.cons.inj same).1]) apart
    | comment body oneLine => exact absurd (by simp [(List.cons.inj same).1]) apart
    | literal glyphs => exact absurd (by simp [(List.cons.inj same).1]) apart
    | word other others _ _ =>
      obtain ⟨rfl, rfl⟩ := List.cons.inj same
      rfl

end Lexeme

/-! ## One step -/

namespace Scanner

theorem move_move (scanner : Scanner) (first second middle rest : List Char) :
    (scanner.move first middle).move second rest = scanner.move (first ++ second) rest := by
  simp only [move, List.length_append, Position.advance_append, Nat.add_assoc]

/-- Skipping passes over the gap that stands in front. -/
theorem skipGap_of_gap {scanner : Scanner} {gap text : List Char}
    (here : scanner.rest = gap ++ text)
    (blank : ∀ character ∈ gap, character ∈ Layout.gapCharacters)
    (stops : ∀ next ∈ text.head?, isGap next = false) :
    scanner.skipGap = scanner.move gap text := by
  have inside : ∀ character ∈ gap, isGap character = true :=
    fun character member => isGap_iff.2 (blank character member)
  rw [skipGap, here, takeWhile_run inside stops, dropWhile_run inside stops]

/-- A character that opens neither a comment nor a literal and is no semicolon opens a word, or
nothing. -/
theorem tokenHere_of_other {scanner : Scanner} {character : Char} {more : List Char}
    (here : scanner.rest = character :: more) (noComment : character = '/' → more.head? ≠ some '/')
    (other : character ≠ ';' ∧ character ≠ '"') :
    scanner.tokenHere =
      if scanner.alphabet.opensWord character then (.ok scanner.word.1, scanner.word.2)
      else (.error ⟨.unexpectedCharacter character, scanner.position⟩, scanner) := by
  unfold tokenHere
  split
  · rename_i ended
    rw [ended] at here
    cases here
  · rename_i body spelled
    rw [here, List.cons.injEq] at spelled
    obtain ⟨rfl, rfl⟩ := spelled
    exact absurd rfl (noComment rfl)
  · rename_i body spelled
    rw [here, List.cons.injEq] at spelled
    exact absurd spelled.1 other.1
  · rename_i body spelled
    rw [here, List.cons.injEq] at spelled
    exact absurd spelled.1 other.2
  · rename_i spelled
    rw [here, List.cons.injEq] at spelled
    rw [← spelled.1]

/-- Where a letter is at hand, a word is read. -/
theorem tokenHere_of_opens {scanner : Scanner} (clear : scanner.alphabet.Clear) {first : Char}
    {more : List Char} (here : scanner.rest = first :: more)
    (opens : scanner.alphabet.opensWord first = true) :
    scanner.tokenHere = (.ok scanner.word.1, scanner.word.2) := by
  have apart := Lexeme.first_notMem_of_opens clear opens
  have noSlash : first ≠ '/' := fun slash => apart (by simp [slash])
  have other : first ≠ ';' ∧ first ≠ '"' :=
    ⟨fun semicolon => apart (by simp [semicolon]), fun quote => apart (by simp [quote])⟩
  rw [tokenHere_of_other here (fun slash => absurd slash noSlash) other, if_pos opens]

/-- A lexeme at hand is read as its token. -/
theorem tokenHere_of_lexeme {scanner : Scanner} (clear : scanner.alphabet.Clear)
    (lexeme : Lexeme scanner.alphabet) {rest : List Char}
    (here : scanner.rest = lexeme.source ++ rest) (ends : lexeme.EndsBefore rest) :
    scanner.tokenHere =
      (.ok ⟨lexeme.kind, String.ofList lexeme.text, scanner.position⟩,
        scanner.move lexeme.source rest) := by
  cases lexeme with
  | semicolon =>
    simp only [Lexeme.source, List.singleton_append] at here
    simp only [tokenHere, here]
    rfl
  | comment body oneLine =>
    have inside : ∀ character ∈ body, isCommentCharacter character = true := by
      intro character member
      rw [isCommentCharacter, bne_iff_ne]
      rintro rfl
      exact oneLine member
    have outside : ∀ next ∈ rest.head?, isCommentCharacter next = false := by
      intro next first
      rw [ends next first]
      rfl
    simp only [Lexeme.source, List.cons_append] at here
    simp only [tokenHere, here, comment, takeWhile_run inside outside,
      dropWhile_run inside outside]
    rfl
  | literal glyphs =>
    simp only [Lexeme.source, List.cons_append, List.append_assoc] at here
    simp only [tokenHere, here, literal, List.nil_append, Literal.read_glyphs]
    rfl
  | word first more opens continues =>
    have inside : ∀ character ∈ first :: more, scanner.alphabet.continuesWord character = true := by
      intro character member
      rcases List.mem_cons.1 member with rfl | later
      · exact scanner.alphabet.continuesWord_of_opensWord opens
      · exact continues character later
    have letters : scanner.rest.takeWhile scanner.alphabet.continuesWord = first :: more := by
      rw [here]
      exact takeWhile_run inside ends
    have behind : scanner.rest.dropWhile scanner.alphabet.continuesWord = rest := by
      rw [here]
      exact dropWhile_run inside ends
    rw [tokenHere_of_opens clear here opens, word, letters, behind]
    simp only [Lexeme.ofWord_eq_lookup]
    rfl

/-- One step passes over a gap and the lexeme behind it. -/
theorem next_of_lexeme {scanner : Scanner} (clear : scanner.alphabet.Clear) {gap : List Char}
    (blank : ∀ character ∈ gap, character ∈ Layout.gapCharacters)
    (lexeme : Lexeme scanner.alphabet) {rest : List Char}
    (here : scanner.rest = gap ++ (lexeme.source ++ rest)) (ends : lexeme.EndsBefore rest) :
    scanner.next =
      (.ok ⟨lexeme.kind, String.ofList lexeme.text, scanner.position.advance gap⟩,
        scanner.move (gap ++ lexeme.source) rest) := by
  have skipped := skipGap_of_gap here blank (Lexeme.isGap_head_source clear lexeme rest)
  rw [next, skipped, ← move_move scanner gap lexeme.source (lexeme.source ++ rest) rest]
  exact @tokenHere_of_lexeme (scanner.move gap (lexeme.source ++ rest)) clear lexeme rest rfl ends

/-- In front of a last gap, the final token is read. -/
theorem next_of_gap {scanner : Scanner}
    (blank : ∀ character ∈ scanner.rest, character ∈ Layout.gapCharacters) :
    scanner.next =
      (.ok (.final (scanner.position.advance scanner.rest)), scanner.move scanner.rest []) := by
  have skipped := skipGap_of_gap (List.append_nil scanner.rest).symm blank nofun
  rw [next, skipped]
  rfl

/-- What is passed over when a token is read at hand, if it is not the final one, is a lexeme. -/
theorem exists_lexeme_of_tokenHere {scanner after : Scanner} {token : Token}
    (step : scanner.tokenHere = (.ok token, after)) (notFinal : token.kind ≠ .endOfInput) :
    ∃ lexeme : Lexeme scanner.alphabet,
      scanner.rest = lexeme.source ++ after.rest ∧ lexeme.EndsBefore after.rest := by
  unfold tokenHere at step
  split at step
  · cases step
    exact absurd rfl notFinal
  · rename_i body here
    cases step
    have oneLine : '\n' ∉ body.takeWhile isCommentCharacter :=
      fun member => absurd (List.mem_takeWhile_imp member) (by decide)
    refine ⟨.comment (body.takeWhile isCommentCharacter) oneLine, ?_, ?_⟩
    · rw [here]
      exact congrArg ('/' :: '/' :: ·) List.takeWhile_append_dropWhile.symm
    · intro next first
      have stops := outside_dropWhile isCommentCharacter body next first
      rwa [isCommentCharacter, bne_eq_false_iff_eq] at stops
  · rename_i rest here
    cases step
    exact ⟨.semicolon, here, trivial⟩
  · rename_i body here
    simp only [literal] at step
    split at step
    · rename_i closed
      cases step
      obtain ⟨glyphs, spelled⟩ := Literal.exists_glyphs_of_closed body closed
      refine ⟨.literal glyphs, ?_, trivial⟩
      rw [here, Lexeme.source, List.cons_append, List.append_assoc]
      exact congrArg ('"' :: ·) spelled
    · cases step
    · cases step
    · cases step
  · rename_i character rest _ _ _ here
    split at step
    · rename_i opens
      cases step
      have continues := scanner.alphabet.continuesWord_of_opensWord opens
      refine ⟨.word character (rest.takeWhile scanner.alphabet.continuesWord) opens
        (fun _ member => List.mem_takeWhile_imp member), ?_, ?_⟩
      · rw [here]
        show character :: rest = character :: (_ ++ (character :: rest).dropWhile _)
        rw [List.dropWhile_cons_of_pos continues, List.takeWhile_append_dropWhile]
      · exact outside_dropWhile scanner.alphabet.continuesWord scanner.rest
    · cases step

theorem alphabet_of_next {scanner after : Scanner} {outcome : Except Error Token}
    (step : scanner.next = (outcome, after)) : after.alphabet = scanner.alphabet := by
  have reached : scanner.next.2 = after := congrArg Prod.snd step
  rw [← reached, next, tokenHere]
  split
  · rfl
  · rfl
  · rfl
  · rw [literal]
    split <;> rfl
  · split <;> rfl

/-- The final token is read only at the end of the text. -/
theorem rest_eq_nil_of_tokenHere_final {scanner after : Scanner} {token : Token}
    (step : scanner.tokenHere = (.ok token, after)) (final : token.kind = .endOfInput) :
    scanner.rest = [] := by
  unfold tokenHere at step
  split at step
  · assumption
  · cases step
    cases final
  · cases step
    cases final
  · simp only [literal] at step
    split at step <;> cases step
    cases final
  · split at step <;> cases step
    exact absurd final (Lexeme.ofWord_ne_endOfInput _)

theorem takeWhile_isGap_blank (text : List Char) :
    ∀ character ∈ text.takeWhile isGap, character ∈ Layout.gapCharacters :=
  fun _ member => isGap_iff.1 (List.mem_takeWhile_imp member)

/-- What a step passes over, unless it reads the final token, is a gap and a lexeme. -/
theorem exists_lexeme_of_next {scanner after : Scanner} {token : Token}
    (step : scanner.next = (.ok token, after)) (notFinal : token.kind ≠ .endOfInput) :
    ∃ lexeme : Lexeme scanner.alphabet,
      scanner.rest = scanner.rest.takeWhile isGap ++ (lexeme.source ++ after.rest) ∧
        lexeme.EndsBefore after.rest := by
  obtain ⟨lexeme, spelled, ends⟩ := exists_lexeme_of_tokenHere step notFinal
  have whole : scanner.rest = scanner.rest.takeWhile isGap ++ scanner.skipGap.rest :=
    List.takeWhile_append_dropWhile.symm
  exact ⟨lexeme, whole.trans (congrArg (_ ++ ·) spelled), ends⟩

/-- Where a step reads the final token, nothing but a gap is left. -/
theorem blank_of_next_final {scanner after : Scanner} {token : Token}
    (step : scanner.next = (.ok token, after)) (final : token.kind = .endOfInput) :
    ∀ character ∈ scanner.rest, character ∈ Layout.gapCharacters := by
  have ended : scanner.rest.dropWhile isGap = [] := rest_eq_nil_of_tokenHere_final step final
  intro character member
  exact isGap_iff.1 (List.dropWhile_eq_nil_iff.1 ended character member)

/-! ## Whole texts -/

/-- The tokens of a laid out text are those of its layout. -/
theorem run_of_layout {alphabet : Alphabet} (clear : alphabet.Clear) (layout : Layout alphabet)
    (maximal : layout.Maximal) {scanner : Scanner} {passed : List Char}
    (same : scanner.alphabet = alphabet) (here : scanner.rest = layout.source)
    (place : scanner.position = .behind passed) :
    scanner.run = (layout.tokensBehind passed, none) := by
  induction layout generalizing scanner passed with
  | closing gap blank =>
    rw [Layout.source] at here
    subst here
    rw [run_of_final (next_of_gap blank) rfl, place, Position.advance_behind]
    rfl
  | block gap blank lexeme rest ih =>
    subst same
    have step := next_of_lexeme clear blank lexeme here maximal.1
    have moved : (scanner.move (gap ++ lexeme.source) rest.source).position =
        .behind (passed ++ (gap ++ lexeme.source)) := by
      rw [move, place, Position.advance_behind]
    have later : (scanner.move (gap ++ lexeme.source) rest.source).run =
        (rest.tokensBehind (passed ++ (gap ++ lexeme.source)), none) :=
      ih maximal.2 rfl rfl moved
    rw [run_of_token step lexeme.kind_ne_endOfInput, later, place, Position.advance_behind]
    rfl

/-- A text that is read to its end has a layout. -/
theorem exists_layout_of_run {alphabet : Alphabet} (scanner : Scanner)
    (same : scanner.alphabet = alphabet) {tokens : List Token}
    (ran : scanner.run = (tokens, none)) :
    ∃ layout : Layout alphabet, layout.Spells scanner.rest := by
  fun_induction run scanner generalizing tokens with
  | case1 => cases ran
  | case2 scanner token after step final =>
    exact ⟨.closing scanner.rest (blank_of_next_final step final), rfl, trivial⟩
  | case3 scanner token after step notFinal later error? rest ih =>
    cases ran
    obtain ⟨layout, spelled, maximal⟩ := ih ((alphabet_of_next step).trans same) rest
    subst same
    obtain ⟨lexeme, here, ends⟩ := exists_lexeme_of_next step notFinal
    rw [← spelled] at here ends
    exact ⟨.block _ (takeWhile_isGap_blank scanner.rest) lexeme layout, here.symm, ends, maximal⟩

end Scanner

/-! ## Layouts are unique -/

/-- Two lexemes that go on as far as they can in one text are the same. -/
theorem Lexeme.source_append_inj {alphabet : Alphabet} (clear : alphabet.Clear)
    {first second : Lexeme alphabet} {rest other : List Char} (ends : first.EndsBefore rest)
    (otherEnds : second.EndsBefore other)
    (same : first.source ++ rest = second.source ++ other) : first = second ∧ rest = other := by
  let scanner := Scanner.ofList (first.source ++ rest) alphabet
  have one := @Scanner.tokenHere_of_lexeme scanner clear first rest rfl ends
  have two := @Scanner.tokenHere_of_lexeme scanner clear second other same otherEnds
  have rests : rest = other := congrArg (fun outcome => outcome.2.rest) (one.symm.trans two)
  subst rests
  exact ⟨source_inj clear (List.append_cancel_right same), rfl⟩

namespace Layout

variable {alphabet : Alphabet}

/-- The gap in front of a lexeme, and the text from the lexeme on. -/
theorem takeWhile_block (clear : alphabet.Clear) {gap : List Char}
    (blank : ∀ character ∈ gap, character ∈ gapCharacters) (lexeme : Lexeme alphabet)
    (rest : List Char) :
    (gap ++ (lexeme.source ++ rest)).takeWhile Scanner.isGap = gap ∧
      (gap ++ (lexeme.source ++ rest)).dropWhile Scanner.isGap = lexeme.source ++ rest := by
  have inside : ∀ character ∈ gap, Scanner.isGap character = true :=
    fun character member => Scanner.isGap_iff.2 (blank character member)
  have stops := Lexeme.isGap_head_source clear lexeme rest
  exact ⟨Scanner.takeWhile_run inside stops, Scanner.dropWhile_run inside stops⟩

/-- A gap is no text with a lexeme in it. -/
theorem gap_ne_block (clear : alphabet.Clear) {gap other : List Char}
    (blank : ∀ character ∈ gap, character ∈ gapCharacters)
    (otherBlank : ∀ character ∈ other, character ∈ gapCharacters) (lexeme : Lexeme alphabet)
    (rest : List Char) : gap ≠ other ++ (lexeme.source ++ rest) := by
  intro same
  have all : gap.dropWhile Scanner.isGap = [] :=
    List.dropWhile_eq_nil_iff.2 fun character member =>
      Scanner.isGap_iff.2 (blank character member)
  rw [same, (takeWhile_block clear otherBlank lexeme rest).2] at all
  cases lexeme <;> cases all

/-- A text has no more than one layout. -/
theorem eq_of_source_eq (clear : alphabet.Clear) {first second : Layout alphabet}
    (maximal : first.Maximal) (otherMaximal : second.Maximal)
    (same : first.source = second.source) : first = second := by
  induction first generalizing second with
  | closing gap blank =>
    cases second with
    | closing other _ =>
      obtain rfl : gap = other := same
      rfl
    | block other otherBlank lexeme rest =>
      exact absurd same (gap_ne_block clear blank otherBlank lexeme rest.source)
  | block gap blank lexeme rest ih =>
    cases second with
    | closing other otherBlank =>
      exact absurd same.symm (gap_ne_block clear otherBlank blank lexeme rest.source)
    | block other otherBlank otherLexeme otherRest =>
      have parts := takeWhile_block clear blank lexeme rest.source
      have otherParts := takeWhile_block clear otherBlank otherLexeme otherRest.source
      rw [source, source] at same
      rw [same] at parts
      obtain rfl : other = gap := otherParts.1.symm.trans parts.1
      obtain ⟨rfl, rests⟩ := Lexeme.source_append_inj clear maximal.1 otherMaximal.1
        (parts.2.symm.trans otherParts.2)
      rw [ih maximal.2 otherMaximal.2 rests]

end Layout

/-! ## The tokens of a text -/

/-- A text is read to its end exactly if it is a sequence of lexemes and gaps, and then its tokens
are those of its lexemes; there is no other way to cut the text into lexemes and gaps. -/
theorem tokenize_eq_ok_iff_layout (text : String) :
    (∀ tokens, (Scanner.ofString text).tokenize = .ok tokens ↔
      ∃ layout : Layout .unicode, layout.Spells text.toList ∧ layout.tokens = tokens) ∧
    {layout : Layout .unicode | layout.Spells text.toList}.Subsingleton := by
  have clear := Alphabet.clear_unicode
  have read (layout : Layout .unicode) (spells : layout.Spells text.toList) :
      (Scanner.ofString text).run = (layout.tokens, none) :=
    Scanner.run_of_layout clear layout spells.2 rfl spells.1.symm rfl
  refine ⟨fun tokens => ?_, ?_⟩
  · rw [Scanner.tokenize_eq_ok_iff]
    constructor
    · intro ran
      obtain ⟨layout, spells⟩ := Scanner.exists_layout_of_run (Scanner.ofString text) rfl ran
      have tokens_eq := (read layout spells).symm.trans ran
      exact ⟨layout, spells, congrArg Prod.fst tokens_eq⟩
    · rintro ⟨layout, spells, rfl⟩
      exact read layout spells
  · intro first firstSpells second secondSpells
    exact Layout.eq_of_source_eq clear firstSpells.2 secondSpells.2
      (firstSpells.1.trans secondSpells.1.symm)

end SetupScript
