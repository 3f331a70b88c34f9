import SetupScript.Proofs.Relocation

/-!
# Single lines

A diagnostic is printed on one line, with one exception.  Wordings show a character of the script in
its quoted form, which never holds a line feed, except for the code of an unknown escape: a literal
that a backslash in front of a line feed breaks off is reported with the line feed as it is
(`Script.lineFeed_notMem_message_iff`).
-/

namespace SetupScript

/-! ## Quoted text -/

namespace Text

/-- No digit is a line feed. -/
theorem lineFeed_notMem_toDigits {base : Nat} (large : 1 < base) (number : Nat) :
    '\n' ∉ Nat.toDigits base number := by
  have apart : ∀ digit, '\n' ≠ Nat.digitChar digit :=
    fun digit => (Nat.digitChar_ne '\n' (by decide)).symm
  induction number using Nat.strongRecOn with
  | ind number ih =>
    rw [Nat.toDigits_eq_if large]
    split
    · rw [List.mem_singleton]
      exact apart number
    · rename_i more
      have smaller : number / base < number := Nat.div_lt_self (by omega) large
      rw [List.mem_append, not_or, List.mem_singleton]
      exact ⟨ih _ smaller, apart _⟩

theorem lineFeed_notMem_hexadecimal (width number : Nat) : '\n' ∉ hexadecimal width number := by
  intro member
  rcases List.mem_append.1 member with zeros | digits
  · exact absurd (List.eq_of_mem_replicate zeros) (by decide)
  · exact lineFeed_notMem_toDigits (by decide) number digits

theorem lineFeed_notMem_codePointEscape (character : Char) : '\n' ∉ codePointEscape character := by
  have digits := lineFeed_notMem_hexadecimal
  unfold codePointEscape
  dsimp only
  split
  · simp [digits]
  · split
    · simp [digits]
    · simp [digits]

/-- A line feed is shown as an escape. -/
theorem lineFeed_notMem_quotedCharacter {quote : Char} (notFeed : quote ≠ '\n') (character : Char) :
    '\n' ∉ quotedCharacter quote character := by
  unfold quotedCharacter
  split
  · rename_i escaped
    have apart : character ≠ '\n' := by
      rintro rfl
      rcases escaped with same | same
      · exact notFeed same.symm
      · cases same
    simp [apart.symm]
  · split
    · simp
    · split
      · simp
      · split
        · simp
        · rename_i notFeed _ _
          split
          · simpa using Ne.symm notFeed
          · exact lineFeed_notMem_codePointEscape character

/-- A quoted text is on one line, whatever it holds. -/
theorem lineFeed_notMem_quoted (text : List Char) : '\n' ∉ quoted text := by
  have notFeed : surroundingQuote text ≠ '\n' := by
    unfold surroundingQuote
    split <;> decide
  intro member
  simp only [quoted, List.cons_append, List.mem_cons, List.mem_append, List.mem_flatMap,
    List.not_mem_nil, or_false] at member
  rcases member with opening | ⟨character, _, shown⟩ | closing
  · exact notFeed opening.symm
  · exact lineFeed_notMem_quotedCharacter notFeed character shown
  · exact notFeed closing.symm

theorem mem_toList_append {first second : String} {character : Char} :
    character ∈ (first ++ second).toList ↔
      character ∈ first.toList ∨ character ∈ second.toList := by
  rw [String.toList_append, List.mem_append]

theorem lineFeed_notMem_toString (number : Nat) : '\n' ∉ (toString number).toList := by
  rw [Nat.toString_eq_ofList_toDigits, String.toList_ofList]
  exact lineFeed_notMem_toDigits (by decide) number

end Text

/-! ## Wordings -/

/-- Only the wording of an escape before a line feed takes two lines. -/
theorem Scanner.Fault.lineFeed_mem_message_iff (fault : Scanner.Fault) :
    '\n' ∈ fault.message.toList ↔ fault = .badEscape (some '\n') := by
  cases fault with
  | unterminatedLiteral => exact iff_of_false (by decide +kernel) nofun
  | lineFeedInLiteral => exact iff_of_false (by decide +kernel) nofun
  | badEscape code =>
    have opening : '\n' ∉ "invalid escape sequence '\\".toList := by decide +kernel
    have closing : '\n' ∉ "'".toList := by decide +kernel
    have shown : '\n' ∈ (String.ofList code.toList).toList ↔
        badEscape code = badEscape (some '\n') := by
      rw [String.toList_ofList, Option.mem_toList, badEscape.injEq]
    rw [← shown]
    exact Text.mem_toList_append.trans ((or_iff_left closing).trans
      (Text.mem_toList_append.trans (or_iff_right opening)))
  | unexpectedCharacter character =>
    have opening : '\n' ∉ "unexpected character ".toList := by decide +kernel
    have quoted := Text.lineFeed_notMem_quoted [character]
    refine iff_of_false (fun member => ?_) nofun
    rcases Text.mem_toList_append.1 member with first | shown
    · exact opening first
    · rw [String.toList_ofList] at shown
      exact quoted shown

namespace Diagnostic

theorem lineFeed_notMem_name (kind : Token.Kind) : '\n' ∉ kind.name.toList := by
  cases kind <;> decide +kernel

theorem Fault.lineFeed_mem_message_iff (fault : Fault) :
    '\n' ∈ fault.message.toList ↔ fault = .invalidToken (.badEscape (some '\n')) := by
  cases fault with
  | invalidToken fault =>
    have opening : '\n' ∉ "found invalid token: ".toList := by decide +kernel
    rw [invalidToken.injEq, ← fault.lineFeed_mem_message_iff]
    exact Text.mem_toList_append.trans (or_iff_right opening)
  | unexpectedToken expected actual =>
    have opening : '\n' ∉ "expected token ".toList := by decide +kernel
    have between : '\n' ∉ ", got ".toList := by decide +kernel
    refine iff_of_false (fun member => ?_) nofun
    rcases Text.mem_toList_append.1 member with front | second
    · rcases Text.mem_toList_append.1 front with front | comma
      · rcases Text.mem_toList_append.1 front with start | first
        · exact opening start
        · exact lineFeed_notMem_name expected first
      · exact between comma
    · exact lineFeed_notMem_name actual second
  | argumentCount form count =>
    refine iff_of_false (fun member => ?_) nofun
    cases form with
    | spaced =>
      have opening : '\n' ∉ "expected two arguments but got ".toList := by decide +kernel
      rcases Text.mem_toList_append.1 member with start | counted
      · exact opening start
      · exact Text.lineFeed_notMem_toString count counted
    | assignment =>
      have opening : '\n' ∉ "expected two arguments separated by '=' but got ".toList := by
        decide +kernel
      rcases Text.mem_toList_append.1 member with start | counted
      · exact opening start
      · exact Text.lineFeed_notMem_toString count counted

/-- A diagnostic takes one line exactly if its name and its wording do. -/
theorem lineFeed_mem_message_iff {diagnostic : Diagnostic}
    (oneLine : '\n' ∉ diagnostic.filename.toList) :
    '\n' ∈ diagnostic.message.toList ↔
      diagnostic.fault = .invalidToken (.badEscape (some '\n')) := by
  have line := Text.lineFeed_notMem_toString diagnostic.position.line
  have column := Text.lineFeed_notMem_toString diagnostic.position.column
  have place : '\n' ∉ (s!"{diagnostic.filename}({diagnostic.position.line}:{
      diagnostic.position.column}) ").toList := by
    simp only [Text.mem_toList_append, not_or]
    exact ⟨⟨⟨⟨⟨oneLine, by decide⟩, line⟩, by decide⟩, column⟩, by decide⟩
  rw [message, Text.mem_toList_append, or_iff_right place]
  exact diagnostic.fault.lineFeed_mem_message_iff

end Diagnostic

/-! ## Texts that are not read to their end -/

namespace Layout

variable {alphabet : Alphabet}

/-- Every lexeme goes on as far as it can in a text that goes on with `rest`. -/
def MaximalBefore (rest : List Char) : Layout alphabet → Prop
  | closing _ _ => True
  | block _ _ lexeme more => lexeme.EndsBefore (more.source ++ rest) ∧ more.MaximalBefore rest

/-- The tokens of the lexemes of a layout behind the text `passed`. -/
def leadingBehind (passed : List Char) : Layout alphabet → List Token
  | closing _ _ => []
  | block gap _ lexeme rest =>
    ⟨lexeme.kind, String.ofList lexeme.text, .behind (passed ++ gap)⟩ ::
      rest.leadingBehind (passed ++ (gap ++ lexeme.source))

/-- The tokens of a layout are those of its lexemes and the final one. -/
theorem tokensBehind_eq (layout : Layout alphabet) (passed : List Char) :
    layout.tokensBehind passed =
      layout.leadingBehind passed ++ [.final (.behind (passed ++ layout.source))] := by
  induction layout generalizing passed with
  | closing gap blank => rfl
  | block gap blank lexeme rest ih =>
    rw [tokensBehind, leadingBehind, ih, List.cons_append, source]
    simp only [List.append_assoc]

/-- The tokens of the lexemes come before everything that stands behind them. -/
theorem before_of_mem_leadingBehind {layout : Layout alphabet} {passed : List Char} {token : Token}
    (member : token ∈ layout.leadingBehind passed) {more : List Char} (nonempty : more ≠ []) :
    token.position.Before (.behind (passed ++ layout.source ++ more)) := by
  have increasing := layout.tokensBehind_pairwise passed
  rw [tokensBehind_eq, List.pairwise_append] at increasing
  have before := increasing.2.2 token member _ List.mem_cons_self
  exact before.trans (Position.behind_before _ nonempty)

end Layout

namespace Scanner

/-- Where the lexemes of a layout are followed by something that is no token, their tokens are read
and then the error is met. -/
theorem run_of_leading {alphabet : Alphabet} (clear : alphabet.Clear) (layout : Layout alphabet)
    {scanner stopped : Scanner} {passed rest : List Char} {error : Error}
    (maximal : layout.MaximalBefore rest) (same : scanner.alphabet = alphabet)
    (here : scanner.rest = layout.source ++ rest) (place : scanner.position = .behind passed)
    (stops : ∀ next ∈ rest.head?, isGap next = false)
    (unread : (scanner.move layout.source rest).tokenHere = (.error error, stopped)) :
    scanner.run = (layout.leadingBehind passed, some error) := by
  induction layout generalizing scanner passed with
  | closing gap blank =>
    have step : scanner.next = (.error error, stopped) := by
      rw [next, skipGap_of_gap here blank stops]
      exact unread
    exact run_of_error step
  | block gap blank lexeme more ih =>
    subst same
    rw [Layout.source, List.append_assoc, List.append_assoc] at here
    have step := next_of_lexeme clear blank lexeme here maximal.1
    have moved : (scanner.move (gap ++ lexeme.source) (more.source ++ rest)).position =
        .behind (passed ++ (gap ++ lexeme.source)) := by
      rw [move, place, Position.advance_behind]
    have later : (scanner.move (gap ++ lexeme.source) (more.source ++ rest)).run =
        (more.leadingBehind (passed ++ (gap ++ lexeme.source)), some error) := by
      refine ih maximal.2 rfl rfl moved ?_
      rw [move_move, List.append_assoc]
      exact unread
    rw [run_of_token step lexeme.kind_ne_endOfInput, later, place, Position.advance_behind]
    rfl

/-- A text that is not read to its end begins with a layout, behind which the error is met. -/
theorem exists_leading_of_run {alphabet : Alphabet} (clear : alphabet.Clear) (scanner : Scanner)
    (same : scanner.alphabet = alphabet) {tokens : List Token} {error : Error}
    (ran : scanner.run = (tokens, some error)) :
    ∃ (layout : Layout alphabet) (rest : List Char), scanner.rest = layout.source ++ rest ∧
      layout.MaximalBefore rest ∧ (scanner.move layout.source rest).tokenHere.1 = .error error := by
  fun_induction run scanner generalizing tokens with
  | case1 scanner found after step =>
    cases ran
    refine ⟨.closing _ (takeWhile_isGap_blank scanner.rest), scanner.rest.dropWhile isGap,
      List.takeWhile_append_dropWhile.symm, trivial, ?_⟩
    exact congrArg Prod.fst step
  | case2 => cases ran
  | case3 scanner token after step notFinal later error? rest ih =>
    cases ran
    obtain ⟨layout, more, spelled, maximal, unread⟩ := ih ((alphabet_of_next step).trans same) rest
    subst same
    obtain ⟨lexeme, here, ends⟩ := exists_lexeme_of_next step notFinal
    have blank := takeWhile_isGap_blank scanner.rest
    have moved := next_of_lexeme clear blank lexeme here ends
    rw [step, Prod.mk.injEq] at moved
    rw [spelled] at here ends
    refine ⟨.block _ blank lexeme layout, more, ?_, ⟨ends, maximal⟩, ?_⟩
    · rw [Layout.source, List.append_assoc, List.append_assoc]
      exact here
    · rw [moved.2, move_move] at unread
      rw [Layout.source, ← List.append_assoc]
      exact unread

/-- An unknown escape is met in a literal, and reported at its backslash. -/
theorem exists_body_of_badEscape {scanner : Scanner} {error : Error} {code : Option Char}
    (unread : scanner.tokenHere.1 = .error error) (fault : error.fault = .badEscape code) :
    ∃ body, scanner.rest = '"' :: body ∧ (Literal.read body).ending = .badEscape code ∧
      error.position = scanner.position.advance ('"' :: (Literal.read body).taken) := by
  unfold tokenHere at unread
  split at unread
  · cases unread
  · cases unread
  · cases unread
  · rename_i body here
    simp only [literal] at unread
    split at unread
    · cases unread
    · cases unread
      cases fault
    · cases unread
      cases fault
    · rename_i found ending
      cases unread
      cases fault
      exact ⟨body, here, ending, rfl⟩
  · split at unread
    · cases unread
    · cases unread
      cases fault

/-- Where a literal is broken off by an unknown escape, no token is read. -/
theorem exists_tokenHere_of_badEscape {scanner : Scanner} {glyphs : List Lexeme.Glyph} {code : Char}
    {rest : List Char} (unknown : Literal.unescape? code = none)
    (here : scanner.rest = '"' :: (glyphs.flatMap Lexeme.Glyph.source ++ '\\' :: code :: rest)) :
    ∃ stopped, scanner.tokenHere =
      (.error ⟨.badEscape (some code),
        scanner.position.advance ('"' :: glyphs.flatMap Lexeme.Glyph.source)⟩, stopped) := by
  have read : Literal.read (glyphs.flatMap Lexeme.Glyph.source ++ '\\' :: code :: rest) =
      ⟨glyphs.map Lexeme.Glyph.character, glyphs.flatMap Lexeme.Glyph.source, '\\' :: code :: rest,
        .badEscape (some code)⟩ := by
    rw [Literal.read_glyphs_append]
    simp only [Literal.read, unknown, List.append_nil]
  simp only [tokenHere, here, literal, read]
  exact ⟨_, rfl⟩

end Scanner

/-! ## Diagnostics on two lines -/

namespace Script

/-- In a text that can be read up to a literal, a backslash in front of a line feed breaks the literal
off.  Indexed by what stands in front of the backslash. -/
inductive BrokenAt (text : List Char) : List Char → Prop
  | literal (layout : Layout .unicode) (glyphs : List Lexeme.Glyph) (rest : List Char)
      (spelled : text = layout.source ++
        '"' :: (glyphs.flatMap Lexeme.Glyph.source ++ '\\' :: '\n' :: rest))
      (maximal : layout.MaximalBefore
        ('"' :: (glyphs.flatMap Lexeme.Glyph.source ++ '\\' :: '\n' :: rest))) :
      BrokenAt text (layout.source ++ '"' :: glyphs.flatMap Lexeme.Glyph.source)

/-- The scanner stops at the backslash. -/
theorem BrokenAt.exists_run {text before : List Char} (broken : BrokenAt text before) :
    ∃ tokens, (Scanner.ofList text).run =
        (tokens, some ⟨.badEscape (some '\n'), .behind before⟩) ∧
      ∀ token ∈ tokens, token.position.Before (.behind before) := by
  cases broken with
  | literal layout glyphs rest spelled maximal =>
    obtain ⟨stopped, unread⟩ := @Scanner.exists_tokenHere_of_badEscape
      ((Scanner.ofList text).move layout.source
        ('"' :: (glyphs.flatMap Lexeme.Glyph.source ++ '\\' :: '\n' :: rest)))
      glyphs '\n' rest rfl rfl
    have place : ((Scanner.ofList text).move layout.source
        ('"' :: (glyphs.flatMap Lexeme.Glyph.source ++ '\\' :: '\n' :: rest))).position =
          .behind layout.source :=
      Position.advance_behind [] layout.source
    rw [place, Position.advance_behind] at unread
    have stops : ∀ next ∈ List.head?
        ('"' :: (glyphs.flatMap Lexeme.Glyph.source ++ '\\' :: '\n' :: rest)),
          Scanner.isGap next = false := by
      rintro next first
      cases first
      rfl
    refine ⟨layout.leadingBehind [], ?_, fun token member => ?_⟩
    · exact Scanner.run_of_leading Alphabet.clear_unicode layout maximal rfl spelled rfl stops unread
    · exact Layout.before_of_mem_leadingBehind member (List.cons_ne_nil _ _)

/-- The scanner stops at such a backslash only. -/
theorem exists_brokenAt_of_run {text : List Char} {error : Scanner.Error}
    (found : (Scanner.ofList text).run.2 = some error) (fault : error.fault = .badEscape (some '\n')) :
    ∃ before, BrokenAt text before ∧ error.position = .behind before := by
  obtain ⟨layout, rest, spelled, maximal, unread⟩ := Scanner.exists_leading_of_run
    Alphabet.clear_unicode (Scanner.ofList text) rfl (Prod.ext rfl found)
  obtain ⟨body, here, broken, position⟩ := Scanner.exists_body_of_badEscape unread fault
  obtain ⟨glyphs, behind, taken, rfl⟩ := Literal.exists_glyphs_of_badEscape broken
  obtain rfl : rest = _ := here
  refine ⟨_, .literal layout glyphs behind spelled maximal, ?_⟩
  have place : ((Scanner.ofList text).move layout.source
      ('"' :: (glyphs.flatMap Lexeme.Glyph.source ++ '\\' :: '\n' :: behind))).position =
        .behind layout.source :=
    Position.advance_behind [] layout.source
  rw [position, taken, place, Position.advance_behind]

/-- A diagnostic is printed on one line, unless it stands at a backslash that breaks a literal off in
front of a line feed. -/
theorem lineFeed_notMem_message_iff {text filename : String} {around : Surroundings}
    {diagnostic : Diagnostic} (oneLine : '\n' ∉ filename.toList)
    (failed : (compile text filename around).1 = .error diagnostic) :
    '\n' ∉ diagnostic.message.toList ↔
      ∀ before, BrokenAt text.toList before → diagnostic.position ≠ .behind before := by
  rcases explains_of_compile failed with
    ⟨error, found, rfl⟩ | ⟨index, token, fault, halts, atIndex, rfl⟩
  · have two : '\n' ∈ (Diagnostic.ofScannerError filename error).message.toList ↔
        error.fault = .badEscape (some '\n') := by
      rw [Diagnostic.lineFeed_mem_message_iff oneLine]
      exact ⟨Diagnostic.Fault.invalidToken.inj, congrArg _⟩
    rw [two]
    constructor
    · intro fits before broken _
      obtain ⟨tokens, ran, _⟩ := broken.exists_run
      rw [Scanner.ofString, ran, Option.some.injEq] at found
      exact fits (congrArg Scanner.Error.fault found.symm)
    · intro apart fault
      obtain ⟨before, broken, position⟩ := exists_brokenAt_of_run found fault
      exact apart before broken position
  · rw [Diagnostic.lineFeed_mem_message_iff oneLine]
    refine iff_of_true (halts.fault_ne _) fun before broken position => ?_
    obtain ⟨tokens, ran, earlier⟩ := broken.exists_run
    rw [Scanner.ofString, ran] at atIndex
    have member : token ∈ tokens := List.mem_of_mem_filter (List.mem_of_getElem? atIndex)
    have strictly := earlier token member
    rw [show token.position = .behind before from position] at strictly
    exact Position.not_before_self _ strictly

/-- A literal that holds a line feed. -/
theorem lineFeed_notMem_message_iff_literal :
    ∃ diagnostic,
      (compile "run \"a\n\"" "f" ⟨.standard "/tmp", .empty, "/w", id⟩).1 = .error diagnostic ∧
      ('\n' ∉ diagnostic.message.toList ↔
        ∀ before, BrokenAt "run \"a\n\"".toList before →
          diagnostic.position ≠ .behind before) := by
  have failed : (compile "run \"a\n\"" "f" ⟨.standard "/tmp", .empty, "/w", id⟩).1 =
      .error ⟨"f", ⟨1, 7⟩, .invalidToken .lineFeedInLiteral⟩ := by
    with_unfolding_all rfl
  exact ⟨_, failed, lineFeed_notMem_message_iff (by decide) failed⟩

/-- A literal that a backslash in front of a line feed breaks off. -/
theorem exists_lineFeed_mem_message :
    ¬ ∀ (text filename : String) (around : Surroundings) (diagnostic : Diagnostic),
      '\n' ∉ filename.toList → (compile text filename around).1 = .error diagnostic →
        '\n' ∉ diagnostic.message.toList := by
  intro single
  have failed : (compile "run \"a\\\n\"" "f" ⟨.standard "/tmp", .empty, "/w", id⟩).1 =
      .error ⟨"f", ⟨1, 7⟩, .invalidToken (.badEscape (some '\n'))⟩ := by
    with_unfolding_all rfl
  have oneLine : '\n' ∉ "f".toList := by decide
  have fault : '\n' ∈ (Diagnostic.message
      ⟨"f", ⟨1, 7⟩, .invalidToken (.badEscape (some '\n'))⟩).toList :=
    (Diagnostic.lineFeed_mem_message_iff oneLine).2 rfl
  exact single _ _ _ _ oneLine failed fault

end Script

end SetupScript
