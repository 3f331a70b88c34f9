import SetupScript.Proofs.Blame
import SetupScript.Proofs.Printing

/-!
# Continuation

What becomes of a session when its text goes on behind a line feed.  As long as the shorter text has
tokens, both texts are handled in the same way; the first token of the second text only comes into
view when the shorter one is at its end.  `Session.Follows` says this of one step, and it holds of
every step of a compilation.
-/

namespace SetupScript

/-! ## Scanning on -/

/-- What a lexeme ends in front of may go on behind a line feed. -/
theorem Lexeme.EndsBefore.append {lexeme : Lexeme .unicode} {rest : List Char}
    (ends : lexeme.EndsBefore rest) (text : List Char) :
    lexeme.EndsBefore (rest ++ '\n' :: text) := by
  cases rest with
  | nil => exact lexeme.endsBefore_lineFeed text
  | cons next rest => cases lexeme <;> exact ends

namespace Scanner

/-- The scanner of a text that goes on. -/
def extend (scanner : Scanner) (more : List Char) : Scanner :=
  { scanner with rest := scanner.rest ++ more }

/-- A token that is not the final one is read in the same way when the text goes on behind a line
feed. -/
theorem next_extend {scanner after : Scanner} {token : Token}
    (unicode : scanner.alphabet = .unicode) (step : scanner.next = (.ok token, after))
    (notFinal : token.kind ≠ .endOfInput) (text : List Char) :
    (scanner.extend ('\n' :: text)).next = (.ok token, after.extend ('\n' :: text)) := by
  obtain ⟨alphabet, rest, offset, position⟩ := scanner
  obtain rfl : alphabet = .unicode := unicode
  obtain ⟨lexeme, spelled, ends⟩ := exists_lexeme_of_next step notFinal
  have blank := takeWhile_isGap_blank rest
  rw [next_of_lexeme Alphabet.clear_unicode blank lexeme spelled ends, Prod.mk.injEq,
    Except.ok.injEq] at step
  obtain ⟨rfl, moved⟩ := step
  have longer : rest ++ '\n' :: text =
      rest.takeWhile isGap ++ (lexeme.source ++ (after.rest ++ '\n' :: text)) := by
    have whole := congrArg (· ++ '\n' :: text) spelled
    simpa only [List.append_assoc] using whole
  rw [@next_of_lexeme (extend ⟨.unicode, rest, offset, position⟩ ('\n' :: text))
    Alphabet.clear_unicode _ blank lexeme _ longer (ends.append text)]
  exact congrArg (fun reached => (_, extend reached ('\n' :: text))) moved

/-- Skipping a gap goes on behind what of it was passed over before. -/
theorem skipGap_append_gap (scanner : Scanner) {gap text : List Char}
    (here : scanner.rest = gap ++ text)
    (blank : ∀ character ∈ gap, character ∈ Layout.gapCharacters) :
    scanner.skipGap = (scanner.move gap text).skipGap := by
  have inside : ∀ character ∈ gap, isGap character = true :=
    fun character member => isGap_iff.2 (blank character member)
  rw [skipGap, skipGap, here, List.takeWhile_append_of_pos inside,
    List.dropWhile_append_of_pos inside]
  exact (move_move scanner gap _ _ _).symm

/-- A gap that stands in front makes no difference but in the place. -/
theorem next_append_gap (scanner : Scanner) {gap text : List Char}
    (here : scanner.rest = gap ++ text)
    (blank : ∀ character ∈ gap, character ∈ Layout.gapCharacters) :
    scanner.next = (scanner.move gap text).next := by
  rw [next, next, skipGap_append_gap scanner here blank]

/-- What keeps a token from being read, if anything does. -/
def fault? (outcome : Except Error Token) : Option Fault :=
  match outcome with
  | .ok _ => none
  | .error error => some error.fault

theorem fault?_literal (scanner other : Scanner) (body : List Char) :
    fault? (other.literal body).1 = fault? (scanner.literal body).1 := by
  unfold literal
  dsimp only
  cases (Literal.read body).ending <;> rfl

theorem fault?_tokenHere {scanner other : Scanner} (alphabet : other.alphabet = scanner.alphabet)
    (rest : other.rest = scanner.rest) :
    fault? other.tokenHere.1 = fault? scanner.tokenHere.1 := by
  unfold tokenHere
  rw [rest, alphabet]
  split
  · rfl
  · rfl
  · rfl
  · exact fault?_literal _ _ _
  · split
    · rfl
    · rfl

/-- Whether a token can be read, and why not, does not hang on the place. -/
theorem fault?_next {scanner other : Scanner} (alphabet : other.alphabet = scanner.alphabet)
    (rest : other.rest = scanner.rest) : fault? other.next.1 = fault? scanner.next.1 :=
  fault?_tokenHere alphabet (congrArg (List.dropWhile isGap) rest)

/-- Where the shorter text is at its end, the longer one goes on with the first token of the second
text. -/
theorem fault?_next_extend {scanner after : Scanner} {token : Token}
    (unicode : scanner.alphabet = .unicode) (step : scanner.next = (.ok token, after))
    (final : token.kind = .endOfInput) (text : List Char) :
    fault? (scanner.extend ('\n' :: text)).next.1 = fault? (ofList text).next.1 := by
  have here : (scanner.extend ('\n' :: text)).rest = (scanner.rest ++ ['\n']) ++ text :=
    List.append_cons _ _ _
  have blank : ∀ character ∈ scanner.rest ++ ['\n'], character ∈ Layout.gapCharacters := by
    intro character member
    rcases List.mem_append.1 member with inside | last
    · exact blank_of_next_final step final character inside
    · obtain rfl := List.mem_singleton.1 last
      decide
  rw [next_append_gap _ here blank]
  exact fault?_next unicode rfl

end Scanner

/-! ## Cursors -/

namespace Cursor

/-- The cursor of a text that goes on behind a line feed. -/
def extend (cursor : Cursor) (text : List Char) : Cursor :=
  { cursor with scanner := cursor.scanner.extend ('\n' :: text) }

/-- A cursor that has looked at the first token. -/
structure Ready (cursor : Cursor) : Prop where
  alphabet : cursor.scanner.alphabet = .unicode
  settled : cursor.Settled

end Cursor

/-! ## Comparing runs -/

namespace Session

/-- The session of a text that goes on behind a line feed. -/
def extend (session : Session) (text : List Char) : Session :=
  session.withCursor (session.cursor.extend text)

@[simp]
theorem cursor_extend (session : Session) (text : List Char) :
    (session.extend text).cursor = session.cursor.extend text := rfl

variable {Result Next : Type} {text : List Char} {session : Session}

/-- How the outcome at the end of a text compares with that on a text that goes on: they are the
same, with the first token of the second text in view, unless that token cannot be read. -/
inductive Borders (text : List Char) :
    Except Diagnostic Result × Session → Except Diagnostic Result × Session → Prop
  | seen {outcome : Except Diagnostic Result} {reached : Session} (scanner : Scanner)
      (token : Token) (readable : Scanner.fault? (Scanner.ofList text).next.1 = none) :
      Borders text (outcome, reached)
        (outcome, reached.facing scanner reached.cursor.previous token)
  | unreadable {outcome : Except Diagnostic Result × Session} {fault : Scanner.Fault}
      {reported : Diagnostic} {other : Session}
      (unreadable : Scanner.fault? (Scanner.ofList text).next.1 = some fault)
      (reports : reported.fault = .invalidToken fault) :
      Borders text outcome (.error reported, other)

/-- How the outcome on a text compares with that on a text that goes on: they are the same while
there are tokens; at the end of the shorter text, a result says nothing of the longer text, and a
decisive diagnostic may have to give way. -/
inductive Meets (text : List Char) :
    Except Diagnostic Result × Session → Except Diagnostic Result × Session → Prop
  | together {outcome : Except Diagnostic Result} {reached : Session}
      (notFinal : reached.cursor.current.kind ≠ .endOfInput) :
      Meets text (outcome, reached) (outcome, reached.extend text)
  | beyond {result : Result} {reached : Session} {other : Except Diagnostic Result × Session}
      (final : reached.cursor.current.kind = .endOfInput) : Meets text (.ok result, reached) other
  | undecided {diagnostic : Diagnostic} {reached : Session}
      {other : Except Diagnostic Result × Session} (undecided : ¬ diagnostic.Decisive) :
      Meets text (.error diagnostic, reached) other
  | decided {diagnostic : Diagnostic} {reached : Session}
      {other : Except Diagnostic Result × Session}
      (final : reached.cursor.current.kind = .endOfInput)
      (borders : Borders text (.error diagnostic, reached) other) :
      Meets text (.error diagnostic, reached) other

/-- What cannot be read is reported before anything that would be done next. -/
theorem Borders.bind_of_error {first : Step Result} {diagnostic : Diagnostic}
    {reached extended : Session}
    (borders : Borders text (.error diagnostic, reached) (first.run extended))
    (second : Result → Step Next) :
    Borders text (.error diagnostic, reached) ((first >>= second).run extended) := by
  generalize ran : first.run extended = other at borders
  cases borders with
  | seen scanner token readable =>
    rw [Procedure.run_bind_of_error ran]
    exact .seen scanner token readable
  | unreadable unreadable reports =>
    rw [Procedure.run_bind_of_error ran]
    exact .unreadable unreadable reports

/-- A failure ends both runs, whatever would be done next. -/
theorem Meets.bind_of_error {first : Step Result} {diagnostic : Diagnostic}
    {reached extended : Session}
    (met : Meets text (.error diagnostic, reached) (first.run extended))
    (second : Result → Step Next) :
    Meets text (.error diagnostic, reached) ((first >>= second).run extended) := by
  generalize ran : first.run extended = other at met
  cases met with
  | together notFinal =>
    rw [Procedure.run_bind_of_error ran]
    exact .together notFinal
  | undecided undecided => exact .undecided undecided
  | decided final borders =>
    rw [← ran] at borders
    exact .decided final (borders.bind_of_error second)

/-- A step does the same when the text goes on, as long as there are tokens.  At the end of the text
it stays there, and makes no decision. -/
structure Follows (text : List Char) (step : Step Result) (session : Session) : Prop where
  meets : session.cursor.current.kind ≠ .endOfInput →
    Meets text (step.run session) (step.run (session.extend text))
  ready : ∀ result reached, step.run session = (.ok result, reached) → reached.cursor.Ready
  rests : session.cursor.current.kind = .endOfInput →
    (step.run session).2.cursor.current.kind = .endOfInput ∧
      ∀ diagnostic, (step.run session).1 = .error diagnostic → ¬ diagnostic.Decisive

namespace Follows

/-- At the end of the text, nothing is promised of the longer one. -/
theorem beyond_of_rests {step : Step Result} (follows : Follows text step session)
    (final : session.cursor.current.kind = .endOfInput)
    (other : Except Diagnostic Result × Session) : Meets text (step.run session) other := by
  obtain ⟨stays, undecided⟩ := follows.rests final
  rcases step.run_cases session with ⟨result, reached, ran⟩ | ⟨diagnostic, reached, ran⟩
  · rw [ran] at stays ⊢
    exact .beyond stays
  · rw [ran] at undecided ⊢
    exact .undecided (undecided diagnostic rfl)

/-- One step behind another. -/
theorem bind {first : Step Result} {second : Result → Step Next}
    (follows : Follows text first session)
    (others : ∀ result reached, first.run session = (.ok result, reached) → reached.cursor.Ready →
      Follows text (second result) reached) :
    Follows text (first >>= second) session := by
  rcases first.run_cases session with ⟨result, reached, ran⟩ | ⟨diagnostic, reached, ran⟩
  · have after := others result reached ran (follows.ready result reached ran)
    have whole := @Procedure.run_bind_of_ok _ _ _ _ _ second _ _ _ ran
    refine ⟨fun notFinal => ?_, whole ▸ after.ready, fun final => ?_⟩
    · have met := follows.meets notFinal
      rw [ran] at met
      rw [whole]
      generalize extended : first.run (session.extend text) = other at met
      cases met with
      | together goesOn =>
        rw [Procedure.run_bind_of_ok extended]
        exact after.meets goesOn
      | beyond ended => exact after.beyond_of_rests ended _
    · have stays := (follows.rests final).1
      rw [ran] at stays
      rw [whole]
      exact after.rests stays
  · have whole := @Procedure.run_bind_of_error _ _ _ _ _ second _ _ _ ran
    refine ⟨fun notFinal => ?_, whole ▸ nofun, fun final => ?_⟩
    · have met := follows.meets notFinal
      rw [ran] at met
      rw [whole]
      exact met.bind_of_error second
    · obtain ⟨stays, undecided⟩ := follows.rests final
      rw [ran] at stays undecided
      rw [whole]
      refine ⟨stays, fun other failed => ?_⟩
      cases failed
      exact undecided diagnostic rfl

end Follows

end Session

end SetupScript
