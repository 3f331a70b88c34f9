import SetupScript.Proofs.Conservation
import SetupScript.Proofs.Diagnosis

/-!
# Pulling

What a compilation asks of its scanner, and when.  The tokens are pulled one by one, at places
scattered over the whole compilation, and a failure may leave some of them unread
(`Session.Pulls`).  What is pulled is all that a compilation learns of its text (`Pulls.replay`);
and it is the beginning of what the scanner yields when it is run to the end at once, with the final
token repeated at most (`Script.scanning_on_demand`).
-/

namespace SetupScript

namespace Scanner

/-! ## The answers of a scanner -/

/-- Answers given in two parts were given up to some scanner, and from there on. -/
theorem exists_answers_of_append {scanner reached : Scanner}
    {first second : List (Except Error Token)}
    (given : scanner.Answers (first ++ second) reached) :
    ∃ middle, scanner.Answers first middle ∧ middle.Answers second reached := by
  induction first generalizing scanner with
  | nil => exact ⟨scanner, .nil scanner, given⟩
  | cons answer first ih =>
    cases given with
    | cons step others =>
      obtain ⟨middle, firstGiven, secondGiven⟩ := ih others
      exact ⟨middle, .cons step firstGiven, secondGiven⟩

/-- The final token stands where the scanner stands behind it. -/
theorem eq_final_of_next_final {scanner after : Scanner} {token : Token}
    (step : scanner.next = (.ok token, after)) (final : token.kind = .endOfInput) :
    token = .final after.position := by
  have ended : scanner.skipGap.rest = [] := rest_eq_nil_of_tokenHere_final step final
  rw [next, tokenHere, ended] at step
  cases step
  rfl

/-- At the end of the text, a scanner answers the final token again and again. -/
theorem eq_replicate_of_ended {scanner reached : Scanner} {tokens : List Token}
    {ending : List (Except Error Token)} (ended : scanner.rest = [])
    (given : scanner.Answers (tokens.map .ok ++ ending) reached) :
    tokens = List.replicate tokens.length (.final scanner.position) := by
  induction tokens with
  | nil => rfl
  | cons token tokens ih =>
    cases given with
    | cons step others =>
      rw [next_of_nil ended] at step
      cases step
      exact congrArg (Token.final scanner.position :: ·) (ih others)

/-- The tokens that a scanner yields before an error are the first of its run, or all of them with
the final one repeated. -/
theorem isPrefix_or_eq_append_of_answers {scanner reached : Scanner} {tokens : List Token}
    {ending : List (Except Error Token)}
    (given : scanner.Answers (tokens.map .ok ++ ending) reached) :
    tokens <+: scanner.run.1 ∨
      ∃ final count, scanner.run.1.getLast? = some final ∧ final.kind = .endOfInput ∧
        tokens = scanner.run.1 ++ List.replicate count final := by
  induction tokens generalizing scanner with
  | nil => exact Or.inl List.nil_prefix
  | cons token tokens ih =>
    cases given with
    | @cons _ middle _ _ _ step others =>
      by_cases final : token.kind = .endOfInput
      · rw [run_of_final step final]
        have repeated := eq_replicate_of_ended (rest_eq_nil_of_next_final step final) others
        rw [← eq_final_of_next_final step final] at repeated
        exact Or.inr ⟨token, tokens.length, rfl, final, congrArg (token :: ·) repeated⟩
      · rw [run_of_token step final]
        rcases ih others with first | ⟨last, count, ends, isFinal, spelled⟩
        · exact Or.inl ((List.prefix_cons_inj token).2 first)
        · refine Or.inr ⟨last, count, ?_, isFinal, congrArg (token :: ·) spelled⟩
          rw [List.getLast?_cons, ends]
          rfl

theorem tokensAmong_map_ok (tokens : List Token) (ending : List (Except Error Token)) :
    tokensAmong (tokens.map .ok ++ ending) = tokens ++ tokensAmong ending := by
  rw [tokensAmong_append]
  congr 1
  induction tokens with
  | nil => rfl
  | cons token tokens ih => exact congrArg (token :: ·) ih

end Scanner

namespace Session

variable {Result Next : Type} {session : Session}

/-! ## What is pulled -/

/-- The session with another scanner. -/
def onScanner (session : Session) (scanner : Scanner) : Session :=
  session.withCursor { session.cursor with scanner := scanner }

/-- A step that asks nothing of the scanner: it does the same over any other one, and leaves it
alone. -/
def Quiet (step : Step Result) : Prop :=
  ∀ session scanner, step.run (session.onScanner scanner) =
    ((step.run session).1, (step.run session).2.onScanner scanner)

theorem Blind.quiet {step : Step Result} (blind : Blind step) : Quiet step := by
  intro session scanner
  have faced := blind session scanner session.cursor.previous session.cursor.current
  have left := blind.reached_eq session
  have same : (step.run session).2.facing scanner session.cursor.previous session.cursor.current =
      (step.run session).2.onScanner scanner := by
    rw [left]
    rfl
  rw [same] at faced
  exact faced

/-- What a step pulls from its scanner, one answer after the other; a failure ends it. -/
inductive Pulls : {Result : Type} → Step Result → Session → List (Except Scanner.Error Token) → Prop
  | quiet {Result : Type} {step : Step Result} (quiet : Quiet step) (session : Session) :
      Pulls step session []
  | look {Result : Type} {second : Session → Step Result} {session : Session}
      {answers : List (Except Scanner.Error Token)}
      (same : ∀ scanner, second (session.onScanner scanner) = second session)
      (pulls : Pulls (second session) session answers) :
      Pulls (Procedure.look >>= second) session answers
  | pull {answer : Cursor → Except Diagnostic Token} {session : Session} {scanner : Scanner}
      {response : Except Scanner.Error Token}
      (same : ∀ cursor scanner, answer { cursor with scanner := scanner } = answer cursor)
      (step : session.cursor.scanner.next = (response, scanner)) :
      Pulls (reading (Cursor.pull answer)) session [response]
  | failed {Result Next : Type} {first : Step Result} {second : Result → Step Next}
      {session reached : Session} {diagnostic : Diagnostic}
      {answers : List (Except Scanner.Error Token)} (pulls : Pulls first session answers)
      (ran : first.run session = (.error diagnostic, reached)) :
      Pulls (first >>= second) session answers
  | bind {Result Next : Type} {first : Step Result} {second : Result → Step Next}
      {session reached : Session} {result : Result}
      {answers more : List (Except Scanner.Error Token)} (pulls : Pulls first session answers)
      (ran : first.run session = (.ok result, reached))
      (others : Pulls (second result) reached more) :
      Pulls (first >>= second) session (answers ++ more)

namespace Pulls

variable {step : Step Result} {pulled : List (Except Scanner.Error Token)}

/-- What is pulled is what the scanner answers, up to the scanner that is left. -/
theorem answers (pulls : Pulls step session pulled) :
    session.cursor.scanner.Answers pulled (step.run session).2.cursor.scanner := by
  induction pulls with
  | @quiet _ step quiet session =>
    have kept := congrArg (fun ran => ran.2.cursor.scanner) (quiet session session.cursor.scanner)
    change (step.run session).2.cursor.scanner = session.cursor.scanner at kept
    rw [kept]
    exact .nil _
  | look same pulls ih => exact ih
  | @pull answer session scanner response same step =>
    refine .cons step ?_
    cases response with
    | ok token =>
      rw [run_reading_of (Cursor.run_pull_of_ok answer step)]
      exact .nil _
    | error error =>
      rw [run_reading_of (Cursor.run_pull_of_error answer step)]
      exact .nil _
  | failed pulls ran ih =>
    rw [ran] at ih
    rw [Procedure.run_bind_of_error ran]
    exact ih
  | bind pulls ran others ih otherIh =>
    rw [ran] at ih
    rw [Procedure.run_bind_of_ok ran]
    exact ih.append otherIh

/-- A step does the same over any scanner that gives the same answers. -/
theorem replay (pulls : Pulls step session pulled) {scanner reached : Scanner}
    (given : scanner.Answers pulled reached) :
    step.run (session.onScanner scanner) =
      ((step.run session).1, (step.run session).2.onScanner reached) := by
  induction pulls generalizing scanner reached with
  | quiet quiet session =>
    cases given
    exact quiet session scanner
  | @look _ second session answers same pulls ih =>
    show (second (session.onScanner scanner)).run (session.onScanner scanner) = _
    rw [same scanner]
    exact ih given
  | @pull answer session left response same step =>
    cases given with
    | cons otherStep others =>
      cases others
      cases response with
      | ok token =>
        rw [run_reading_of (Cursor.run_pull_of_ok answer step),
          @run_reading_of _ (session.onScanner scanner) _ _ _
            (Cursor.run_pull_of_ok answer otherStep)]
        exact Prod.ext (same session.cursor scanner) rfl
      | error error =>
        rw [run_reading_of (Cursor.run_pull_of_error answer step),
          @run_reading_of _ (session.onScanner scanner) _ _ _
            (Cursor.run_pull_of_error answer otherStep)]
        rfl
  | failed pulls ran ih =>
    have again := ih given
    rw [ran] at again
    rw [Procedure.run_bind_of_error ran, Procedure.run_bind_of_error again]
  | bind pulls ran others ih otherIh =>
    obtain ⟨middle, firstGiven, secondGiven⟩ := Scanner.exists_answers_of_append given
    have again := ih firstGiven
    rw [ran] at again
    rw [Procedure.run_bind_of_ok ran, Procedure.run_bind_of_ok again]
    exact otherIh secondGiven

/-- Only tokens are pulled, or an error behind them with which the step fails. -/
theorem unbroken_or_broken (pulls : Pulls step session pulled) :
    (∃ tokens : List Token, pulled = tokens.map .ok) ∨
      ∃ (tokens : List Token) (filename : String) (error : Scanner.Error),
        pulled = tokens.map .ok ++ [.error error] ∧
          (step.run session).1 = .error (.ofScannerError filename error) := by
  induction pulls with
  | quiet _ _ => exact Or.inl ⟨[], rfl⟩
  | look _ _ ih => exact ih
  | @pull answer session scanner response same step =>
    cases response with
    | ok token => exact Or.inl ⟨[token], rfl⟩
    | error error =>
      refine Or.inr ⟨[], session.cursor.filename, error, rfl, ?_⟩
      rw [run_reading_of (Cursor.run_pull_of_error answer step)]
  | failed pulls ran ih =>
    rw [Procedure.run_bind_of_error ran]
    rw [ran] at ih
    rcases ih with unbroken | ⟨tokens, filename, error, rfl, broken⟩
    · exact Or.inl unbroken
    · cases broken
      exact Or.inr ⟨tokens, filename, error, rfl, rfl⟩
  | bind pulls ran others ih otherIh =>
    rw [Procedure.run_bind_of_ok ran]
    rw [ran] at ih
    rcases ih with ⟨first, rfl⟩ | ⟨_, _, _, _, broken⟩
    · rcases otherIh with ⟨second, rfl⟩ | ⟨second, filename, error, rfl, broken⟩
      · exact Or.inl ⟨first ++ second, List.map_append.symm⟩
      · refine Or.inr ⟨first ++ second, filename, error, ?_, broken⟩
        rw [List.map_append, List.append_assoc]
    · cases broken

end Pulls

/-! ## What a compilation pulls -/

theorem exists_pulls_bind {first : Step Result} {second : Result → Step Next}
    (pulls : ∃ answers, Pulls first session answers)
    (others : ∀ result reached, first.run session = (.ok result, reached) →
      ∃ answers, Pulls (second result) reached answers) :
    ∃ answers, Pulls (first >>= second) session answers := by
  obtain ⟨answers, pulls⟩ := pulls
  rcases first.run_cases session with ⟨result, reached, ran⟩ | ⟨diagnostic, reached, ran⟩
  · obtain ⟨more, others⟩ := others result reached ran
    exact ⟨answers ++ more, .bind pulls ran others⟩
  · exact ⟨answers, .failed pulls ran⟩

theorem compositional_pulls :
    Compositional fun _ step session => ∃ answers, Pulls step session answers where
  bind := exists_pulls_bind
  look := fun same ⟨answers, pulls⟩ => ⟨answers, .look same pulls⟩
  blind := fun blind _ session => ⟨[], .quiet blind.quiet session⟩
  advance := fun session => ⟨[session.cursor.scanner.next.1],
    @Pulls.pull (fun cursor => .ok cursor.current) session _ _ (fun _ _ => rfl) rfl⟩
  check := fun _ _ => ⟨_, .pull (fun _ _ => rfl) rfl⟩

/-- Whatever a compilation comes to, it is known what it pulled. -/
theorem exists_pulls_of_compile (session : Session) : ∃ answers, Pulls compile session answers := by
  refine exists_pulls_bind ?_ fun _ primed _ => ?_
  · refine exists_pulls_bind ⟨[], .quiet (fun _ _ => rfl) session⟩ fun _ unprimed _ => ?_
    exact exists_pulls_bind (compositional_pulls.advance unprimed) fun _ primed _ =>
      compositional_pulls.pure () primed
  · refine compositional_pulls.script (fun kind session notClone => ?_) primed
    exact exists_pulls_bind (compositional_pulls.argument session) fun literal reached _ =>
      ⟨[], .quiet (Blind.effect notClone literal).quiet reached⟩

end Session

namespace Script

/-- A compilation pulls its tokens as it needs them.  It reports a token that cannot be read as
reading all tokens in advance does, comes to a plan only where all can be read, and in every case
has pulled the first tokens that the scanner yields, or all of them with the final one repeated. -/
theorem scanning_on_demand (text filename : String) (around : Surroundings) :
    (∀ diagnostic fault, (compile text filename around).1 = .error diagnostic →
      diagnostic.fault = .invalidToken fault →
      (Scanner.ofString text).tokenize = .error ⟨fault, diagnostic.position⟩ ∧
        diagnostic.message =
          s!"{filename}({diagnostic.position.line}:{diagnostic.position.column}) " ++
            ("found invalid token: " ++ fault.message)) ∧
    (∀ plan, (compile text filename around).1 = .ok plan →
      ∃ tokens, (Scanner.ofString text).tokenize = .ok tokens) ∧
    (∃ answers, Session.Pulls Session.compile (Session.ofText text filename around) answers) ∧
    ∀ answers, Session.Pulls Session.compile (Session.ofText text filename around) answers →
      Scanner.tokensAmong answers <+: (Scanner.ofString text).run.1 ∨
        ∃ final count, (Scanner.ofString text).run.1.getLast? = some final ∧
          final.kind = .endOfInput ∧
          Scanner.tokensAmong answers =
            (Scanner.ofString text).run.1 ++ List.replicate count final := by
  refine ⟨fun diagnostic fault failed invalid => ?_, fun plan planned => ?_,
    Session.exists_pulls_of_compile _, fun answers pulls => ?_⟩
  · rcases explains_of_compile failed with ⟨error, found, rfl⟩ | ⟨_, _, _, halts, _, rfl⟩
    · cases invalid
      refine ⟨?_, rfl⟩
      rw [Scanner.tokenize, show (Scanner.ofString text).run = (_, some error) from
        Prod.ext rfl found]
      rfl
    · exact absurd invalid (halts.fault_ne fault)
  · obtain ⟨tokens, _, _, tokenized, _⟩ := compile_eq_ok_iff.1 planned
    exact ⟨tokens, tokenized⟩
  · have given := pulls.answers
    rcases pulls.unbroken_or_broken with ⟨tokens, rfl⟩ | ⟨tokens, _, error, rfl, _⟩
    · have spelled := Scanner.tokensAmong_map_ok tokens []
      rw [List.append_nil] at spelled
      rw [← List.append_nil (tokens.map Except.ok)] at given
      rw [spelled, Scanner.tokensAmong, List.filterMap_nil, List.append_nil]
      exact Scanner.isPrefix_or_eq_append_of_answers given
    · rw [Scanner.tokensAmong_map_ok, show Scanner.tokensAmong [.error error] = [] from rfl,
        List.append_nil]
      exact Scanner.isPrefix_or_eq_append_of_answers given

/-- A stray character behind an argument is reported alike by a compilation and by reading all
tokens in advance. -/
theorem scanning_on_demand_stray :
    (compile "run \"a\" @" "f" ⟨.standard "/tmp", .empty, "/w", id⟩).1 =
        .error ⟨"f", ⟨1, 9⟩, .invalidToken (.unexpectedCharacter '@')⟩ ∧
      (Scanner.ofString "run \"a\" @").tokenize =
        .error ⟨.unexpectedCharacter '@', ⟨1, 9⟩⟩ := by
  have failed : (compile "run \"a\" @" "f" ⟨.standard "/tmp", .empty, "/w", id⟩).1 =
      .error ⟨"f", ⟨1, 9⟩, .invalidToken (.unexpectedCharacter '@')⟩ := by
    with_unfolding_all rfl
  exact ⟨failed, ((scanning_on_demand _ _ _).1 _ _ failed rfl).1⟩

end Script

end SetupScript
