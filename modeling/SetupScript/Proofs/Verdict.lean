import SetupScript.Proofs.Continuation

/-!
# Verdicts

Whether the diagnostic of a text is still reported when the text goes on behind a line feed.  What a
compilation does behind the first token follows (`Session.follows_script`), so the longer text is
handled in the same way up to the diagnostic.  The token that is blamed there has been replaced by
the next one before it was checked; if it was the last of the text, this is the first token of what
was added.
-/

namespace SetupScript

namespace Session

variable {Result Next : Type} {text : List Char} {session : Session}

/-! ## Parts -/

section Pull

variable {answer : Cursor → Except Diagnostic Token}

/-- At the end of the shorter text, what is pulled from the longer one is the first token of the
second text. -/
theorem borders_pull (same : ∀ cursor, answer (cursor.extend text) = answer cursor)
    {token : Token} {scanner : Scanner} (ready : session.cursor.Ready)
    (found : session.cursor.scanner.next = (.ok token, scanner))
    (final : token.kind = .endOfInput) :
    Borders text ((reading (Cursor.pull answer)).run session)
      ((reading (Cursor.pull answer)).run (session.extend text)) := by
  have fault := Scanner.fault?_next_extend ready.alphabet found final text
  rw [run_reading_of (Cursor.run_pull_of_ok answer found)]
  rcases beyond : (session.cursor.extend text).scanner.next with ⟨error | next, after⟩
  · rw [show (session.cursor.scanner.extend ('\n' :: text)).next = _ from beyond] at fault
    rw [@run_reading_of _ (session.extend text) _ _ _ (Cursor.run_pull_of_error answer beyond)]
    exact .unreadable fault.symm rfl
  · rw [show (session.cursor.scanner.extend ('\n' :: text)).next = _ from beyond] at fault
    rw [@run_reading_of _ (session.extend text) _ _ _ (Cursor.run_pull_of_ok answer beyond),
      cursor_extend, same]
    exact .seen after next fault.symm

theorem follows_pull (same : ∀ cursor, answer (cursor.extend text) = answer cursor)
    (undecided : ∀ cursor diagnostic, cursor.current.kind = .endOfInput →
      answer cursor = .error diagnostic → ¬ diagnostic.Decisive)
    (ready : session.cursor.Ready) : Follows text (reading (Cursor.pull answer)) session := by
  rcases found : session.cursor.scanner.next with ⟨error | token, scanner⟩
  · have ran := run_reading_of (Cursor.run_pull_of_error answer found)
    refine ⟨fun notFinal => ?_, fun result reached step => ?_, fun final => ?_⟩
    · rw [ran]
      exact .undecided id
    · rw [ran] at step
      cases step
    · rw [Scanner.next_of_nil (ready.settled final)] at found
      cases found
  · have ran := run_reading_of (Cursor.run_pull_of_ok answer found)
    refine ⟨fun notFinal => ?_, fun result reached step => ?_, fun final => ?_⟩
    · rw [ran]
      by_cases last : token.kind = .endOfInput
      · have borders := borders_pull same ready found last
        rw [ran] at borders
        rcases answered : answer session.cursor with diagnostic | result
        · rw [answered] at borders
          exact .decided last borders
        · exact .beyond last
      · have beyond := Scanner.next_extend ready.alphabet found last text
        have pulled := @run_reading_of _ (session.extend text) _ _ _
          (Cursor.run_pull_of_ok answer beyond)
        rw [cursor_extend, same] at pulled
        rw [pulled]
        exact .together last
    · rw [ran, Prod.mk.injEq] at step
      obtain ⟨_, rfl⟩ := step
      exact ⟨(Scanner.alphabet_of_next found).trans ready.alphabet, Cursor.settled_of_next found⟩
    · rw [Scanner.next_of_nil (ready.settled final)] at found
      cases found
      rw [ran]
      exact ⟨rfl, fun diagnostic => undecided session.cursor diagnostic final⟩

theorem follows_advance (ready : session.cursor.Ready) :
    Follows text (reading Cursor.advance) session :=
  @follows_pull _ _ (fun cursor => .ok cursor.current) (fun _ => rfl) (fun _ _ _ => nofun) ready

theorem follows_check (kind : Token.Kind) (ready : session.cursor.Ready) :
    Follows text (reading (Cursor.pull (Cursor.checked kind))) session := by
  refine follows_pull (fun _ => rfl) (fun cursor diagnostic final failed => ?_) ready
  rw [Cursor.checked] at failed
  split at failed
  · cases failed
  · cases failed
    exact fun decisive => decisive final

end Pull

/-- A blind step does the same when the text goes on. -/
theorem Blind.run_extend {step : Step Result} (blind : Blind step) (session : Session)
    (text : List Char) :
    step.run (session.extend text) = ((step.run session).1, (step.run session).2.extend text) := by
  have same := blind session (session.cursor.scanner.extend ('\n' :: text))
    session.cursor.previous session.cursor.current
  have reached := congrArg (Session.extend · text) (blind.reached_eq session)
  exact same.trans (congrArg (Prod.mk _) reached.symm)

theorem Blind.ready {step : Step Result} (blind : Blind step) (ready : session.cursor.Ready) :
    (step.run session).2.cursor.Ready := by
  have scanner := blind.scanner_eq session
  refine ⟨(congrArg Scanner.alphabet scanner).trans ready.alphabet, fun final => ?_⟩
  rw [blind.current_eq session] at final
  exact (congrArg Scanner.rest scanner).trans (ready.settled final)

/-- A blind step follows if it decides nothing at the end of the text. -/
theorem Blind.follows {step : Step Result} (blind : Blind step)
    (undecided : session.cursor.current.kind = .endOfInput →
      ∀ diagnostic, (step.run session).1 = .error diagnostic → ¬ diagnostic.Decisive)
    (ready : session.cursor.Ready) : Follows text step session := by
  have current := blind.current_eq session
  refine ⟨fun notFinal => ?_, fun result after ran => ?_, fun final => ⟨?_, undecided final⟩⟩
  · rw [blind.run_extend session text]
    exact .together (current ▸ notFinal)
  · have reached := blind.ready ready
    rw [ran] at reached
    exact reached
  · rw [current]
    exact final

/-- A look at the session, the scanner apart. -/
theorem follows_look {second : Session → Step Result}
    (same : ∀ scanner,
      second (session.facing scanner session.cursor.previous session.cursor.current) =
        second session)
    (follows : Follows text (second session) session) :
    Follows text (Procedure.look >>= second) session := by
  refine ⟨fun notFinal => ?_, follows.ready, follows.rests⟩
  have extended : (Procedure.look >>= second).run (session.extend text) =
      (second (session.extend text)).run (session.extend text) := rfl
  rw [extended, show second (session.extend text) = second session from same _]
  exact follows.meets notFinal

/-- All that is made of the parts follows. -/
theorem compositional_follows (text : List Char) :
    Compositional fun _ step session => session.cursor.Ready → Follows text step session where
  bind := fun first others ready => (first ready).bind fun result reached ran reachedReady =>
    others result reached ran reachedReady
  look := fun same second ready => follows_look same (second ready)
  blind := fun blind succeeds session =>
    blind.follows fun _ diagnostic failed => absurd failed (succeeds session diagnostic)
  advance := fun _ ready => follows_advance ready
  check := fun kind _ ready => follows_check kind ready

/-! ## Arguments -/

/-- A step that gives a result at the end of the text has pulled the final token, and the longer
text shows the first token of the second text instead. -/
def Delivers (text : List Char) (step : Step Result) (session : Session) : Prop :=
  ∀ result reached, step.run session = (.ok result, reached) →
    reached.cursor.current.kind = .endOfInput →
    session.cursor.current.kind ≠ .endOfInput ∧
      Borders text (step.run session) (step.run (session.extend text))

theorem Delivers.bind {first : Step Result} {second : Result → Step Next}
    (follows : Follows text first session)
    (others : ∀ result reached, reached.cursor.Ready → Delivers text (second result) reached) :
    Delivers text (first >>= second) session := by
  intro value last step final
  obtain ⟨result, reached, ran, rest⟩ := Procedure.run_bind_eq_ok_iff.1 step
  obtain ⟨goesOn, borders⟩ :=
    others result reached (follows.ready result reached ran) value last rest final
  have notFinal : session.cursor.current.kind ≠ .endOfInput := by
    intro ended
    have stays := (follows.rests ended).1
    rw [ran] at stays
    exact goesOn stays
  have met := follows.meets notFinal
  rw [ran] at met
  generalize extended : first.run (session.extend text) = other at met
  cases met with
  | together _ =>
    rw [Procedure.run_bind_of_ok ran, Procedure.run_bind_of_ok extended]
    exact ⟨notFinal, borders⟩
  | beyond ended => exact absurd ended goesOn

/-- Insisting on a kind other than that of the final token delivers. -/
theorem delivers_check {kind : Token.Kind} (notFinal : kind ≠ .endOfInput)
    (ready : session.cursor.Ready) :
    Delivers text (reading (Cursor.pull (Cursor.checked kind))) session := by
  intro result reached step final
  rcases found : session.cursor.scanner.next with ⟨error | token, scanner⟩
  · rw [run_reading_of (Cursor.run_pull_of_error _ found)] at step
    cases step
  · rw [run_reading_of (Cursor.run_pull_of_ok _ found), Prod.mk.injEq] at step
    obtain ⟨answered, rfl⟩ := step
    refine ⟨fun ended => ?_, borders_pull (fun _ => rfl) ready found final⟩
    rw [Cursor.checked, if_neg (ended ▸ notFinal.symm)] at answered
    cases answered

theorem delivers_expect {kind : Token.Kind} (notFinal : kind ≠ .endOfInput)
    (ready : session.cursor.Ready) : Delivers text (reading (Cursor.expect kind)) session := by
  rw [Cursor.expect_eq_pull, reading_bind]
  exact .bind ((compositional_follows text).skipComments session ready) fun _ _ reachedReady =>
    delivers_check notFinal reachedReady

theorem delivers_argument (ready : session.cursor.Ready) : Delivers text argument session := by
  rw [argument_eq]
  exact .bind (follows_advance ready) fun _ _ reachedReady => delivers_expect nofun reachedReady

/-- The argument of a declaration and what is made of it, if that does not look ahead. -/
theorem follows_argument {second : Token → Step Result} (blind : ∀ literal, Blind (second literal))
    (ready : session.cursor.Ready) : Follows text (argument >>= second) session := by
  have follows := (compositional_follows text).argument session ready
  by_cases ends : ∃ literal reached, argument.run session = (.ok literal, reached) ∧
      reached.cursor.current.kind = .endOfInput
  · obtain ⟨literal, reached, ran, final⟩ := ends
    obtain ⟨notFinal, borders⟩ := delivers_argument ready literal reached ran final
    have stays := (blind literal).current_eq reached
    have reachedReady := (blind literal).ready (follows.ready literal reached ran)
    have whole := @Procedure.run_bind_of_ok _ _ _ _ _ second _ _ _ ran
    refine ⟨fun _ => ?_, fun result last step => ?_, fun ended => absurd ended notFinal⟩
    · rw [whole]
      rw [ran] at borders
      rcases made : (second literal).run reached with ⟨diagnostic | result, last⟩
      · rw [made] at stays
        refine .decided (stays ▸ final) ?_
        generalize extended : argument.run (session.extend text) = other at borders
        cases borders with
        | seen scanner token readable =>
          have previous := (blind literal).previous_eq reached
          rw [made] at previous
          rw [Procedure.run_bind_of_ok extended, blind literal reached scanner _ token, made,
            ← previous]
          exact .seen scanner token readable
        | unreadable unreadable reports =>
          rw [Procedure.run_bind_of_error extended]
          exact .unreadable unreadable reports
      · rw [made] at stays
        exact .beyond (stays ▸ final)
    · rw [whole] at step
      rw [step] at reachedReady
      exact reachedReady
  · refine follows.bind fun literal reached ran reachedReady =>
      (blind literal).follows (fun final => ?_) reachedReady
    exact absurd ⟨literal, reached, ran, final⟩ ends

theorem follows_script (ready : session.cursor.Ready) : Follows text script session :=
  (compositional_follows text).script
    (fun _ _ notClone => follows_argument (Blind.effect notClone)) session ready

end Session

/-! ## Whole texts -/

/-- Nothing but the final token is ahead of a cursor that has it at hand. -/
theorem Cursor.map_kind_ahead_iff (cursor : Cursor) :
    cursor.ahead.1.map Token.kind = [.endOfInput] ↔ cursor.current.kind = .endOfInput := by
  by_cases final : cursor.current.kind = .endOfInput
  · rw [ahead, if_pos final]
    simp only [List.map_cons, List.map_nil, final]
  · rw [ahead_of_notFinal final, List.map_cons]
    exact ⟨fun same => (List.cons.inj same).1, fun ended => absurd ended final⟩

namespace Script

variable {text filename : String} {around : Surroundings}

theorem ofText_append (text more filename : String) (around : Surroundings) :
    Session.ofText (text ++ "\n" ++ more) filename around =
      (Session.ofText text filename around).extend more.toList := by
  have scanner : Scanner.ofString (text ++ "\n" ++ more) =
      (Scanner.ofString text).extend ('\n' :: more.toList) := by
    simp [Scanner.ofString, Scanner.ofList, Scanner.extend]
  rw [Session.ofText, scanner]
  rfl

/-- Where a compilation fails with a decisive diagnostic, there is a first token. -/
theorem exists_script_of_decisive {diagnostic : Diagnostic} {after : Session}
    (failed : Session.compile.run (Session.ofText text filename around) =
      (.error diagnostic, after)) (decisive : diagnostic.Decisive) :
    ∃ token scanner, (Scanner.ofString text).next = (.ok token, scanner) ∧
      Session.script.run ((Session.ofText text filename around).inFront scanner token) =
        (.error diagnostic, after) := by
  rw [Session.compile_eq] at failed
  rcases found : (Scanner.ofString text).next with ⟨error | token, scanner⟩
  · have primed := @Session.run_prime_of_error (Session.ofText text filename around) _ _ found
    rw [Procedure.run_bind_of_error primed] at failed
    cases failed
    cases decisive
  · have primed := @Session.run_prime_of_ok (Session.ofText text filename around) _ _ found
    rw [Procedure.run_bind_of_ok primed] at failed
    exact ⟨token, scanner, rfl, failed⟩

/-- A decisive diagnostic stands at a token of the text, and the tokens behind that one are those
that were still ahead. -/
theorem exists_blamed {diagnostic : Diagnostic} {after : Session}
    (failed : Session.compile.run (Session.ofText text filename around) =
      (.error diagnostic, after)) (decisive : diagnostic.Decisive) :
    ∃ passed blamed, (Scanner.ofString text).run.1 = passed ++ blamed :: after.cursor.ahead.1 ∧
      blamed.position = diagnostic.position := by
  obtain ⟨token, scanner, found, ran⟩ := exists_script_of_decisive failed decisive
  generalize started : (Session.ofText text filename around).inFront scanner token = session at ran
  have first : (Scanner.ofString text).next =
      (.ok session.cursor.current, session.cursor.scanner) := by
    rw [← started]
    exact found
  have along : session.cursor.Along (session.cursor.previous :: (Scanner.ofString text).run.1) :=
    Or.inl ⟨[], by rw [Cursor.ahead_of_next first, List.nil_append]⟩
  have blames := Session.blames_script (Cursor.settled_of_next first) along
  obtain ⟨reachedAlong, notFinal, position⟩ := blames.blamed diagnostic after ran decisive
  have none : session.cursor.previous = .final .origin := by
    rw [← started]
    rfl
  rw [none] at reachedAlong
  rcases reachedAlong with ⟨passed, spelled⟩ | ⟨final, _⟩
  · cases passed with
    | nil =>
      obtain ⟨final, _⟩ := List.cons.inj spelled
      exact absurd (congrArg Token.kind final).symm notFinal
    | cons first passed =>
      exact ⟨passed, after.cursor.previous, (List.cons.inj spelled).2, position.symm⟩
  · exact absurd final notFinal

/-- How a compilation that fails with a decisive diagnostic compares with that of a text that goes
on. -/
theorem meets_of_decisive {diagnostic : Diagnostic} {after : Session}
    (failed : Session.compile.run (Session.ofText text filename around) =
      (.error diagnostic, after)) (decisive : diagnostic.Decisive) (more : String) :
    Session.Meets more.toList (.error diagnostic, after)
      (Session.compile.run (Session.ofText (text ++ "\n" ++ more) filename around)) := by
  obtain ⟨token, scanner, found, ran⟩ := exists_script_of_decisive failed decisive
  have ready : ((Session.ofText text filename around).inFront scanner token).cursor.Ready :=
    ⟨Scanner.alphabet_of_next found, Cursor.settled_of_next found⟩
  have follows := @Session.follows_script more.toList _ ready
  by_cases final : token.kind = .endOfInput
  · obtain ⟨_, undecided⟩ := follows.rests final
    exact absurd decisive (undecided diagnostic (congrArg Prod.fst ran))
  · have beyond := Scanner.next_extend rfl found final more.toList
    have primed := @Session.run_prime_of_ok
      ((Session.ofText text filename around).extend more.toList) _ _ beyond
    rw [ofText_append, Session.compile_eq, Procedure.run_bind_of_ok primed, ← ran]
    exact follows.meets final

/-- A decisive diagnostic of a text stands at one of its tokens.  It is the diagnostic of every text
that goes on behind a line feed, unless nothing but the final token stands behind the blamed one and
the first token of what is added cannot be read; then this is what is reported. -/
theorem error_append_iff {diagnostic : Diagnostic}
    (failed : (compile text filename around).1 = .error diagnostic)
    (decisive : diagnostic.Decisive) :
    ∃ passed blamed rest, (Scanner.ofString text).run.1 = passed ++ blamed :: rest ∧
      blamed.position = diagnostic.position ∧
      ∀ more, ((compile (text ++ "\n" ++ more) filename around).1 = .error diagnostic ↔
          ¬ (rest.map Token.kind = [.endOfInput] ∧
            ∃ error, (Scanner.ofString more).next.1 = .error error)) ∧
        ∀ error, rest.map Token.kind = [.endOfInput] →
          (Scanner.ofString more).next.1 = .error error →
          ∃ reported, (compile (text ++ "\n" ++ more) filename around).1 = .error reported ∧
            reported.fault = .invalidToken error.fault := by
  have ran : Session.compile.run (Session.ofText text filename around) =
      (.error diagnostic, _) := Prod.ext failed rfl
  obtain ⟨passed, blamed, spelled, position⟩ := exists_blamed ran decisive
  refine ⟨passed, blamed, _, spelled, position, fun more => ?_⟩
  have met := meets_of_decisive ran decisive more
  have outcome : (compile (text ++ "\n" ++ more) filename around).1 =
      (Session.compile.run (Session.ofText (text ++ "\n" ++ more) filename around)).1 := rfl
  have same : Scanner.ofString more = Scanner.ofList more.toList := rfl
  rw [outcome, same, Cursor.map_kind_ahead_iff]
  generalize Session.compile.run (Session.ofText (text ++ "\n" ++ more) filename around) = other
    at met
  cases met with
  | together notFinal =>
    exact ⟨⟨fun _ both => notFinal both.1, fun _ => rfl⟩,
      fun _ final _ => absurd final notFinal⟩
  | undecided undecided => exact absurd decisive undecided
  | decided final borders =>
    cases borders with
    | seen scanner token readable =>
      have none : ∀ error, (Scanner.ofList more.toList).next.1 ≠ .error error := by
        intro error unreadable
        rw [unreadable] at readable
        cases readable
      exact ⟨⟨fun _ both => both.2.elim none, fun _ => rfl⟩,
        fun error _ unreadable => absurd unreadable (none error)⟩
    | @unreadable _ fault reported last unreadable reports =>
      rcases found : (Scanner.ofList more.toList).next.1 with error | token
      · rw [found] at unreadable
        obtain rfl : error.fault = fault := Option.some.inj unreadable
        refine ⟨⟨fun again => ?_, fun holds => absurd ⟨final, error, rfl⟩ holds⟩, ?_⟩
        · cases again
          rw [Diagnostic.Decisive, reports] at decisive
          exact decisive.elim
        · rintro _ _ unreadable
          cases unreadable
          exact ⟨reported, rfl, reports⟩
      · rw [found] at unreadable
        cases unreadable

/-- A semicolon in place of an argument, with a comment behind it: whatever follows, the semicolon
is to blame. -/
theorem error_append_iff_comment :
    (compile "run ; // c" "f" ⟨.standard "/tmp", .empty, "/w", id⟩).1 =
        .error ⟨"f", ⟨1, 5⟩, .unexpectedToken .string .semicolon⟩ ∧
      ∀ more, (compile ("run ; // c" ++ "\n" ++ more) "f" ⟨.standard "/tmp", .empty, "/w", id⟩).1 =
        .error ⟨"f", ⟨1, 5⟩, .unexpectedToken .string .semicolon⟩ := by
  have failed : (compile "run ; // c" "f" ⟨.standard "/tmp", .empty, "/w", id⟩).1 =
      .error ⟨"f", ⟨1, 5⟩, .unexpectedToken .string .semicolon⟩ := by
    with_unfolding_all rfl
  have tokens : (Scanner.ofString "run ; // c").run.1 =
      [⟨.run, "run", ⟨1, 1⟩⟩, ⟨.semicolon, ";", ⟨1, 5⟩⟩, ⟨.comment, "c", ⟨1, 7⟩⟩,
        .final ⟨1, 11⟩] := by
    with_unfolding_all rfl
  obtain ⟨passed, blamed, rest, spelled, position, unchanged⟩ := error_append_iff failed nofun
  refine ⟨failed, fun more => (unchanged more).1.2 ?_⟩
  rintro ⟨last, _⟩
  obtain ⟨final, rfl, _⟩ := List.map_eq_singleton_iff.1 last
  have reversed := congrArg List.reverse (tokens.symm.trans spelled)
  rw [List.reverse_append] at reversed
  obtain ⟨_, reversed⟩ := List.cons.inj reversed
  obtain ⟨rfl, _⟩ := List.cons.inj reversed
  cases position

/-- A decisive diagnostic may change: where a semicolon stands in place of an argument, a character
on the next line that opens no token is reported instead. -/
theorem exists_error_append_ne :
    ¬ ∀ (text more filename : String) (around : Surroundings) (diagnostic : Diagnostic),
      (compile text filename around).1 = .error diagnostic → diagnostic.Decisive →
        (compile (text ++ "\n" ++ more) filename around).1 = .error diagnostic := by
  intro stable
  have failed : (compile "run ;" "f" ⟨.standard "/tmp", .empty, "/w", id⟩).1 =
      .error ⟨"f", ⟨1, 5⟩, .unexpectedToken .string .semicolon⟩ := by
    with_unfolding_all rfl
  have changed : (compile ("run ;" ++ "\n" ++ "@") "f" ⟨.standard "/tmp", .empty, "/w", id⟩).1 =
      .error ⟨"f", ⟨2, 1⟩, .invalidToken (.unexpectedCharacter '@')⟩ := by
    with_unfolding_all rfl
  have again := stable "run ;" "@" "f" ⟨.standard "/tmp", .empty, "/w", id⟩ _ failed nofun
  rw [changed] at again
  cases again

end Script

end SetupScript
