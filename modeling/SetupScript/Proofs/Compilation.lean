import SetupScript.Proofs.Running

/-!
# Compilation

What the compilation of a text comes to.  A session answers a plan exactly if its scanner still has
tokens up to the end of the text and they spell a script whose declarations have a meaning; the plan
is then that meaning (`Session.compile_eq_ok_iff`, for a whole text `Script.compile_eq_ok_iff`).
When a compilation fails, the session keeps what the declarations mean whose handlers returned, and
nothing else (`exists_ledger_of_returned`).
-/

namespace SetupScript

namespace Session

/-! ## The start -/

/-- The session in which a text is compiled. -/
def ofText (text filename : String) (around : Script.Surroundings) : Session :=
  start filename (Scanner.ofString text) around.settings around.presets around.workingDirectory
    around.draws

/-- A session in front of the first token that another one has still to read. -/
structure Primes (session primed : Session) : Prop where
  ahead : primed.cursor.ahead = session.cursor.scanner.run
  filename : primed.cursor.filename = session.cursor.filename
  settled : primed.cursor.Settled
  resumed : primed = session.resume primed.cursor session.ledger

/-- A session in front of the first token of a text. -/
structure Primed (text filename : String) (around : Script.Surroundings) (session : Session) :
    Prop where
  ahead : session.cursor.ahead = (Scanner.ofString text).run
  filename : session.cursor.filename = filename
  settled : session.cursor.Settled
  within : session.Within around
  ledger : session.ledger = Ledger.initial around

section Prime

variable {session reached : Session}

theorem primes_of_prime (step : prime.run session = (.ok (), reached)) :
    session.Primes reached := by
  obtain ⟨_, unprimed, changed, rest⟩ := Procedure.run_bind_eq_ok_iff.1 step
  cases changed
  obtain ⟨token, primed, pulled, done⟩ := Procedure.run_bind_eq_ok_iff.1 rest
  cases done
  obtain ⟨cursor, advanced, rfl⟩ := run_reading_eq_iff.1 pulled
  simp only [Cursor.advance] at advanced
  split at advanced
  · rename_i next scanner found
    cases advanced
    exact ⟨Cursor.ahead_of_next found, rfl, Cursor.settled_of_next found, rfl⟩
  · cases advanced

/-- Without a next token, there is only the scanner's error. -/
theorem unread_of_prime {diagnostic : Diagnostic}
    (step : prime.run session = (.error diagnostic, reached)) :
    (∃ error, session.cursor.scanner.run = ([], some error) ∧
        diagnostic = .ofScannerError session.cursor.filename error) ∧
      reached.ledger = session.ledger := by
  rcases Procedure.run_bind_eq_error_iff.1 step with changed | ⟨_, unprimed, changed, rest⟩
  · cases changed
  · cases changed
    rcases Procedure.run_bind_eq_error_iff.1 rest with pulled | ⟨_, _, _, done⟩
    · obtain ⟨cursor, advanced, rfl⟩ := run_reading_eq_iff.1 pulled
      refine ⟨?_, rfl⟩
      simp only [Cursor.advance] at advanced
      split at advanced
      · cases advanced
      · rename_i error scanner found
        cases advanced
        exact ⟨error, Scanner.run_of_error found, rfl⟩
    · cases done

theorem Primes.within {around : Script.Surroundings} (primes : session.Primes reached)
    (within : session.Within around) : reached.Within around := by
  rw [primes.resumed]
  exact within.resume _ _

theorem Primes.ledger_eq (primes : session.Primes reached) : reached.ledger = session.ledger := by
  rw [primes.resumed]
  rfl

variable {text filename : String} {around : Script.Surroundings}

/-- The session of a text compiles in the surroundings of the text. -/
theorem within_ofText : (ofText text filename around).Within around :=
  ⟨rfl, rfl, rfl⟩

theorem primed_of_prime (step : prime.run (ofText text filename around) = (.ok (), reached)) :
    reached.Primed text filename around :=
  have primes := primes_of_prime step
  ⟨primes.ahead, primes.filename, primes.settled, primes.within within_ofText, primes.ledger_eq⟩

/-- Without a first token, there is only the scanner's error. -/
theorem error_of_prime {diagnostic : Diagnostic}
    (step : prime.run (ofText text filename around) = (.error diagnostic, reached)) :
    (∃ error, (Scanner.ofString text).run = ([], some error) ∧
        diagnostic = .ofScannerError filename error) ∧
      reached.ledger = Ledger.initial around :=
  unread_of_prime step

end Prime

/-! ## The end -/

/-- In front of the end of a script, a session finds what it asks for. -/
theorem exists_expect_of_ending (session : Session)
    (ending : Script.Ending session.cursor.upcoming) (settled : session.cursor.Settled)
    (clean : session.cursor.ahead.2 = none) :
    ∃ separated final ended, separator.run session = (.ok (), separated) ∧
      (reading (Cursor.expect .endOfInput)).run separated = (.ok final, ended) := by
  rcases separator.run_cases session with ⟨_, _, step⟩ | ⟨diagnostic, _, step⟩
  · obtain ⟨taken, cursor, isSeparator, reads, rfl, greedy⟩ := reads_of_separator step
    rw [reads.upcoming] at ending
    rw [reads.error_eq] at clean
    obtain ⟨final, upcoming, isFinal⟩ := ending.rest_eq isSeparator fun missing token first => by
      obtain ⟨notSemicolon, notComment⟩ := greedy missing
      rw [Cursor.head?_upcoming notComment] at first
      cases first
      exact notSemicolon
    rcases (Cursor.expect .endOfInput).run_cases cursor with
      ⟨token, last, expected⟩ | ⟨diagnostic, last, expected⟩
    · exact ⟨_, token, _, step, run_reading_eq_iff.2 ⟨last, expected, rfl⟩⟩
    · rcases Cursor.cause_of_expect expected (reads.settled settled) with
        reports | ⟨token, rest, others, different, _⟩
      · exact absurd reports (Cursor.not_reports clean)
      · rw [upcoming] at others
        obtain ⟨rfl, _⟩ := List.cons.inj others
        exact absurd isFinal different
  · exact absurd (reports_of_separator step settled) (Cursor.not_reports clean)

/-! ## Plans of sessions -/

section Plans

variable {around : Script.Surroundings} {session : Session} {plan : Plan}

/-- A plan is what the declarations still to be read mean, and so is what the session has come
to. -/
theorem spells_of_compile {after : Session} (within : session.Within around)
    (step : compile.run session = (.ok plan, after)) :
    ∃ tokens declarations ledger, session.cursor.scanner.tokenize = .ok tokens ∧
      Script.Spells declarations (Token.significant tokens) ∧
      Script.Means around declarations session.ledger ledger ∧
      plan = ⟨session.cursor.filename, ledger.commands, ledger.bindings⟩ ∧
      after.ledger = ledger := by
  obtain ⟨_, primed, started, rest⟩ := Procedure.run_bind_eq_ok_iff.1 step
  obtain ⟨_, done, ran, rest⟩ := Procedure.run_bind_eq_ok_iff.1 rest
  obtain ⟨_, separated, separatorStep, rest⟩ := Procedure.run_bind_eq_ok_iff.1 rest
  obtain ⟨final, ended, expected, rest⟩ := Procedure.run_bind_eq_ok_iff.1 rest
  cases rest
  have start := primes_of_prime started
  obtain ⟨declarations, runs⟩ := primed.exists_runs
  rw [show primed.declarations = (.ok (), done) from ran] at runs
  obtain ⟨taken, cursor, ledger, body, reads, means, _, _, ends⟩ :=
    runs.means (start.within within) start.settled
  obtain rfl := ends rfl
  obtain ⟨separator, middle, isSeparator, separatorReads, rfl, _⟩ :=
    reads_of_separator separatorStep
  obtain ⟨last, expectedStep, rfl⟩ := run_reading_eq_iff.1 expected
  obtain ⟨isFinal, upcoming, clean, lastNamed⟩ := Cursor.upcoming_of_expect_final expectedStep
  have whole : primed.cursor.Reads (taken ++ separator) middle := reads.trans separatorReads
  have ran : session.cursor.scanner.run = (session.cursor.scanner.run.1, none) := by
    have clean : primed.cursor.ahead.2 = none := whole.error_eq.trans clean
    rw [start.ahead] at clean
    exact Prod.ext rfl clean
  have spelled : Token.significant session.cursor.scanner.run.1 =
      taken ++ (separator ++ [final]) := by
    have ahead : primed.cursor.upcoming = taken ++ separator ++ [final] :=
      whole.upcoming.trans (congrArg (taken ++ separator ++ ·) upcoming)
    rw [Cursor.upcoming, start.ahead, List.append_assoc] at ahead
    exact ahead
  have lastName : last.filename = session.cursor.filename :=
    lastNamed.trans (whole.filename.trans start.filename)
  rw [start.ledger_eq] at means
  refine ⟨_, declarations, ledger, Scanner.tokenize_eq_ok_iff.2 ran, ?_, means, ?_, rfl⟩
  · rw [spelled]
    exact .intro body (.intro isSeparator isFinal)
  · rw [← lastName]
    rfl

/-- A session whose tokens spell a script with a meaning compiles it to a plan. -/
theorem exists_compile_of_spells {tokens : List Token} {declarations : List Declaration}
    {ledger : Ledger} (within : session.Within around)
    (tokenized : session.cursor.scanner.tokenize = .ok tokens)
    (spells : Script.Spells declarations (Token.significant tokens))
    (means : Script.Means around declarations session.ledger ledger) :
    ∃ plan after, compile.run session = (.ok plan, after) := by
  have ran := Scanner.tokenize_eq_ok_iff.1 tokenized
  rcases prime.run_cases session with ⟨_, primed, started⟩ | ⟨diagnostic, reached, started⟩
  · have start := primes_of_prime started
    have ahead : primed.cursor.ahead = (tokens, none) := start.ahead.trans ran
    have clean : primed.cursor.ahead.2 = none := by rw [ahead]
    have upcoming : primed.cursor.upcoming = Token.significant tokens := by
      rw [Cursor.upcoming, ahead]
    rw [← upcoming] at spells
    rw [← start.ledger_eq] at means
    obtain ⟨handled, runs⟩ := primed.exists_runs
    obtain ⟨taken, cursor, reads, ending, finished⟩ :=
      runs.completes (start.within within) start.settled clean spells means
    obtain ⟨separated, final, ended, separatorStep, expected⟩ :=
      (primed.resume cursor ledger).exists_expect_of_ending ending (reads.settled start.settled)
        (reads.error_eq.symm.trans clean)
    rw [compile, Procedure.run_bind_of_ok started,
      Procedure.run_bind_of_ok (show Procedure.run ⟨Session.declarations⟩ primed = _ from finished),
      Procedure.run_bind_of_ok separatorStep, Procedure.run_bind_of_ok expected]
    exact ⟨_, _, rfl⟩
  · obtain ⟨⟨error, failed, _⟩, _⟩ := unread_of_prime started
    rw [ran] at failed
    cases failed

/-- A session compiles what it has still to read to a plan exactly if the tokens spell a script, and
the plan is what the declarations of the script mean. -/
theorem compile_eq_ok_iff (within : session.Within around) :
    (compile.run session).1 = .ok plan ↔
      ∃ tokens declarations ledger, session.cursor.scanner.tokenize = .ok tokens ∧
        Script.Spells declarations (Token.significant tokens) ∧
        Script.Means around declarations session.ledger ledger ∧
        plan = ⟨session.cursor.filename, ledger.commands, ledger.bindings⟩ := by
  constructor
  · intro compiled
    obtain ⟨tokens, declarations, ledger, tokenized, spells, means, planned, _⟩ :=
      spells_of_compile within (Prod.ext compiled rfl)
    exact ⟨tokens, declarations, ledger, tokenized, spells, means, planned⟩
  · rintro ⟨tokens, declarations, ledger, tokenized, spells, means, rfl⟩
    obtain ⟨plan, after, step⟩ := exists_compile_of_spells within tokenized spells means
    obtain ⟨others, otherDeclarations, otherLedger, otherTokenized, otherSpells, otherMeans, rfl,
      _⟩ := spells_of_compile within step
    rw [tokenized, Except.ok.injEq] at otherTokenized
    subst otherTokenized
    obtain rfl := spells.unique otherSpells
    obtain rfl := means.unique otherMeans
    exact congrArg Prod.fst step

end Plans

end Session

namespace Script

variable {text filename : String} {around : Script.Surroundings}

/-- The tokens of a text that matter to the grammar, up to the final one or to the first place where
no token can be read. -/
def tokensOf (text : String) : List Token :=
  Token.significant (Scanner.ofString text).run.1

theorem tokensOf_of_tokenize {tokens : List Token}
    (tokenized : (Scanner.ofString text).tokenize = .ok tokens) :
    tokensOf text = Token.significant tokens := by
  rw [tokensOf, Scanner.tokenize_eq_ok_iff.1 tokenized]

/-! ## Plans -/

/-- A plan is what the declarations of its script mean, and so is what the session has come to. -/
theorem spells_of_compile {plan : Plan} {after : Session}
    (step : Session.compile.run (Session.ofText text filename around) = (.ok plan, after)) :
    ∃ tokens declarations ledger, (Scanner.ofString text).tokenize = .ok tokens ∧
      Spells declarations (Token.significant tokens) ∧
      Script.Means around declarations (Ledger.initial around) ledger ∧
      plan = ⟨filename, ledger.commands, ledger.bindings⟩ ∧ after.ledger = ledger :=
  Session.spells_of_compile Session.within_ofText step

/-- A text is compiled to a plan exactly if its tokens spell a script, and the plan is what the
declarations of the script mean. -/
theorem compile_eq_ok_iff {plan : Plan} :
    (compile text filename around).1 = .ok plan ↔
      ∃ tokens declarations ledger, (Scanner.ofString text).tokenize = .ok tokens ∧
        Spells declarations (Token.significant tokens) ∧
        Script.Means around declarations (Ledger.initial around) ledger ∧
        plan = ⟨filename, ledger.commands, ledger.bindings⟩ :=
  Session.compile_eq_ok_iff Session.within_ofText

/-- When a text is compiled, its tokens split into declarations in one way, and the plan is what
these declarations mean, one after the other, from the initial table on. -/
theorem declarations_of_plan {plan : Plan}
    (compiled : (compile text filename around).1 = .ok plan) :
    ∃ tokens declarations, (Scanner.ofString text).tokenize = .ok tokens ∧
      (∀ others, Spells others (Token.significant tokens) ↔ others = declarations) ∧
      (∀ ledger, Script.Means around declarations (Ledger.initial around) ledger ↔
        ledger =
          ⟨plan.commands, plan.bindings, declarations.countP (·.keyword = .clone)⟩) ∧
      plan.filename = filename := by
  obtain ⟨tokens, declarations, last, tokenized, spells, means, rfl⟩ := compile_eq_ok_iff.1 compiled
  refine ⟨tokens, declarations, tokenized, fun others => ?_, means.initial_iff, rfl⟩
  constructor
  · exact fun otherSpells => otherSpells.unique spells
  · rintro rfl
    exact spells

/-- The plan of a script with a comment, a named clone and a use of the name. -/
theorem declarations_of_plan_named :
    ∃ plan, (compile "clone \"h/x@v\" as \"X\"; // c\nrun \"cd $[X]\"" "f"
          ⟨.standard "/tmp", .empty, "/w", id⟩).1 = .ok plan ∧
      plan.commands =
        ["cd /tmp && git clone --depth=1 --branch v https://h/x /tmp/depscript-0",
          "cd /tmp/depscript-0"] ∧
      ∃ tokens declarations,
        (Scanner.ofString "clone \"h/x@v\" as \"X\"; // c\nrun \"cd $[X]\"").tokenize = .ok tokens ∧
        (∀ others, Spells others (Token.significant tokens) ↔ others = declarations) ∧
        (∀ ledger, Script.Means ⟨.standard "/tmp", .empty, "/w", id⟩ declarations
            (Ledger.initial ⟨.standard "/tmp", .empty, "/w", id⟩) ledger ↔
          ledger = ⟨plan.commands, plan.bindings, declarations.countP (·.keyword = .clone)⟩) ∧
        plan.filename = "f" := by
  have compiled : (compile "clone \"h/x@v\" as \"X\"; // c\nrun \"cd $[X]\"" "f"
      ⟨.standard "/tmp", .empty, "/w", id⟩).1 =
        .ok ⟨"f", ["cd /tmp && git clone --depth=1 --branch v https://h/x /tmp/depscript-0",
          "cd /tmp/depscript-0"], Bindings.empty.insert "X" "/tmp/depscript-0"⟩ := by
    with_unfolding_all rfl
  exact ⟨_, compiled, rfl, declarations_of_plan compiled⟩

/-- A script is compiled to a plan exactly if its text has tokens, the grammar allows their kinds,
and every argument that must have two parts has them; otherwise there is a diagnostic. -/
theorem exists_plan_iff (text filename : String) (around : Surroundings) :
    ((∃ plan, (compile text filename around).1 = .ok plan) ↔
      ∃ tokens, (Scanner.ofString text).tokenize = .ok tokens ∧
        (Token.significant tokens).map Token.kind ∈ Grammar.script ∧
        ∀ declarations, Spells declarations (Token.significant tokens) →
          Cuts around (Ledger.initial around) declarations) ∧
    ((∃ diagnostic, (compile text filename around).1 = .error diagnostic) ↔
      ¬ ∃ plan, (compile text filename around).1 = .ok plan) := by
  constructor
  · constructor
    · rintro ⟨plan, compiled⟩
      obtain ⟨tokens, declarations, last, tokenized, spells, means, _⟩ :=
        compile_eq_ok_iff.1 compiled
      refine ⟨tokens, tokenized, map_kind_mem_script_iff.2 ⟨declarations, spells⟩, ?_⟩
      intro others otherSpells
      obtain rfl := spells.unique otherSpells
      exact exists_means_iff.1 ⟨last, means⟩
    · rintro ⟨tokens, tokenized, member, cuts⟩
      obtain ⟨declarations, spells⟩ := map_kind_mem_script_iff.1 member
      obtain ⟨last, means⟩ := exists_means_iff.2 (cuts declarations spells)
      exact ⟨_, compile_eq_ok_iff.2 ⟨tokens, declarations, last, tokenized, spells, means, rfl⟩⟩
  · cases (compile text filename around).1 with
    | ok plan =>
      constructor
      · rintro ⟨diagnostic, failed⟩
        cases failed
      · exact fun none => absurd ⟨plan, rfl⟩ none
    | error diagnostic =>
      constructor
      · rintro _ ⟨plan, compiled⟩
        cases compiled
      · exact fun _ => ⟨diagnostic, rfl⟩

end Script

/-! ## Failures -/

namespace Session

/-- The declarations whose handlers returned while a session was compiled: none without a first
token, else those that its run lists. -/
inductive Returned : Session → List Declaration → Prop
  | unprimed {session reached : Session} {diagnostic : Diagnostic}
      (failed : prime.run session = (.error diagnostic, reached)) : Returned session []
  | primed {session reached : Session} {declarations : List Declaration}
      (started : prime.run session = (.ok (), reached))
      (runs : reached.Runs declarations reached.declarations) : Returned session declarations

theorem exists_returned (session : Session) : ∃ declarations, session.Returned declarations := by
  rcases prime.run_cases session with ⟨_, reached, started⟩ | ⟨diagnostic, reached, started⟩
  · obtain ⟨declarations, runs⟩ := reached.exists_runs
    exact ⟨declarations, .primed started runs⟩
  · exact ⟨[], .unprimed started⟩

/-- Where a compilation fails, its commands and its table are those with which its declarations
ended. -/
theorem declarations_of_compile_error {session after : Session} {diagnostic : Diagnostic}
    (failed : compile.run session = (.error diagnostic, after)) :
    prime.run session = (.error diagnostic, after) ∨
      ∃ primed, prime.run session = (.ok (), primed) ∧
        after.commands = primed.declarations.2.commands ∧
        after.bindings = primed.declarations.2.bindings := by
  rcases Procedure.run_bind_eq_error_iff.1 failed with started | ⟨_, primed, started, rest⟩
  · exact Or.inl started
  · refine Or.inr ⟨primed, started, ?_⟩
    rcases Procedure.run_bind_eq_error_iff.1 rest with ran | ⟨_, done, ran, rest⟩
    · rw [show primed.declarations = (.error diagnostic, after) from ran]
      exact ⟨rfl, rfl⟩
    · rw [show primed.declarations = (.ok (), done) from ran]
      rcases Procedure.run_bind_eq_error_iff.1 rest with asked | ⟨_, separated, asked, rest⟩
      · obtain ⟨cursor, rfl⟩ := resume_of_separator asked
        exact ⟨rfl, rfl⟩
      · obtain ⟨cursor, rfl⟩ := resume_of_separator asked
        rcases Procedure.run_bind_eq_error_iff.1 rest with expected | ⟨_, _, _, noted⟩
        · obtain ⟨last, _, rfl⟩ := run_reading_eq_iff.1 expected
          exact ⟨rfl, rfl⟩
        · cases noted

end Session

namespace Script

variable {text filename : String} {around : Surroundings}

/-- The declarations whose handlers returned are the first of the text, and a failing compilation
keeps what they mean. -/
theorem exists_ledger_of_returned {diagnostic : Diagnostic} {after : Session}
    {declarations : List Declaration}
    (failed : Session.compile.run (Session.ofText text filename around) =
      (.error diagnostic, after))
    (returned : (Session.ofText text filename around).Returned declarations) :
    ∃ taken rest last, Token.significant (Scanner.ofString text).run.1 = taken ++ rest ∧
      Body declarations taken ∧ Script.Means around declarations (Ledger.initial around) last ∧
      after.commands = last.commands ∧ after.bindings = last.bindings := by
  cases returned with
  | unprimed started =>
    rcases Session.declarations_of_compile_error failed with again | ⟨_, again, _⟩
    · obtain ⟨_, initial⟩ := Session.error_of_prime again
      exact ⟨[], _, Ledger.initial around, rfl, .nil, .nil _, congrArg Ledger.commands initial,
        congrArg Ledger.bindings initial⟩
    · rw [started] at again
      cases again
  | primed started runs =>
    rcases Session.declarations_of_compile_error failed with again | ⟨_, again, commands, bindings⟩
    · rw [started] at again
      cases again
    · rw [started, Prod.mk.injEq] at again
      obtain ⟨_, rfl⟩ := again
      have start := Session.primed_of_prime started
      obtain ⟨taken, cursor, last, body, reads, means, lastCommands, lastBindings, _⟩ :=
        runs.means start.within start.settled
      rw [start.ledger] at means
      have upcoming := reads.upcoming
      rw [Cursor.upcoming, start.ahead] at upcoming
      exact ⟨taken, cursor.upcoming, last, upcoming, body, means, commands.trans lastCommands,
        bindings.trans lastBindings⟩

/-- When a compilation fails, the commands and the table of the session are what the declarations
mean whose handlers returned; these are the first declarations of the text, and what was begun
behind them has left nothing. -/
theorem means_of_compile_error {diagnostic : Diagnostic} {after : Session}
    (failed : Session.compile.run (Session.ofText text filename around) =
      (.error diagnostic, after)) :
    (∃ declarations, (Session.ofText text filename around).Returned declarations) ∧
      ∀ declarations, (Session.ofText text filename around).Returned declarations →
        (∃ taken rest, Token.significant (Scanner.ofString text).run.1 = taken ++ rest ∧
          Body declarations taken) ∧
        ∀ ledger, Script.Means around declarations (Ledger.initial around) ledger ↔
          ledger =
            ⟨after.commands, after.bindings, declarations.countP (·.keyword = .clone)⟩ := by
  refine ⟨Session.exists_returned _, fun declarations returned => ?_⟩
  obtain ⟨taken, rest, last, whole, body, means, commands, bindings⟩ :=
    exists_ledger_of_returned failed returned
  rw [commands, bindings]
  exact ⟨⟨taken, rest, whole, body⟩, means.initial_iff⟩

/-- Where the name of a clone is missing, the session keeps the command in front of it, and the
clone leaves neither its command nor its binding. -/
theorem means_of_compile_error_unnamed :
    ∃ diagnostic after,
      Session.compile.run (Session.ofText "run \"a\" clone \"h\" as ;" "f"
          ⟨.standard "/tmp", .empty, "/w", id⟩) = (.error diagnostic, after) ∧
        after.commands = ["a"] ∧ after.bindings = .empty ∧
        ∃ declarations,
          (Session.ofText "run \"a\" clone \"h\" as ;" "f"
            ⟨.standard "/tmp", .empty, "/w", id⟩).Returned declarations := by
  have failed : (Session.compile.run
      (Session.ofText "run \"a\" clone \"h\" as ;" "f" ⟨.standard "/tmp", .empty, "/w", id⟩)).1 =
        .error ⟨"f", ⟨1, 22⟩, .unexpectedToken .string .semicolon⟩ := by
    with_unfolding_all rfl
  refine ⟨_, _, Prod.ext failed rfl, ?_, ?_, (means_of_compile_error (Prod.ext failed rfl)).1⟩
  · with_unfolding_all rfl
  · with_unfolding_all rfl

end Script

end SetupScript
