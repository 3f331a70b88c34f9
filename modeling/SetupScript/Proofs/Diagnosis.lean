import SetupScript.Proofs.Compilation

/-!
# Diagnosis

What a diagnostic says about a script.  A compilation that fails reports the scanner's error, or the
token at which the script halts and the reason for it (`Script.explains_of_compile`; for any call of
a session, `Session.explains_of_compile`).
-/

namespace SetupScript

namespace Session

variable {around : Script.Surroundings} {session reached : Session} {diagnostic : Diagnostic}

/-! ## What is to be reported -/

/-- A diagnostic tells what is wrong with the tokens ahead: the scanner fails on them, or they halt at
the token where the diagnostic stands. -/
inductive Explains (around : Script.Surroundings) (session : Session) : Diagnostic → Prop
  | unreadable {diagnostic : Diagnostic} (reports : session.cursor.Reports diagnostic) :
      Explains around session diagnostic
  | halted {index : Nat} {token : Token} {fault : Diagnostic.Fault}
      (halts : Script.Halts around session.ledger session.cursor.upcoming index fault)
      (found : session.cursor.upcoming[index]? = some token) :
      Explains around session ⟨session.cursor.filename, token.position, fault⟩

/-- What is wrong with the tokens ahead is what was wrong before tokens were taken that do not
matter. -/
theorem Explains.of_reads {cursor : Cursor} (reads : session.cursor.Reads [] cursor)
    (explains : (session.resume cursor session.ledger).Explains around diagnostic) :
    session.Explains around diagnostic := by
  have same : session.cursor.upcoming = cursor.upcoming := reads.upcoming
  cases explains with
  | unreadable reports => exact .unreadable (reads.reports reports)
  | halted halts found =>
    rw [cursor_resume, ledger_resume, ← same] at halts
    rw [cursor_resume, ← same] at found
    rw [cursor_resume, reads.filename]
    exact .halted halts found

/-- What is wrong behind a declaration is wrong with the script. -/
theorem Passes.explains {declaration : Declaration} {next : Session}
    (passes : session.Passes around declaration next)
    (explains : next.Explains around diagnostic) : session.Explains around diagnostic := by
  obtain ⟨taken, separator, leads, reads⟩ := passes.spelled
  cases explains with
  | unreadable reports => exact .unreadable (reads.reports reports)
  | @halted index token fault halts found =>
    have whole := reads.upcoming
    have later := Script.Halts.later leads passes.means halts
    rw [← List.append_assoc, ← whole] at later
    rw [reads.filename]
    refine .halted later ?_
    rw [whole, List.getElem?_append_right (Nat.le_add_right _ _), Nat.add_sub_cancel_left]
    exact found

/-- A token that blocks is wrong at its place. -/
theorem Explains.of_blocks {tokens : List Token} {index : Nat} {token : Token}
    {fault : Diagnostic.Fault} (ahead : session.cursor.upcoming = tokens)
    (blocks : Script.Blocks session.bindings tokens index fault)
    (found : tokens[index]? = some token) :
    session.Explains around ⟨session.cursor.filename, token.position, fault⟩ := by
  subst ahead
  exact .halted (.here blocks) found

theorem Refuses.explains (refuses : session.Refuses diagnostic) :
    session.Explains around diagnostic := by
  cases refuses with
  | unreadable reports => exact .unreadable reports
  | blocked ahead blocks found => exact .of_blocks ahead blocks found

/-! ## Runs that fail -/

/-- Where a run fails, its diagnostic tells what is wrong. -/
theorem Runs.explains {declarations : List Declaration}
    {outcome : Except Diagnostic Unit × Session} (runs : session.Runs declarations outcome)
    (within : session.Within around) (settled : session.cursor.Settled)
    (failed : outcome.1 = .error diagnostic) : session.Explains around diagnostic := by
  induction runs with
  | unread unread =>
    cases failed
    obtain ⟨_, step, _⟩ := run_reading_eq_iff.1 unread
    exact .unreadable (Cursor.reports_of_peekKind step settled)
  | finished _ _ => cases failed
  | refused peeked opens refused =>
    cases failed
    obtain ⟨cursor, reads, rfl, atHand, _⟩ := reads_of_peek peeked
    obtain ⟨refuses, _⟩ := refuses_of_declaration refused atHand opens (reads.settled settled)
    exact .of_reads reads refuses.explains
  | unseparated peeked handles unseparated =>
    cases failed
    obtain ⟨cursor, reads, rfl, atHand, _⟩ := reads_of_peek peeked
    obtain ⟨taken, _, more⟩ := (handles.completes (within.resume _ _) atHand).spelled
    have reports := reports_of_separator unseparated (more.settled (reads.settled settled))
    exact .unreadable ((reads.trans more).reports reports)
  | handled peeked handles separated others ih =>
    have passes := passes_of_handles peeked handles separated within
    obtain ⟨_, _, _, reads⟩ := passes.spelled
    exact passes.explains (ih (passes.within within) (reads.settled settled) failed)

/-- Where a run comes to its end, what is wrong behind it is wrong with the script. -/
theorem Runs.explains_of_ok {declarations : List Declaration}
    {outcome : Except Diagnostic Unit × Session} (runs : session.Runs declarations outcome)
    (within : session.Within around) (ended : outcome.1 = .ok ())
    (explains : outcome.2.Explains around diagnostic) : session.Explains around diagnostic := by
  induction runs with
  | unread _ => cases ended
  | finished peeked _ =>
    obtain ⟨cursor, reads, rfl, _⟩ := reads_of_peek peeked
    exact .of_reads reads explains
  | refused _ _ _ => cases ended
  | unseparated _ _ _ => cases ended
  | handled peeked handles separated _ ih =>
    have passes := passes_of_handles peeked handles separated within
    exact passes.explains (ih (passes.within within) ended explains)

/-- A run that comes to its end has no keyword at hand. -/
theorem Runs.closes {declarations : List Declaration}
    {outcome : Except Diagnostic Unit × Session} (runs : session.Runs declarations outcome)
    (ended : outcome.1 = .ok ()) :
    outcome.2.cursor.current.kind.opensDeclaration = false ∧
      outcome.2.cursor.current.kind ≠ .comment := by
  induction runs with
  | finished peeked closes =>
    obtain ⟨cursor, _, rfl, rfl, notComment⟩ := reads_of_peek peeked
    exact ⟨closes, notComment⟩
  | handled _ _ _ _ ih => exact ih ended
  | _ => cases ended

/-! ## Behind the declarations -/

/-- Behind the declarations and a semicolon, where either is missing, there may be something else than
the end of the input. -/
theorem explains_of_ending {separated : Session} (settled : session.cursor.Settled)
    (closes : session.cursor.current.kind.opensDeclaration = false)
    (notComment : session.cursor.current.kind ≠ .comment)
    (asked : separator.run session = (.ok (), separated))
    (failed : (reading (Cursor.expect .endOfInput)).run separated = (.error diagnostic, reached)) :
    session.Explains around diagnostic := by
  obtain ⟨taken, cursor, isSeparator, reads, rfl, greedy⟩ := reads_of_separator asked
  obtain ⟨_, expected, _⟩ := run_reading_eq_iff.1 failed
  rw [cursor_resume] at expected
  rcases Cursor.cause_of_expect expected (reads.settled settled) with
    reports | ⟨found, rest, ahead, notFinal, rfl⟩
  · exact .unreadable (reads.reports reports)
  · have whole := reads.upcoming
    rw [ahead] at whole
    rw [reads.filename]
    cases isSeparator with
    | missing =>
      obtain ⟨notSemicolon, noComment⟩ := greedy rfl
      have atHand := Cursor.head?_upcoming notComment
      rw [whole, List.nil_append, List.head?_cons, Option.some.injEq] at atHand
      have here := Cursor.head?_upcoming noComment
      rw [ahead, List.head?_cons, Option.some.injEq] at here
      rw [← atHand] at closes
      rw [← here] at notSemicolon
      exact .of_blocks whole (.ending closes notSemicolon notFinal) rfl
    | semicolon separates => exact .of_blocks whole (.beyond separates notFinal) rfl

/-! ## From the first token on -/

section Primed

variable {primed done : Session}

/-- When all declarations are done, what is wrong behind them is wrong with the script. -/
theorem explains_of_done (within : primed.Within around) (settled : primed.cursor.Settled)
    (ran : primed.declarations = (.ok (), done))
    (behind : done.cursor.Settled → done.cursor.current.kind.opensDeclaration = false →
      done.cursor.current.kind ≠ .comment → done.Explains around diagnostic) :
    primed.Explains around diagnostic := by
  obtain ⟨declarations, runs⟩ := primed.exists_runs
  rw [ran] at runs
  obtain ⟨closes, notComment⟩ := runs.closes rfl
  obtain ⟨_, _, _, _, reads, _, _, _, ends⟩ := runs.means within settled
  have settled : done.cursor.Settled := by
    rw [show done = _ from ends rfl]
    exact reads.settled settled
  exact runs.explains_of_ok within rfl (behind settled closes notComment)

/-- What is wrong from the first token on is wrong with what was still to be read. -/
theorem Explains.of_primes (explains : primed.Explains around diagnostic)
    (start : session.Primes primed) :
    (∃ error, session.cursor.scanner.run.2 = some error ∧
        diagnostic = .ofScannerError session.cursor.filename error) ∨
      ∃ index token fault,
        Script.Halts around session.ledger (Token.significant session.cursor.scanner.run.1) index
            fault ∧
          (Token.significant session.cursor.scanner.run.1)[index]? = some token ∧
          diagnostic = ⟨session.cursor.filename, token.position, fault⟩ := by
  cases explains with
  | unreadable reports =>
    obtain ⟨error, found, reports⟩ := reports
    rw [start.ahead] at found
    rw [start.filename] at reports
    exact Or.inl ⟨error, found, reports⟩
  | @halted index token fault halts found =>
    rw [Cursor.upcoming, start.ahead] at halts found
    rw [start.ledger_eq] at halts
    rw [start.filename]
    exact Or.inr ⟨index, token, fault, halts, found, rfl⟩

end Primed

/-- When a call fails, its diagnostic is the scanner's error, or it stands at the token at which what
was still to be read halts and gives the reason for it. -/
theorem explains_of_compile (within : session.Within around)
    (failed : (compile.run session).1 = .error diagnostic) :
    (∃ error, session.cursor.scanner.run.2 = some error ∧
        diagnostic = .ofScannerError session.cursor.filename error) ∨
      ∃ index token fault,
        Script.Halts around session.ledger (Token.significant session.cursor.scanner.run.1) index
            fault ∧
          (Token.significant session.cursor.scanner.run.1)[index]? = some token ∧
          diagnostic = ⟨session.cursor.filename, token.position, fault⟩ := by
  have step : compile.run session = (.error diagnostic, (compile.run session).2) :=
    Prod.ext failed rfl
  rcases Procedure.run_bind_eq_error_iff.1 step with started | ⟨_, primed, started, rest⟩
  · obtain ⟨⟨error, unread, reports⟩, _⟩ := unread_of_prime started
    exact Or.inl ⟨error, congrArg Prod.snd unread, reports⟩
  · have start := primes_of_prime started
    have primedWithin := start.within within
    refine Explains.of_primes ?_ start
    rcases Procedure.run_bind_eq_error_iff.1 rest with ran | ⟨_, done, ran, rest⟩
    · obtain ⟨declarations, runs⟩ := primed.exists_runs
      exact runs.explains primedWithin start.settled (congrArg Prod.fst ran)
    · refine explains_of_done primedWithin start.settled ran fun settled closes notComment => ?_
      rcases Procedure.run_bind_eq_error_iff.1 rest with asked | ⟨_, separated, asked, rest⟩
      · exact .unreadable (reports_of_separator asked settled)
      · rcases Procedure.run_bind_eq_error_iff.1 rest with expected | ⟨_, _, _, noted⟩
        · exact explains_of_ending settled closes notComment asked expected
        · cases noted

end Session

namespace Script

/-- When a compilation fails, its diagnostic is the scanner's error, or it stands at the token at
which the script halts and gives the reason for it. -/
theorem explains_of_compile {text filename : String} {around : Surroundings}
    {diagnostic : Diagnostic} (failed : (compile text filename around).1 = .error diagnostic) :
    (∃ error, (Scanner.ofString text).run.2 = some error ∧
        diagnostic = .ofScannerError filename error) ∨
      ∃ index token fault,
        Halts around (Ledger.initial around) (Token.significant (Scanner.ofString text).run.1) index
            fault ∧
          (Token.significant (Scanner.ofString text).run.1)[index]? = some token ∧
          diagnostic = ⟨filename, token.position, fault⟩ :=
  Session.explains_of_compile Session.within_ofText failed

end Script

end SetupScript
