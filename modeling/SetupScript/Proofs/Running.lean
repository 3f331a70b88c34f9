import SetupScript.Proofs.Handling

/-!
# Running

What a session does with all its declarations.  `Session.Runs` lists the declarations whose handlers
returned, up to the end of the declarations or the first failure; whichever comes, the commands and
the table are what the listed declarations mean (`Runs.means`).  Tokens that spell a script whose
declarations all have a meaning are run through to their end (`Runs.completes`).
-/

namespace SetupScript

namespace Session

/-! ## Runs -/

/-- The declarations of a session are handled one after the other; those listed are the ones whose
handlers returned. -/
inductive Runs : Session → List Declaration → Except Diagnostic Unit × Session → Prop
  | unread {session reached : Session} {diagnostic : Diagnostic}
      (failed : (reading Cursor.peekKind).run session = (.error diagnostic, reached)) :
      Runs session [] (.error diagnostic, reached)
  | finished {session reached : Session} {kind : Token.Kind}
      (peeked : (reading Cursor.peekKind).run session = (.ok kind, reached))
      (closes : kind.opensDeclaration = false) : Runs session [] (.ok (), reached)
  | refused {session atHand reached : Session} {kind : Token.Kind} {diagnostic : Diagnostic}
      (peeked : (reading Cursor.peekKind).run session = (.ok kind, atHand))
      (opens : kind.opensDeclaration = true)
      (failed : (declaration kind).run atHand = (.error diagnostic, reached)) :
      Runs session [] (.error diagnostic, reached)
  | unseparated {session atHand handled reached : Session} {declaration : Declaration}
      {diagnostic : Diagnostic}
      (peeked : (reading Cursor.peekKind).run session = (.ok declaration.keyword, atHand))
      (handles : atHand.Handles declaration handled)
      (failed : separator.run handled = (.error diagnostic, reached)) :
      Runs session [declaration] (.error diagnostic, reached)
  | handled {session atHand handled next : Session} {declaration : Declaration}
      {declarations : List Declaration} {outcome : Except Diagnostic Unit × Session}
      (peeked : (reading Cursor.peekKind).run session = (.ok declaration.keyword, atHand))
      (handles : atHand.Handles declaration handled)
      (separated : separator.run handled = (.ok (), next))
      (others : Runs next declarations outcome) :
      Runs session (declaration :: declarations) outcome

/-- Looking for a declaration changes nothing that matters. -/
theorem reads_of_peek {session atHand : Session} {kind : Token.Kind}
    (peeked : (reading Cursor.peekKind).run session = (.ok kind, atHand)) :
    ∃ cursor, session.cursor.Reads [] cursor ∧ atHand = session.resume cursor session.ledger ∧
      cursor.current.kind = kind ∧ kind ≠ .comment := by
  obtain ⟨cursor, step, rfl⟩ := run_reading_eq_iff.1 peeked
  obtain ⟨reads, atHand, notComment⟩ := Cursor.reads_of_peekKind step
  exact ⟨cursor, reads, rfl, atHand, notComment⟩

/-- When there was a declaration to take, it was handled and its separator passed over. -/
theorem exists_handles_of_declaration? {session next : Session}
    (step : declaration?.run session = (.ok true, next)) :
    ∃ declaration atHand handled,
      (reading Cursor.peekKind).run session = (.ok declaration.keyword, atHand) ∧
        atHand.Handles declaration handled ∧ separator.run handled = (.ok (), next) := by
  obtain ⟨kind, atHand, peeked, rest⟩ := Procedure.run_bind_eq_ok_iff.1 step
  obtain ⟨cursor, _, rfl, rfl, _⟩ := reads_of_peek peeked
  split at rest
  · rename_i opens
    obtain ⟨_, handled, returned, rest⟩ := Procedure.run_bind_eq_ok_iff.1 rest
    obtain ⟨_, next, separated, done⟩ := Procedure.run_bind_eq_ok_iff.1 rest
    cases done
    obtain ⟨declaration, keyword, handles⟩ := exists_handles_of_declaration returned rfl opens
    rw [← keyword] at peeked
    exact ⟨declaration, _, handled, peeked, handles, separated⟩
  · cases rest

/-- The loop over declarations runs through some of them. -/
theorem exists_runs (session : Session) :
    ∃ declarations, session.Runs declarations session.declarations := by
  fun_induction declarations session with
  | case1 session reached step ih =>
    obtain ⟨declaration, atHand, handled, peeked, handles, separated⟩ :=
      exists_handles_of_declaration? step
    obtain ⟨declarations, others⟩ := ih
    exact ⟨declaration :: declarations, .handled peeked handles separated others⟩
  | case2 session reached step =>
    obtain ⟨kind, atHand, peeked, rest⟩ := Procedure.run_bind_eq_ok_iff.1 step
    split at rest
    · obtain ⟨_, _, _, rest⟩ := Procedure.run_bind_eq_ok_iff.1 rest
      obtain ⟨_, _, _, done⟩ := Procedure.run_bind_eq_ok_iff.1 rest
      cases done
    · rename_i closes
      cases rest
      exact ⟨[], .finished peeked (Bool.eq_false_iff.2 closes)⟩
  | case3 session diagnostic reached step =>
    rcases Procedure.run_bind_eq_error_iff.1 step with failed | ⟨kind, atHand, peeked, rest⟩
    · exact ⟨[], .unread failed⟩
    · obtain ⟨cursor, _, rfl, rfl, _⟩ := reads_of_peek peeked
      split at rest
      · rename_i opens
        rcases Procedure.run_bind_eq_error_iff.1 rest with failed | ⟨_, handled, returned, rest⟩
        · exact ⟨[], .refused peeked opens failed⟩
        · obtain ⟨declaration, keyword, handles⟩ := exists_handles_of_declaration returned rfl opens
          rw [← keyword] at peeked
          rcases Procedure.run_bind_eq_error_iff.1 rest with failed | ⟨_, _, _, done⟩
          · exact ⟨[declaration], .unseparated peeked handles failed⟩
          · cases done
      · cases rest

/-- One round of the loop took a declaration and its separator, as much of either as it could. -/
structure Passes (around : Script.Surroundings) (session : Session) (declaration : Declaration)
    (next : Session) : Prop where
  spelled : ∃ taken separator, Script.Leads declaration taken separator next.cursor.upcoming ∧
    session.cursor.Reads (taken ++ separator) next.cursor
  resumed : next = session.resume next.cursor next.ledger
  means : declaration.Means around session.ledger next.ledger

theorem passes_of_handles {around : Script.Surroundings}
    {session atHand handled next : Session} {declaration : Declaration}
    (peeked : (reading Cursor.peekKind).run session = (.ok declaration.keyword, atHand))
    (handles : atHand.Handles declaration handled)
    (separated : separator.run handled = (.ok (), next)) (within : session.Within around) :
    session.Passes around declaration next := by
  obtain ⟨cursor, reads, rfl, atHand, _⟩ := reads_of_peek peeked
  have completes := handles.completes (within.resume _ _) atHand
  obtain ⟨taken, spells, more⟩ := completes.spelled
  obtain ⟨separator, after, isSeparator, separatorReads, rfl, greedy⟩ :=
    reads_of_separator separated
  have resumed := completes.resumed
  refine ⟨⟨taken, separator, ⟨spells, isSeparator, ?_, ?_⟩,
    reads.trans (more.trans separatorReads)⟩, ?_, completes.means⟩
  · intro argument clone token first
    obtain ⟨notAs, notComment⟩ := completes.unnamed argument clone
    rw [cursor_resume, ← separatorReads.upcoming, Cursor.head?_upcoming notComment] at first
    cases first
    exact notAs
  · intro missing token first
    obtain ⟨notSemicolon, notComment⟩ := greedy missing
    rw [cursor_resume, Cursor.head?_upcoming notComment] at first
    cases first
    exact notSemicolon
  · rw [resumed]
    rfl

theorem Passes.within {around : Script.Surroundings} {session next : Session}
    {declaration : Declaration} (passes : session.Passes around declaration next)
    (within : session.Within around) : next.Within around := by
  rw [passes.resumed]
  exact within.resume _ _

/-- However a run ends, the commands and the table are what its declarations mean; and the tokens
of these declarations were the first to come. -/
theorem Runs.means {around : Script.Surroundings} {session : Session}
    {declarations : List Declaration} {outcome : Except Diagnostic Unit × Session}
    (runs : session.Runs declarations outcome) (within : session.Within around)
    (settled : session.cursor.Settled) :
    ∃ taken cursor ledger, Script.Body declarations taken ∧ session.cursor.Reads taken cursor ∧
      Script.Means around declarations session.ledger ledger ∧
      outcome.2.commands = ledger.commands ∧ outcome.2.bindings = ledger.bindings ∧
      (outcome.1 = .ok () → outcome.2 = session.resume cursor ledger) := by
  induction runs with
  | @unread session reached diagnostic failed =>
    obtain ⟨cursor, step, rfl⟩ := run_reading_eq_iff.1 failed
    exact ⟨[], session.cursor, session.ledger, .nil, .refl _, .nil _, rfl, rfl, nofun⟩
  | @finished session reached kind peeked closes =>
    obtain ⟨cursor, reads, rfl, _⟩ := reads_of_peek peeked
    exact ⟨[], cursor, session.ledger, .nil, reads, .nil _, rfl, rfl, fun _ => rfl⟩
  | @refused session atHand reached kind diagnostic peeked opens failed =>
    obtain ⟨cursor, reads, rfl, atHand, _⟩ := reads_of_peek peeked
    obtain ⟨_, commands, bindings⟩ :=
      refuses_of_declaration failed atHand opens (reads.settled settled)
    exact ⟨[], cursor, session.ledger, .nil, reads, .nil _, commands, bindings, nofun⟩
  | @unseparated session atHand handled reached declaration diagnostic peeked handles failed =>
    obtain ⟨cursor, reads, rfl, atHand, _⟩ := reads_of_peek peeked
    have completes := handles.completes (within.resume _ _) atHand
    obtain ⟨taken, spells, more⟩ := completes.spelled
    obtain ⟨after, rfl⟩ := resume_of_separator failed
    refine ⟨taken ++ ([] ++ []), handled.cursor, handled.ledger, .cons spells .missing .nil, ?_,
      .cons completes.means (.nil _), rfl, rfl, nofun⟩
    rw [List.append_nil, List.append_nil]
    exact reads.trans more
  | @handled session atHand handled next declaration declarations outcome peeked handles separated
      others ih =>
    have passes := passes_of_handles peeked handles separated within
    obtain ⟨taken, separator, leads, reads⟩ := passes.spelled
    obtain ⟨rest, last, ledger, body, restReads, means, commands, bindings, ends⟩ :=
      ih (passes.within within) (reads.settled settled)
    have whole := reads.trans restReads
    rw [List.append_assoc] at whole
    refine ⟨_, last, ledger, .cons leads.spells leads.separated body, whole,
      .cons passes.means means, commands, bindings, fun ended => ?_⟩
    rw [ends ended, passes.resumed]
    rfl

/-! ## Scripts that run through -/

section Completeness

variable {around : Script.Surroundings} {session : Session}

/-- The first declaration of a script is not refused if it has a meaning and the scanner does not
fail. -/
theorem not_refuses {declaration : Declaration} {declarations : List Declaration} {ledger : Ledger}
    {diagnostic : Diagnostic}
    (spells : Script.Spells (declaration :: declarations) session.cursor.upcoming)
    (means : declaration.Means around session.ledger ledger)
    (clean : session.cursor.ahead.2 = none) : ¬ session.Refuses diagnostic := by
  intro refuses
  obtain ⟨taken, separator, rest, whole, leads, _⟩ := spells.exists_leads
  cases refuses with
  | unreadable reports => exact Cursor.not_reports clean reports
  | blocked ahead blocks _ =>
    rw [← ahead, whole] at blocks
    exact leads.not_blocks means blocks

/-- A run over the tokens of a script whose declarations have a meaning comes to that meaning, and
stops in front of the end of the script. -/
theorem Runs.completes {declarations handled : List Declaration} {ledger : Ledger}
    {outcome : Except Diagnostic Unit × Session} (runs : session.Runs handled outcome)
    (within : session.Within around) (settled : session.cursor.Settled)
    (clean : session.cursor.ahead.2 = none)
    (spells : Script.Spells declarations session.cursor.upcoming)
    (means : Script.Means around declarations session.ledger ledger) :
    ∃ taken cursor, session.cursor.Reads taken cursor ∧ Script.Ending cursor.upcoming ∧
      outcome = (.ok (), session.resume cursor ledger) := by
  induction runs generalizing declarations with
  | @unread session reached diagnostic failed =>
    obtain ⟨_, step, _⟩ := run_reading_eq_iff.1 failed
    exact absurd (Cursor.reports_of_peekKind step settled) (Cursor.not_reports clean)
  | @finished session reached kind peeked closes =>
    obtain ⟨cursor, reads, rfl, atHand, notComment⟩ := reads_of_peek peeked
    rw [reads.upcoming, List.nil_append] at spells
    subst atHand
    obtain ⟨rest, spelled⟩ := Cursor.exists_upcoming_eq_cons notComment
    rw [spelled] at spells
    obtain rfl := spells.eq_nil_of_closes closes
    cases means
    refine ⟨[], cursor, reads, ?_, rfl⟩
    rw [spelled]
    exact spells.ending_of_nil
  | @refused session atHand reached kind diagnostic peeked opens failed =>
    obtain ⟨cursor, reads, rfl, atHand, notComment⟩ := reads_of_peek peeked
    obtain ⟨refuses, _⟩ := refuses_of_declaration failed atHand opens (reads.settled settled)
    rw [reads.upcoming, List.nil_append] at spells
    rw [reads.error_eq] at clean
    subst atHand
    obtain ⟨rest, spelled⟩ := Cursor.exists_upcoming_eq_cons notComment
    rw [spelled] at spells
    obtain ⟨declaration, others, rfl, _⟩ := spells.exists_cons_of_opens opens
    rw [← spelled] at spells
    cases means with
    | cons first _ => exact absurd refuses (not_refuses spells first clean)
  | @unseparated session atHand handled reached declaration diagnostic peeked handles failed =>
    obtain ⟨cursor, reads, rfl, atHand, _⟩ := reads_of_peek peeked
    obtain ⟨taken, _, more⟩ := (handles.completes (within.resume _ _) atHand).spelled
    have reports := reports_of_separator failed (more.settled (reads.settled settled))
    exact absurd ((reads.trans more).reports reports) (Cursor.not_reports clean)
  | @handled session atHand handled next declaration handledOthers outcome peeked handles separated
      others ih =>
    have passes := passes_of_handles peeked handles separated within
    obtain ⟨taken, separator, leads, reads⟩ := passes.spelled
    rw [reads.upcoming, List.append_assoc] at spells
    rw [reads.error_eq] at clean
    obtain ⟨rest, rfl, restSpells⟩ := spells.uncons leads
    cases means with
    | cons first restMeans =>
      obtain rfl := first.unique passes.means
      obtain ⟨more, last, restReads, ending, rfl⟩ :=
        ih (passes.within within) (reads.settled settled) clean restSpells restMeans
      refine ⟨_, last, reads.trans restReads, ending, ?_⟩
      rw [passes.resumed]
      rfl

end Completeness

end Session

end SetupScript
