import SetupScript.Proofs.Halting
import SetupScript.Proofs.Lookahead

/-!
# Handling

What a session does with one declaration.  When the handler of a declaration returns, the tokens
that spell the declaration were taken and the ledger changed as the declaration means
(`exists_handles_of_declaration`).  When it fails, the commands and the table are those from before,
and the diagnostic names the scanner's error or the token that blocks the declaration
(`refuses_of_declaration`).
-/

namespace SetupScript

/-- A keyword that opens a declaration is neither a comment nor the final token. -/
theorem Token.Kind.ne_of_opensDeclaration {kind : Token.Kind}
    (opens : kind.opensDeclaration = true) : kind ≠ .comment ∧ kind ≠ .endOfInput := by
  constructor
  · rintro rfl
    cases opens
  · rintro rfl
    cases opens

namespace Session

/-! ## The ledger of a session -/

/-- What the declarations read so far have come to. -/
def ledger (session : Session) : Ledger :=
  ⟨session.commands, session.bindings, session.drawn⟩

/-- The session with another cursor and another ledger. -/
def resume (session : Session) (cursor : Cursor) (ledger : Ledger) : Session :=
  { session with
    cursor := cursor
    drawn := ledger.clones
    commands := ledger.commands
    bindings := ledger.bindings }

@[simp]
theorem cursor_resume (session : Session) (cursor : Cursor) (ledger : Ledger) :
    (session.resume cursor ledger).cursor = cursor := rfl

@[simp]
theorem ledger_resume (session : Session) (cursor : Cursor) (ledger : Ledger) :
    (session.resume cursor ledger).ledger = ledger := rfl

/-- A session compiles in these surroundings. -/
structure Within (session : Session) (around : Script.Surroundings) : Prop where
  settings : session.settings = around.settings
  workingDirectory : session.workingDirectory = around.workingDirectory
  draws : session.draws = around.draws

theorem Within.resume {session : Session} {around : Script.Surroundings}
    (within : session.Within around) (cursor : Cursor) (ledger : Ledger) :
    (session.resume cursor ledger).Within around :=
  ⟨within.settings, within.workingDirectory, within.draws⟩

/-! ## Elementary steps -/

/-- A step that concerns the cursor alone leaves the ledger as it is. -/
theorem run_reading_eq_iff {Result : Type} {procedure : Procedure Cursor Diagnostic Result}
    {session reached : Session} {outcome : Except Diagnostic Result} :
    (reading procedure).run session = (outcome, reached) ↔
      ∃ cursor, procedure.run session.cursor = (outcome, cursor) ∧
        reached = session.resume cursor session.ledger := by
  constructor
  · intro step
    refine ⟨reached.cursor, run_cursor_of_reading step, ?_⟩
    cases step
    rfl
  · rintro ⟨cursor, step, rfl⟩
    exact congrArg (fun result => (result.1, session.withCursor result.2)) step

theorem reads_foldl_note (names : List String) (cursor : Cursor) :
    cursor.Reads []
      (names.foldl (fun cursor name => cursor.note (.unboundReference name)) cursor) := by
  induction names generalizing cursor with
  | nil => exact .refl cursor
  | cons name rest ih => exact (Cursor.Reads.note cursor _).trans (ih _)

/-- Substitution answers the resolved text and changes nothing but the log. -/
theorem exists_run_substitute (text : String) (session : Session) :
    ∃ cursor, session.cursor.Reads [] cursor ∧
      (substitute text).run session =
        (.ok (Reference.resolve session.bindings text), session.resume cursor session.ledger) :=
  ⟨_, reads_foldl_note (Reference.unbound session.bindings text.toList) session.cursor, rfl⟩

/-- Cutting a literal answers the two parts of its resolved text or how many there are instead, and
changes nothing but the log. -/
theorem exists_run_twoParts (form : Diagnostic.Form) (literal : Token) (session : Session) :
    ∃ cursor, session.cursor.Reads [] cursor ∧
      (twoParts form literal).run session =
        ((Declaration.twoParts form (Reference.resolve session.bindings literal.text)).mapError
            fun count =>
              ⟨session.cursor.filename, literal.position, .argumentCount form count⟩,
          session.resume cursor session.ledger) := by
  obtain ⟨cursor, reads, substituted⟩ := exists_run_substitute literal.text session
  refine ⟨cursor, reads, ?_⟩
  rw [twoParts, Procedure.run_bind_of_ok substituted]
  split
  · rename_i parts cut
    rw [cut]
    rfl
  · rename_i count cut
    rw [cut, ← reads.filename]
    rfl

/-- A literal whose resolved text has two parts is cut into them. -/
theorem exists_run_twoParts_of_parts (form : Diagnostic.Form) {literal : Token} {session : Session}
    {first second : String}
    (parts : Declaration.Parts (Declaration.separator form)
      (Reference.resolve session.bindings literal.text) first second) :
    ∃ cursor, (twoParts form literal).run session =
      (.ok (first, second), session.resume cursor session.ledger) := by
  obtain ⟨cursor, _, cut⟩ := exists_run_twoParts form literal session
  rw [Declaration.twoParts_eq_ok_iff.2 parts] at cut
  exact ⟨cursor, cut⟩

/-- When a literal could be cut, its resolved text has these two parts. -/
theorem parts_of_twoParts {form : Diagnostic.Form} {literal : Token} {session reached : Session}
    {first second : String}
    (step : (twoParts form literal).run session = (.ok (first, second), reached)) :
    Declaration.Parts (Declaration.separator form)
        (Reference.resolve session.bindings literal.text) first second ∧
      ∃ cursor, session.cursor.Reads [] cursor ∧
        reached = session.resume cursor session.ledger := by
  obtain ⟨cursor, reads, cut⟩ := exists_run_twoParts form literal session
  rw [cut] at step
  cases found : Declaration.twoParts form (Reference.resolve session.bindings literal.text) with
  | error count =>
    rw [found] at step
    cases step
  | ok parts =>
    rw [found] at step
    cases step
    exact ⟨Declaration.twoParts_eq_ok_iff.1 found, cursor, reads, rfl⟩

/-- When a literal could not be cut, its resolved text has more or fewer than two parts. -/
theorem fault_of_twoParts {form : Diagnostic.Form} {literal : Token} {session reached : Session}
    {diagnostic : Diagnostic}
    (step : (twoParts form literal).run session = (.error diagnostic, reached)) :
    (∃ count, Declaration.twoParts form (Reference.resolve session.bindings literal.text) =
          .error count ∧
        diagnostic =
          ⟨session.cursor.filename, literal.position, .argumentCount form count⟩) ∧
      ∃ cursor, reached = session.resume cursor session.ledger := by
  obtain ⟨cursor, reads, cut⟩ := exists_run_twoParts form literal session
  rw [cut] at step
  cases found : Declaration.twoParts form (Reference.resolve session.bindings literal.text) with
  | error count =>
    rw [found] at step
    cases step
    exact ⟨⟨count, rfl, rfl⟩, cursor, rfl⟩
  | ok parts =>
    rw [found] at step
    cases step

/-- The argument of a declaration is taken together with the keyword at hand. -/
theorem reads_of_argument {session reached : Session} {literal : Token}
    (step : argument.run session = (.ok literal, reached))
    (opens : session.cursor.current.kind.opensDeclaration = true) :
    literal.kind = .string ∧
      session.cursor.Reads [session.cursor.current, literal] reached.cursor ∧
      reached = session.resume reached.cursor session.ledger := by
  obtain ⟨notComment, notFinal⟩ := Token.Kind.ne_of_opensDeclaration opens
  obtain ⟨cursor, taken, rfl⟩ := run_reading_eq_iff.1 step
  obtain ⟨keyword, middle, pulled, expected⟩ := Procedure.run_bind_eq_ok_iff.1 taken
  have keywordReads := Cursor.reads_of_advance pulled notFinal
  rw [Token.significant_cons notComment] at keywordReads
  obtain ⟨isString, literalReads⟩ := Cursor.reads_of_expect expected nofun
  exact ⟨isString, keywordReads.trans literalReads, rfl⟩

/-! ## Handlers that return -/

/-- A declaration was handled of which these tokens had been taken before: the others were taken as
well, and the ledger changed as the declaration means. -/
structure Completes (around : Script.Surroundings) (session : Session) (front : List Token)
    (declaration : Declaration) (reached : Session) : Prop where
  spelled : ∃ taken, declaration.Spells (front ++ taken) ∧ session.cursor.Reads taken reached.cursor
  resumed : reached = session.resume reached.cursor reached.ledger
  means : declaration.Means around session.ledger reached.ledger
  unnamed : ∀ argument, declaration = .clone argument none →
    reached.cursor.current.kind ≠ .as ∧ reached.cursor.current.kind ≠ .comment

/-- A clone is named if there is an `as`. -/
theorem reads_of_bindClone {path : String} {session reached : Session}
    (step : (bindClone path).run session = (.ok (), reached)) :
    (∃ cursor, session.cursor.Reads [] cursor ∧ reached = session.resume cursor session.ledger ∧
        cursor.current.kind ≠ .as ∧ cursor.current.kind ≠ .comment) ∨
      ∃ as name cursor, as.kind = .as ∧ name.kind = .string ∧
        session.cursor.Reads [as, name] cursor ∧
        reached = session.resume cursor (session.ledger.bind name.text path) := by
  obtain ⟨allowed, middle, asked, rest⟩ := Procedure.run_bind_eq_ok_iff.1 step
  obtain ⟨cursor, allowedStep, rfl⟩ := run_reading_eq_iff.1 asked
  cases allowed with
  | false =>
    cases rest
    obtain ⟨reads, notAs, notComment⟩ := Cursor.reads_of_allow_false allowedStep
    exact Or.inl ⟨cursor, reads, rfl, notAs, notComment⟩
  | true =>
    obtain ⟨as, names, reads⟩ := Cursor.reads_of_allow_true allowedStep nofun
    obtain ⟨name, after, expected, bound⟩ := Procedure.run_bind_eq_ok_iff.1 rest
    obtain ⟨cursor, expectedStep, rfl⟩ := run_reading_eq_iff.1 expected
    obtain ⟨named, nameReads⟩ := Cursor.reads_of_expect expectedStep nofun
    cases bound
    exact Or.inr ⟨as, name, _, names, named,
      (reads.trans nameReads).trans (Cursor.Reads.note _ _), rfl⟩

/-- The command that is emitted for a clone is the one that fetches what its argument stands for. -/
theorem cloneCommand_eq_fetchCommand (settings : Settings) (argument path : String) :
    ∃ fetched, Declaration.Fetched argument fetched ∧
      Declaration.cloneCommand settings (Declaration.source argument) path =
        Declaration.fetchCommand settings fetched path := by
  refine ⟨_, Declaration.fetched_source argument, ?_⟩
  simp only [Declaration.cloneCommand, Declaration.fetchCommand, String.append_assoc]

section Effects

variable {around : Script.Surroundings} {session reached : Session} {keyword literal : Token}

theorem exists_completes_of_clone (step : (clone literal).run session = (.ok (), reached))
    (within : session.Within around) (opens : keyword.kind = .clone)
    (isString : literal.kind = .string) :
    ∃ declaration, session.Completes around [keyword, literal] declaration reached := by
  obtain ⟨path, middle, drawn, rest⟩ := Procedure.run_bind_eq_ok_iff.1 step
  cases drawn
  obtain ⟨_, after, bound, emitted⟩ := Procedure.run_bind_eq_ok_iff.1 rest
  have staged : session.settings.stagingPath (session.draws session.drawn) =
      around.settings.stagingPath (around.draws session.ledger.clones) := by
    rw [within.settings, within.draws]
    rfl
  obtain ⟨fetched, location, command⟩ := cloneCommand_eq_fetchCommand session.settings literal.text
    (session.settings.stagingPath (session.draws session.drawn))
  rcases reads_of_bindClone bound with ⟨cursor, reads, rfl, unnamed⟩ |
    ⟨as, name, cursor, names, named, reads, rfl⟩
  · cases emitted
    have means : (Declaration.clone literal.text none).Means around session.ledger _ :=
      .clone location staged
    rw [← within.settings, ← command] at means
    exact ⟨_, ⟨[], .clone opens isString, reads.trans (Cursor.Reads.note _ _)⟩, rfl, means,
      fun _ _ => unnamed⟩
  · cases emitted
    have means : (Declaration.clone literal.text (some name.text)).Means around session.ledger _ :=
      .cloneAs location staged
    rw [← within.settings, ← command] at means
    exact ⟨_, ⟨[as, name], .cloneAs opens isString names named,
      reads.trans (Cursor.Reads.note _ _)⟩, rfl, means, fun _ => nofun⟩

theorem completes_of_run (step : (run literal).run session = (.ok (), reached))
    (opens : keyword.kind = .run) (isString : literal.kind = .string) :
    session.Completes around [keyword, literal] (.run literal.text) reached := by
  obtain ⟨cursor, reads, substituted⟩ := exists_run_substitute literal.text session
  rw [run, Procedure.run_bind_of_ok substituted] at step
  cases step
  exact ⟨⟨[], .run opens isString, reads.trans (Cursor.Reads.note _ _)⟩, rfl, .run _ _,
    fun _ => nofun⟩

theorem completes_of_extract (step : (extract literal).run session = (.ok (), reached))
    (within : session.Within around) (opens : keyword.kind = .extract)
    (isString : literal.kind = .string) :
    session.Completes around [keyword, literal] (.extract literal.text) reached := by
  obtain ⟨⟨source, target⟩, middle, cut, rest⟩ := Procedure.run_bind_eq_ok_iff.1 step
  obtain ⟨parts, cursor, reads, rfl⟩ := parts_of_twoParts cut
  cases rest
  have placed : Declaration.Placed around.workingDirectory target
      (Declaration.destination session.workingDirectory target) := by
    rw [← within.workingDirectory]
    exact Declaration.placed_destination _ _
  exact ⟨⟨[], .extract opens isString, reads.trans (Cursor.Reads.note _ _)⟩, rfl,
    .extract parts placed, fun _ => nofun⟩

/-- A set that returns binds what stands on the two sides of the only equals sign. -/
theorem reads_of_set (step : (set literal).run session = (.ok (), reached)) :
    ∃ name value cursor,
      Declaration.Parts '=' (Reference.resolve session.bindings literal.text) name value ∧
      session.cursor.Reads [] cursor ∧
      reached = session.resume cursor (session.ledger.bind name value) := by
  obtain ⟨⟨name, value⟩, middle, cut, rest⟩ := Procedure.run_bind_eq_ok_iff.1 step
  obtain ⟨parts, cursor, reads, rfl⟩ := parts_of_twoParts cut
  cases rest
  exact ⟨name, value, _, parts, reads.trans (Cursor.Reads.note _ _), rfl⟩

theorem completes_of_set (step : (set literal).run session = (.ok (), reached))
    (opens : keyword.kind = .set) (isString : literal.kind = .string) :
    session.Completes around [keyword, literal] (.set literal.text) reached := by
  obtain ⟨name, value, cursor, parts, reads, rfl⟩ := reads_of_set step
  exact ⟨⟨[], .set opens isString, reads⟩, rfl, .set parts, fun _ => nofun⟩

/-- Whatever declaration is completed, its tokens are taken and it means what the ledger shows. -/
theorem exists_completes_of_effect {kind : Token.Kind}
    (step : (effect kind literal).run session = (.ok (), reached)) (within : session.Within around)
    (atHand : keyword.kind = kind) (opens : kind.opensDeclaration = true)
    (isString : literal.kind = .string) :
    ∃ declaration, session.Completes around [keyword, literal] declaration reached := by
  cases kind with
  | clone => exact exists_completes_of_clone step within atHand isString
  | run => exact ⟨_, completes_of_run step atHand isString⟩
  | extract => exact ⟨_, completes_of_extract step within atHand isString⟩
  | set => exact ⟨_, completes_of_set step atHand isString⟩
  | _ => cases opens

end Effects

/-- Where a keyword is at hand and its handler returns, a declaration with that keyword was
handled. -/
theorem exists_completes_of_declaration {around : Script.Surroundings} {session reached : Session}
    {kind : Token.Kind} (step : (declaration kind).run session = (.ok (), reached))
    (within : session.Within around) (atHand : session.cursor.current.kind = kind)
    (opens : kind.opensDeclaration = true) :
    ∃ declaration, declaration.keyword = kind ∧
      session.Completes around [] declaration reached := by
  subst atHand
  obtain ⟨literal, middle, taken, effected⟩ := Procedure.run_bind_eq_ok_iff.1 step
  obtain ⟨isString, reads, resumed⟩ := reads_of_argument taken opens
  rw [resumed] at effected
  obtain ⟨declaration, ⟨more, spells, moreReads⟩, again, means, unnamed⟩ :=
    exists_completes_of_effect effected (within.resume _ _) rfl opens isString
  obtain ⟨_, _, whole, kind⟩ := spells.exists_keyword
  obtain ⟨rfl, _⟩ := List.cons.inj whole
  exact ⟨declaration, kind.symm, ⟨_, spells, reads.trans moreReads⟩, again, means, unnamed⟩

/-- A declaration was handled: its handler returned, and the tokens that spell it were taken. -/
structure Handles (session : Session) (declaration : Declaration) (reached : Session) : Prop where
  returned : (Session.declaration declaration.keyword).run session = (.ok (), reached)
  spelled : ∃ taken, declaration.Spells taken ∧ session.cursor.Reads taken reached.cursor

theorem exists_handles_of_declaration {session reached : Session} {kind : Token.Kind}
    (step : (declaration kind).run session = (.ok (), reached))
    (atHand : session.cursor.current.kind = kind) (opens : kind.opensDeclaration = true) :
    ∃ declaration, declaration.keyword = kind ∧ session.Handles declaration reached := by
  have within : session.Within
      ⟨session.settings, .empty, session.workingDirectory, session.draws⟩ := ⟨rfl, rfl, rfl⟩
  obtain ⟨declaration, rfl, completes⟩ := exists_completes_of_declaration step within atHand opens
  exact ⟨declaration, rfl, step, completes.spelled⟩

/-- A declaration that was handled changed the ledger as it means. -/
theorem Handles.completes {around : Script.Surroundings} {session reached : Session}
    {declaration : Declaration} (handles : session.Handles declaration reached)
    (within : session.Within around)
    (atHand : session.cursor.current.kind = declaration.keyword) :
    session.Completes around [] declaration reached := by
  obtain ⟨returned, taken, spells, reads⟩ := handles
  obtain ⟨other, _, completes⟩ := exists_completes_of_declaration returned within atHand
    declaration.opensDeclaration_keyword
  obtain ⟨otherTaken, otherSpells, otherReads⟩ := completes.spelled
  obtain rfl : taken = otherTaken :=
    List.append_cancel_right (reads.upcoming.symm.trans otherReads.upcoming)
  obtain rfl := spells.unique otherSpells
  exact completes

/-! ## Handlers that fail -/

/-- Why a declaration at hand is refused: the scanner fails on the way, or a token blocks it. -/
inductive Refuses (session : Session) : Diagnostic → Prop
  | unreadable {diagnostic : Diagnostic} (reports : session.cursor.Reports diagnostic) :
      Refuses session diagnostic
  | blocked {tokens : List Token} {index : Nat} {token : Token} {fault : Diagnostic.Fault}
      (ahead : session.cursor.upcoming = tokens)
      (blocks : Script.Blocks session.bindings tokens index fault)
      (found : tokens[index]? = some token) :
      Refuses session ⟨session.cursor.filename, token.position, fault⟩

theorem cause_of_argument {session reached : Session} {diagnostic : Diagnostic}
    (step : argument.run session = (.error diagnostic, reached))
    (opens : session.cursor.current.kind.opensDeclaration = true)
    (settled : session.cursor.Settled) :
    session.Refuses diagnostic ∧
      ∃ cursor, reached = session.resume cursor session.ledger := by
  obtain ⟨notComment, notFinal⟩ := Token.Kind.ne_of_opensDeclaration opens
  obtain ⟨cursor, taken, rfl⟩ := run_reading_eq_iff.1 step
  refine ⟨?_, cursor, rfl⟩
  rcases Procedure.run_bind_eq_error_iff.1 taken with pulled | ⟨keyword, middle, pulled, expected⟩
  · exact .unreadable (Cursor.reports_of_advance pulled settled)
  · have reads := Cursor.reads_of_advance pulled notFinal
    rw [Token.significant_cons notComment] at reads
    rcases Cursor.cause_of_expect expected (reads.settled settled) with
      reports | ⟨found, rest, ahead, different, rfl⟩
    · exact .unreadable (reads.reports reports)
    · rw [reads.filename]
      have whole := reads.upcoming
      rw [ahead] at whole
      exact .blocked whole (.argument opens different) rfl

/-- A clone's name may be missing where there is an `as`. -/
theorem cause_of_bindClone {path : String} {session reached : Session} {diagnostic : Diagnostic}
    (step : (bindClone path).run session = (.error diagnostic, reached))
    (settled : session.cursor.Settled) :
    (session.cursor.Reports diagnostic ∨
        ∃ as found rest, session.cursor.upcoming = as :: found :: rest ∧ as.kind = .as ∧
          found.kind ≠ .string ∧ diagnostic =
            ⟨session.cursor.filename, found.position, .unexpectedToken .string found.kind⟩) ∧
      ∃ cursor, reached = session.resume cursor session.ledger := by
  rcases Procedure.run_bind_eq_error_iff.1 step with asked | ⟨allowed, middle, asked, rest⟩
  · obtain ⟨cursor, failed, rfl⟩ := run_reading_eq_iff.1 asked
    exact ⟨Or.inl (Cursor.reports_of_allow failed settled), cursor, rfl⟩
  · obtain ⟨cursor, allowedStep, rfl⟩ := run_reading_eq_iff.1 asked
    cases allowed with
    | false => cases rest
    | true =>
      obtain ⟨as, names, reads⟩ := Cursor.reads_of_allow_true allowedStep nofun
      rcases Procedure.run_bind_eq_error_iff.1 rest with expected | ⟨_, _, _, bound⟩
      · obtain ⟨after, failed, rfl⟩ := run_reading_eq_iff.1 expected
        refine ⟨?_, after, rfl⟩
        rcases Cursor.cause_of_expect failed (reads.settled settled) with
          reports | ⟨found, others, ahead, different, rfl⟩
        · exact Or.inl (reads.reports reports)
        · have whole := reads.upcoming
          rw [cursor_resume] at ahead
          rw [ahead] at whole
          rw [cursor_resume, reads.filename]
          exact Or.inr ⟨as, found, others, whole, names, different, rfl⟩
      · cases bound

section Failures

variable {session reached : Session} {cursor : Cursor} {keyword literal : Token}
  {diagnostic : Diagnostic}

/-- A clone that fails has drawn a staging number and nothing more. -/
theorem refuses_of_clone
    (step : (clone literal).run (session.resume cursor session.ledger) =
      (.error diagnostic, reached))
    (reads : session.cursor.Reads [keyword, literal] cursor) (settled : session.cursor.Settled)
    (clones : keyword.kind = .clone) (isString : literal.kind = .string) :
    session.Refuses diagnostic ∧
      reached.commands = session.commands ∧ reached.bindings = session.bindings := by
  rcases Procedure.run_bind_eq_error_iff.1 step with drawn | ⟨path, middle, drawn, rest⟩
  · cases drawn
  · cases drawn
    rcases Procedure.run_bind_eq_error_iff.1 rest with bound | ⟨_, after, _, emitted⟩
    · obtain ⟨cause, _, rfl⟩ := cause_of_bindClone bound (reads.settled settled)
      refine ⟨?_, rfl, rfl⟩
      rcases cause with reports | ⟨as, found, others, ahead, names, different, rfl⟩
      · exact .unreadable (reads.reports reports)
      · have whole : session.cursor.upcoming = keyword :: literal :: as :: found :: others :=
          reads.upcoming.trans (congrArg ([keyword, literal] ++ ·) ahead)
        have name : cursor.filename = session.cursor.filename := reads.filename
        rw [cursor_resume, name]
        exact .blocked whole (.name clones isString names different) rfl
    · cases emitted

/-- A declaration that fails at its second part has changed nothing. -/
theorem refuses_of_twoParts {form : Diagnostic.Form}
    (step : (twoParts form literal).run (session.resume cursor session.ledger) =
      (.error diagnostic, reached))
    (reads : session.cursor.Reads [keyword, literal] cursor) (cuts : keyword.kind = form.keyword)
    (isString : literal.kind = .string) :
    session.Refuses diagnostic ∧
      reached.commands = session.commands ∧ reached.bindings = session.bindings := by
  obtain ⟨⟨count, uncut, rfl⟩, _, rfl⟩ := fault_of_twoParts step
  rw [cursor_resume, reads.filename]
  exact ⟨.blocked reads.upcoming (.parts form cuts isString uncut) rfl, rfl, rfl⟩

theorem refuses_of_effect {kind : Token.Kind}
    (step : (effect kind literal).run (session.resume cursor session.ledger) =
      (.error diagnostic, reached))
    (reads : session.cursor.Reads [keyword, literal] cursor) (settled : session.cursor.Settled)
    (atHand : keyword.kind = kind) (isString : literal.kind = .string) :
    session.Refuses diagnostic ∧
      reached.commands = session.commands ∧ reached.bindings = session.bindings := by
  cases kind with
  | clone => exact refuses_of_clone step reads settled atHand isString
  | run =>
    obtain ⟨_, _, substituted⟩ :=
      exists_run_substitute literal.text (session.resume cursor session.ledger)
    rw [effect, run, Procedure.run_bind_of_ok substituted] at step
    cases step
  | extract =>
    rcases Procedure.run_bind_eq_error_iff.1 step with cut | ⟨_, _, _, emitted⟩
    · exact refuses_of_twoParts cut reads atHand isString
    · cases emitted
  | set =>
    rcases Procedure.run_bind_eq_error_iff.1 step with cut | ⟨_, _, _, bound⟩
    · exact refuses_of_twoParts cut reads atHand isString
    · cases bound
  | _ => cases step

/-- When the handler of the declaration at hand fails, the declaration is refused, and the commands
and the table are what they were. -/
theorem refuses_of_declaration {kind : Token.Kind}
    (step : (declaration kind).run session = (.error diagnostic, reached))
    (atHand : session.cursor.current.kind = kind) (opens : kind.opensDeclaration = true)
    (settled : session.cursor.Settled) :
    session.Refuses diagnostic ∧
      reached.commands = session.commands ∧ reached.bindings = session.bindings := by
  subst atHand
  rcases Procedure.run_bind_eq_error_iff.1 step with failed | ⟨literal, middle, taken, effected⟩
  · obtain ⟨refuses, _, rfl⟩ := cause_of_argument failed opens settled
    exact ⟨refuses, rfl, rfl⟩
  · obtain ⟨isString, reads, resumed⟩ := reads_of_argument taken opens
    rw [resumed] at effected
    exact refuses_of_effect effected reads settled rfl isString

end Failures

/-! ## Separators -/

/-- A semicolon is taken if it is there. -/
theorem reads_of_separator {session reached : Session}
    (step : separator.run session = (.ok (), reached)) :
    ∃ taken cursor, Script.Separator taken ∧ session.cursor.Reads taken cursor ∧
      reached = session.resume cursor session.ledger ∧
      (taken = [] → cursor.current.kind ≠ .semicolon ∧ cursor.current.kind ≠ .comment) := by
  obtain ⟨allowed, middle, asked, done⟩ := Procedure.run_bind_eq_ok_iff.1 step
  cases done
  obtain ⟨cursor, allowedStep, rfl⟩ := run_reading_eq_iff.1 asked
  cases allowed with
  | false =>
    obtain ⟨reads, notSemicolon, notComment⟩ := Cursor.reads_of_allow_false allowedStep
    exact ⟨[], cursor, .missing, reads, rfl, fun _ => ⟨notSemicolon, notComment⟩⟩
  | true =>
    obtain ⟨token, separates, reads⟩ := Cursor.reads_of_allow_true allowedStep nofun
    exact ⟨[token], cursor, .semicolon separates, reads, rfl, nofun⟩

theorem reports_of_separator {session reached : Session} {diagnostic : Diagnostic}
    (step : separator.run session = (.error diagnostic, reached))
    (settled : session.cursor.Settled) : session.cursor.Reports diagnostic := by
  rcases Procedure.run_bind_eq_error_iff.1 step with asked | ⟨_, _, _, done⟩
  · obtain ⟨cursor, failed, rfl⟩ := run_reading_eq_iff.1 asked
    exact Cursor.reports_of_allow failed settled
  · cases done

/-- Looking for a semicolon leaves the ledger as it is, whether the scanner fails or not. -/
theorem resume_of_separator {session reached : Session} {outcome : Except Diagnostic Unit}
    (step : separator.run session = (outcome, reached)) :
    ∃ cursor, reached = session.resume cursor session.ledger := by
  cases outcome with
  | ok _ =>
    obtain ⟨_, cursor, _, _, rfl, _⟩ := reads_of_separator step
    exact ⟨cursor, rfl⟩
  | error diagnostic =>
    rcases Procedure.run_bind_eq_error_iff.1 step with asked | ⟨_, _, _, done⟩
    · obtain ⟨cursor, _, rfl⟩ := run_reading_eq_iff.1 asked
      exact ⟨cursor, rfl⟩
    · cases done

end Session

end SetupScript
