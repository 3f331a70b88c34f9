import SetupScript.Proofs.Repetition

/-!
# Permanence

A session that has come to a plan stays there.  The call that answers the plan leaves its scanner at
the end of the text, whatever the calls before it ran into; and from there on a call finds nothing
but the final token, so that it answers the plan the session already has and changes nothing in it.
-/

namespace SetupScript

/-- Insisting on the end of the input leaves the scanner at the end of the text. -/
theorem Cursor.rest_eq_nil_of_expect_final {cursor reached : Cursor} {token : Token}
    (step : (expect .endOfInput).run cursor = (.ok token, reached)) (settled : cursor.Settled) :
    reached.scanner.rest = [] := by
  rw [expect_eq_pull] at step
  obtain ⟨_, middle, skipped, pulled⟩ := Procedure.run_bind_eq_ok_iff.1 step
  obtain ⟨reads, _⟩ := reads_of_skipComments skipped
  by_cases final : middle.current.kind = .endOfInput
  · have ended : middle.scanner.rest = [] := reads.settled settled final
    rw [run_pull_of_ok _ (Scanner.next_of_nil ended), checked, if_pos final] at pulled
    cases pulled
    exact ended
  · rcases found : middle.scanner.next with ⟨error | next, scanner⟩
    · rw [run_pull_of_error _ found] at pulled
      cases pulled
    · rw [run_pull_of_ok _ found, checked, if_neg final] at pulled
      cases pulled

namespace Session

variable {session after : Session} {plan : Plan} {ledger : Ledger}

/-- A session has nothing left to read, and has come to a plan and a ledger. -/
structure Finished (session : Session) (plan : Plan) (ledger : Ledger) : Prop where
  rest : session.cursor.scanner.rest = []
  plan : session.plan = plan
  ledger : session.ledger = ledger

/-- A call that answers a plan leaves the session finished, wherever the call began. -/
theorem finished_of_compile (step : compile.run session = (.ok plan, after)) :
    after.Finished plan after.ledger := by
  obtain ⟨_, primed, started, rest⟩ := Procedure.run_bind_eq_ok_iff.1 step
  obtain ⟨_, done, ran, rest⟩ := Procedure.run_bind_eq_ok_iff.1 rest
  obtain ⟨_, separated, separatorStep, rest⟩ := Procedure.run_bind_eq_ok_iff.1 rest
  obtain ⟨final, ended, expected, rest⟩ := Procedure.run_bind_eq_ok_iff.1 rest
  cases rest
  have start := primes_of_prime started
  obtain ⟨declarations, runs⟩ := primed.exists_runs
  rw [show primed.declarations = (.ok (), done) from ran] at runs
  have within : primed.Within
      ⟨primed.settings, .empty, primed.workingDirectory, primed.draws⟩ := ⟨rfl, rfl, rfl⟩
  obtain ⟨_, cursor, ledger, _, reads, _, _, _, ends⟩ := runs.means within start.settled
  obtain rfl := ends rfl
  obtain ⟨_, middle, _, separatorReads, rfl, _⟩ := reads_of_separator separatorStep
  obtain ⟨last, expectedStep, rfl⟩ := run_reading_eq_iff.1 expected
  have settled : middle.Settled := separatorReads.settled (reads.settled start.settled)
  have rest : last.scanner.rest = [] := Cursor.rest_eq_nil_of_expect_final expectedStep settled
  exact ⟨rest, rfl, rfl⟩

/-- A finished session answers its plan and stays finished. -/
theorem Finished.compile (finished : session.Finished plan ledger) :
    ∃ after, Session.compile.run session = (.ok plan, after) ∧ after.Finished plan ledger := by
  have next := Scanner.next_of_nil finished.rest
  obtain ⟨answered, after, ran⟩ := @exists_plan_of_final
    (session.inFront session.cursor.scanner (.final session.cursor.scanner.position)) rfl
    fun _ => finished.rest
  have step : Session.compile.run session = (.ok answered, after) := by
    rw [compile_eq, Procedure.run_bind_of_ok (run_prime_of_ok next), ran]
  have within : session.Within
      ⟨session.settings, .empty, session.workingDirectory, session.draws⟩ := ⟨rfl, rfl, rfl⟩
  obtain ⟨tokens, declarations, reached, tokenized, spells, means, planned, kept⟩ :=
    spells_of_compile within step
  rw [Scanner.tokenize_eq_ok_iff, Scanner.run_of_final next rfl] at tokenized
  cases tokenized
  obtain rfl : declarations = [] := spells.eq_nil_of_closes rfl
  cases means
  have same : answered = plan := planned.trans finished.plan
  subst same
  exact ⟨after, step, (finished_of_compile step).rest, (finished_of_compile step).plan,
    kept.trans finished.ledger⟩

/-- However often a finished session is asked, it answers its plan. -/
theorem Finished.again (finished : session.Finished plan ledger) (count : Nat) :
    (session.again count).Finished plan ledger ∧ session.answer count = .ok plan := by
  induction count with
  | zero =>
    obtain ⟨after, step, _⟩ := finished.compile
    exact ⟨finished, congrArg Prod.fst step⟩
  | succ count ih =>
    obtain ⟨after, step, stays⟩ := ih.1.compile
    have reached : session.again (count + 1) = after := congrArg Prod.snd step
    obtain ⟨_, again, _⟩ := stays.compile
    rw [answer, reached]
    exact ⟨stays, congrArg Prod.fst again⟩

/-- Calls after some calls are calls of the session that those leave. -/
theorem again_add (session : Session) (count more : Nat) :
    session.again (count + more) = (session.again count).again more := by
  induction more with
  | zero => rfl
  | succ more ih => exact congrArg (fun reached => (Session.compile.run reached).2) ih

end Session

namespace Script

variable {text filename : String} {around : Surroundings}

/-- Once a call has answered a plan, with or without failures before it, every further call answers
the same plan, draws no staging number, and leaves the commands and the table as they are in the
plan. -/
theorem plan_permanent {count : Nat} {plan : Plan}
    (planned : (Session.ofText text filename around).answer count = .ok plan) (more : Nat) :
    (Session.ofText text filename around).answer (count + 1 + more) = .ok plan ∧
      ((Session.ofText text filename around).again (count + 1 + more)).drawn =
        ((Session.ofText text filename around).again (count + 1)).drawn ∧
      ((Session.ofText text filename around).again (count + 1 + more)).commands = plan.commands ∧
      ((Session.ofText text filename around).again (count + 1 + more)).bindings =
        plan.bindings := by
  generalize Session.ofText text filename around = session at planned ⊢
  have step : Session.compile.run (session.again count) = (.ok plan, session.again (count + 1)) :=
    Prod.ext planned rfl
  obtain ⟨finished, answered⟩ := (Session.finished_of_compile step).again more
  rw [← Session.again_add] at finished
  rw [Session.answer, ← Session.again_add] at answered
  exact ⟨answered, congrArg Ledger.clones finished.ledger, congrArg Plan.commands finished.plan,
    congrArg Plan.bindings finished.plan⟩

/-- The first call fails behind a command; the second answers a plan with that command, and so do
all that follow. -/
theorem plan_permanent_failed :
    (compile "run \"a\" foo" "f" ⟨.standard "/tmp", .empty, "/w", id⟩).1 =
        .error ⟨"f", ⟨1, 9⟩, .unexpectedToken .endOfInput .unknown⟩ ∧
      ∀ more, (Session.ofText "run \"a\" foo" "f" ⟨.standard "/tmp", .empty, "/w", id⟩).answer
        (1 + 1 + more) = .ok ⟨"f", ["a"], .empty⟩ := by
  have failed : (compile "run \"a\" foo" "f" ⟨.standard "/tmp", .empty, "/w", id⟩).1 =
      .error ⟨"f", ⟨1, 9⟩, .unexpectedToken .endOfInput .unknown⟩ := by
    with_unfolding_all rfl
  have planned : (Session.ofText "run \"a\" foo" "f"
      ⟨.standard "/tmp", .empty, "/w", id⟩).answer 1 = .ok ⟨"f", ["a"], .empty⟩ := by
    with_unfolding_all rfl
  exact ⟨failed, fun more => (plan_permanent planned more).1⟩

end Script

end SetupScript
