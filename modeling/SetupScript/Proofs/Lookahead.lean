import SetupScript.Cursor
import SetupScript.Proofs.Grammar
import SetupScript.Proofs.Tokenization

/-!
# Lookahead

What a cursor still has to hand out: the token at hand and all that its scanner will yield, up to
the final token or the scanner's first error (`Cursor.ahead`).  Every operation of a cursor takes
tokens off the front of that list (`Cursor.Reads`), comments apart at most one, and fails only where
the list breaks off or holds a token of another kind.
-/

namespace SetupScript

namespace Token

theorem significant_append (first second : List Token) :
    significant (first ++ second) = significant first ++ significant second :=
  List.filter_append _ _

theorem significant_cons_comment {token : Token} (comment : token.kind = .comment)
    (rest : List Token) : significant (token :: rest) = significant rest :=
  List.filter_cons_of_neg (by simp [comment])

theorem significant_cons {token : Token} (notComment : token.kind ≠ .comment) (rest : List Token) :
    significant (token :: rest) = token :: significant rest :=
  List.filter_cons_of_pos (by simp [notComment])

end Token

namespace Scanner

/-- At the end of the text, the scanner yields the final token and stays where it is. -/
theorem next_of_nil {scanner : Scanner} (ended : scanner.rest = []) :
    scanner.next = (.ok (.final scanner.position), scanner) := by
  obtain ⟨alphabet, rest, offset, position⟩ := scanner
  subst ended
  rfl

/-- Behind the final token there is nothing left. -/
theorem rest_eq_nil_of_next_final {scanner after : Scanner} {token : Token}
    (step : scanner.next = (.ok token, after)) (final : token.kind = .endOfInput) :
    after.rest = [] := by
  have ended : scanner.skipGap.rest = [] := rest_eq_nil_of_tokenHere_final step final
  have again : scanner.next = (.ok (.final scanner.skipGap.position), scanner.skipGap) := by
    rw [next, tokenHere, ended]
  rw [again] at step
  cases step
  exact ended

end Scanner

namespace Cursor

/-! ## What is ahead -/

/-- The tokens that a cursor has still to hand out, and the error that ends them if the final token
does not. -/
def ahead (cursor : Cursor) : List Token × Option Scanner.Error :=
  if cursor.current.kind = .endOfInput then ([cursor.current], none)
  else (cursor.current :: cursor.scanner.run.1, cursor.scanner.run.2)

/-- The tokens ahead that matter to the grammar. -/
def upcoming (cursor : Cursor) : List Token :=
  Token.significant cursor.ahead.1

/-- A cursor that has the final token at hand has a scanner at the end of its text. -/
def Settled (cursor : Cursor) : Prop :=
  cursor.current.kind = .endOfInput → cursor.scanner.rest = []

/-- A diagnostic reports the scanner's error that lies ahead. -/
def Reports (cursor : Cursor) (diagnostic : Diagnostic) : Prop :=
  ∃ error, cursor.ahead.2 = some error ∧ diagnostic = .ofScannerError cursor.filename error

theorem not_reports {cursor : Cursor} {diagnostic : Diagnostic} (clean : cursor.ahead.2 = none) :
    ¬ cursor.Reports diagnostic := by
  rintro ⟨error, found, _⟩
  rw [clean] at found
  cases found

/-- On the way from one cursor to another, tokens were taken off what is ahead; those that matter to
the grammar are listed. -/
structure Reads (cursor : Cursor) (taken : List Token) (reached : Cursor) : Prop where
  ahead : ∃ passed, Token.significant passed = taken ∧
    cursor.ahead = (passed ++ reached.ahead.1, reached.ahead.2)
  filename : reached.filename = cursor.filename
  settled : cursor.Settled → reached.Settled

/-- With the token just pulled at hand, a cursor has ahead what its scanner had. -/
theorem ahead_of_next {scanner : Scanner} {cursor : Cursor}
    (step : scanner.next = (.ok cursor.current, cursor.scanner)) : cursor.ahead = scanner.run := by
  unfold ahead
  split
  · rename_i final
    rw [Scanner.run_of_final step final]
  · rename_i notFinal
    rw [Scanner.run_of_token step notFinal]

theorem settled_of_next {scanner : Scanner} {cursor : Cursor}
    (step : scanner.next = (.ok cursor.current, cursor.scanner)) : cursor.Settled :=
  fun final => Scanner.rest_eq_nil_of_next_final step final

theorem ahead_of_notFinal {cursor : Cursor} (notFinal : cursor.current.kind ≠ .endOfInput) :
    cursor.ahead = (cursor.current :: cursor.scanner.run.1, cursor.scanner.run.2) :=
  if_neg notFinal

theorem exists_ahead_eq_cons (cursor : Cursor) :
    ∃ rest error?, cursor.ahead = (cursor.current :: rest, error?) := by
  unfold ahead
  split
  · exact ⟨_, _, rfl⟩
  · exact ⟨_, _, rfl⟩

/-- A token at hand that is no comment is the first that matters. -/
theorem exists_upcoming_eq_cons {cursor : Cursor} (notComment : cursor.current.kind ≠ .comment) :
    ∃ rest, cursor.upcoming = cursor.current :: rest := by
  obtain ⟨rest, error?, spelled⟩ := cursor.exists_ahead_eq_cons
  rw [upcoming, spelled, Token.significant_cons notComment]
  exact ⟨_, rfl⟩

theorem head?_upcoming {cursor : Cursor} (notComment : cursor.current.kind ≠ .comment) :
    cursor.upcoming.head? = some cursor.current := by
  obtain ⟨rest, spelled⟩ := exists_upcoming_eq_cons notComment
  rw [spelled, List.head?_cons]

namespace Reads

theorem refl (cursor : Cursor) : cursor.Reads [] cursor :=
  ⟨⟨[], rfl, rfl⟩, rfl, id⟩

theorem trans {cursor middle reached : Cursor} {taken more : List Token}
    (first : cursor.Reads taken middle) (second : middle.Reads more reached) :
    cursor.Reads (taken ++ more) reached := by
  obtain ⟨passed, rfl, spelled⟩ := first.ahead
  obtain ⟨others, rfl, rest⟩ := second.ahead
  refine ⟨⟨passed ++ others, Token.significant_append _ _, ?_⟩,
    second.filename.trans first.filename, second.settled ∘ first.settled⟩
  rw [spelled, rest, List.append_assoc]

/-- The tokens taken were the first to come. -/
theorem upcoming {cursor reached : Cursor} {taken : List Token}
    (reads : cursor.Reads taken reached) : cursor.upcoming = taken ++ reached.upcoming := by
  obtain ⟨passed, rfl, spelled⟩ := reads.ahead
  rw [Cursor.upcoming, spelled, Token.significant_append]
  rfl

/-- The error that lies ahead stays the same. -/
theorem error_eq {cursor reached : Cursor} {taken : List Token}
    (reads : cursor.Reads taken reached) : cursor.ahead.2 = reached.ahead.2 := by
  obtain ⟨passed, _, spelled⟩ := reads.ahead
  rw [spelled]

theorem reports {cursor reached : Cursor} {taken : List Token} {diagnostic : Diagnostic}
    (reads : cursor.Reads taken reached) (reports : reached.Reports diagnostic) :
    cursor.Reports diagnostic := by
  obtain ⟨error, found, rfl⟩ := reports
  exact ⟨error, reads.error_eq.trans found, by rw [reads.filename]⟩

theorem note (cursor : Cursor) (notice : Notice) : cursor.Reads [] (cursor.note notice) :=
  ⟨⟨[], rfl, rfl⟩, rfl, id⟩

end Reads

/-! ## Pulling a token -/

/-- Pulling hands out the token at hand. -/
theorem eq_current_of_advance {cursor reached : Cursor} {token : Token}
    (step : advance.run cursor = (.ok token, reached)) : token = cursor.current := by
  simp only [advance] at step
  split at step
  · cases step
    rfl
  · cases step

/-- Pulling takes the token at hand off what is ahead. -/
theorem reads_of_advance {cursor reached : Cursor} {token : Token}
    (step : advance.run cursor = (.ok token, reached))
    (notFinal : cursor.current.kind ≠ .endOfInput) :
    cursor.Reads (Token.significant [cursor.current]) reached := by
  simp only [advance] at step
  split at step
  · rename_i next scanner pulled
    cases step
    refine ⟨⟨[cursor.current], rfl, ?_⟩, rfl, fun _ => settled_of_next pulled⟩
    rw [ahead_of_notFinal notFinal, ahead_of_next pulled]
    rfl
  · cases step

/-- Pulling fails only where the scanner's error is next. -/
theorem reports_of_advance {cursor reached : Cursor} {diagnostic : Diagnostic}
    (step : advance.run cursor = (.error diagnostic, reached)) (settled : cursor.Settled) :
    cursor.Reports diagnostic := by
  simp only [advance] at step
  split at step
  · cases step
  · rename_i error scanner pulled
    cases step
    have notFinal : cursor.current.kind ≠ .endOfInput := by
      intro final
      rw [Scanner.next_of_nil (settled final)] at pulled
      cases pulled
    refine ⟨error, ?_, rfl⟩
    rw [ahead_of_notFinal notFinal, Scanner.run_of_error pulled]

/-- Pulling a token leaves the name of the script alone. -/
theorem filename_of_advance {cursor reached : Cursor} {token : Token}
    (step : advance.run cursor = (.ok token, reached)) : reached.filename = cursor.filename := by
  simp only [advance] at step
  split at step
  · cases step
    rfl
  · cases step

/-! ## Dropping comments -/

/-- Dropping comments takes nothing that matters, and stops in front of something that does. -/
theorem reads_of_skipComments {cursor reached : Cursor}
    (step : skipComments.run cursor = (.ok (), reached)) :
    cursor.Reads [] reached ∧ reached.current.kind ≠ .comment := by
  change dropComments cursor = (.ok (), reached) at step
  fun_induction dropComments cursor with
  | case1 cursor comment token middle pulled ih =>
    have notFinal : cursor.current.kind ≠ .endOfInput := by
      intro final
      rw [comment] at final
      cases final
    have reads := reads_of_advance pulled notFinal
    rw [current_note, Token.significant_cons_comment comment] at reads
    exact ⟨((Reads.note _ _).trans reads).trans (ih step).1, (ih step).2⟩
  | case2 => cases step
  | case3 cursor notComment =>
    cases step
    exact ⟨.refl _, notComment⟩

theorem reports_of_skipComments {cursor reached : Cursor} {diagnostic : Diagnostic}
    (step : skipComments.run cursor = (.error diagnostic, reached)) (settled : cursor.Settled) :
    cursor.Reports diagnostic := by
  change dropComments cursor = (.error diagnostic, reached) at step
  fun_induction dropComments cursor with
  | case1 cursor comment token middle pulled ih =>
    have notFinal : cursor.current.kind ≠ .endOfInput := by
      intro final
      rw [comment] at final
      cases final
    have reads := (Reads.note _ _).trans (reads_of_advance pulled notFinal)
    exact reads.reports (ih (reads.settled settled) step)
  | case2 cursor comment error middle pulled =>
    cases step
    exact (Reads.note _ _).reports (reports_of_advance pulled settled)
  | case3 => cases step

/-- Looking at the next kind takes nothing that matters. -/
theorem reads_of_peekKind {cursor reached : Cursor} {kind : Token.Kind}
    (step : peekKind.run cursor = (.ok kind, reached)) :
    cursor.Reads [] reached ∧ reached.current.kind = kind ∧ kind ≠ .comment := by
  obtain ⟨_, middle, skipped, looked⟩ := Procedure.run_bind_eq_ok_iff.1 step
  cases looked
  obtain ⟨reads, notComment⟩ := reads_of_skipComments skipped
  exact ⟨reads, rfl, notComment⟩

theorem reports_of_peekKind {cursor reached : Cursor} {diagnostic : Diagnostic}
    (step : peekKind.run cursor = (.error diagnostic, reached)) (settled : cursor.Settled) :
    cursor.Reports diagnostic := by
  rcases Procedure.run_bind_eq_error_iff.1 step with skipped | ⟨_, _, _, looked⟩
  · exact reports_of_skipComments skipped settled
  · cases looked

/-! ## Insisting on a kind -/

/-- Insisting on a kind takes one token of that kind. -/
theorem reads_of_expect {kind : Token.Kind} {cursor reached : Cursor} {token : Token}
    (step : (expect kind).run cursor = (.ok token, reached)) (notFinal : kind ≠ .endOfInput) :
    token.kind = kind ∧ cursor.Reads [token] reached := by
  obtain ⟨_, middle, skipped, rest⟩ := Procedure.run_bind_eq_ok_iff.1 step
  obtain ⟨taken, after, pulled, checked⟩ := Procedure.run_bind_eq_ok_iff.1 rest
  obtain ⟨reads, notComment⟩ := reads_of_skipComments skipped
  obtain rfl := eq_current_of_advance pulled
  split at checked
  · rename_i same
    cases checked
    have pulledReads := reads_of_advance pulled (same ▸ notFinal)
    rw [Token.significant_cons notComment] at pulledReads
    exact ⟨same, reads.trans pulledReads⟩
  · cases checked

/-- Insisting on the end of the input takes the last token that is ahead. -/
theorem upcoming_of_expect_final {cursor reached : Cursor} {token : Token}
    (step : (expect .endOfInput).run cursor = (.ok token, reached)) :
    token.kind = .endOfInput ∧ cursor.upcoming = [token] ∧ cursor.ahead.2 = none ∧
      reached.filename = cursor.filename := by
  obtain ⟨_, middle, skipped, rest⟩ := Procedure.run_bind_eq_ok_iff.1 step
  obtain ⟨taken, after, pulled, checked⟩ := Procedure.run_bind_eq_ok_iff.1 rest
  obtain ⟨reads, notComment⟩ := reads_of_skipComments skipped
  obtain rfl := eq_current_of_advance pulled
  split at checked
  · rename_i final
    cases checked
    have ahead : middle.ahead = ([middle.current], none) := if_pos final
    refine ⟨final, ?_, ?_, ?_⟩
    · rw [reads.upcoming, upcoming, ahead, Token.significant_cons notComment]
      rfl
    · rw [reads.error_eq, ahead]
    · rw [filename_of_advance pulled, reads.filename]
  · cases checked

/-- A cursor finds a token of another kind where one kind is asked for. -/
def Mismatches (cursor : Cursor) (kind : Token.Kind) (diagnostic : Diagnostic) : Prop :=
  ∃ token rest, cursor.upcoming = token :: rest ∧ token.kind ≠ kind ∧
    diagnostic = ⟨cursor.filename, token.position, .unexpectedToken kind token.kind⟩

/-- Insisting on a kind fails at a token of another kind, or where the scanner does. -/
theorem cause_of_expect {kind : Token.Kind} {cursor reached : Cursor} {diagnostic : Diagnostic}
    (step : (expect kind).run cursor = (.error diagnostic, reached)) (settled : cursor.Settled) :
    cursor.Reports diagnostic ∨ cursor.Mismatches kind diagnostic := by
  rcases Procedure.run_bind_eq_error_iff.1 step with skipped | ⟨_, middle, skipped, rest⟩
  · exact Or.inl (reports_of_skipComments skipped settled)
  · obtain ⟨reads, notComment⟩ := reads_of_skipComments skipped
    rcases Procedure.run_bind_eq_error_iff.1 rest with pulled | ⟨taken, after, pulled, checked⟩
    · exact Or.inl (reads.reports (reports_of_advance pulled (reads.settled settled)))
    · obtain rfl := eq_current_of_advance pulled
      split at checked
      · cases checked
      · rename_i different
        cases checked
        obtain ⟨others, spelled⟩ := exists_upcoming_eq_cons notComment
        refine Or.inr ⟨middle.current, others, by rw [reads.upcoming, spelled]; rfl, different, ?_⟩
        rw [filename_of_advance pulled, reads.filename]

/-! ## Allowing a kind -/

/-- Where a kind is allowed and there, one token of that kind is taken. -/
theorem reads_of_allow_true {kind : Token.Kind} {cursor reached : Cursor}
    (step : (allow kind).run cursor = (.ok true, reached)) (notFinal : kind ≠ .endOfInput) :
    ∃ token, token.kind = kind ∧ cursor.Reads [token] reached := by
  obtain ⟨actual, middle, peeked, rest⟩ := Procedure.run_bind_eq_ok_iff.1 step
  obtain ⟨reads, atHand, notComment⟩ := reads_of_peekKind peeked
  split at rest
  · rename_i same
    obtain ⟨token, after, pulled, done⟩ := Procedure.run_bind_eq_ok_iff.1 rest
    cases done
    subst same
    subst atHand
    have pulledReads := reads_of_advance pulled notFinal
    rw [Token.significant_cons notComment] at pulledReads
    exact ⟨middle.current, rfl, reads.trans pulledReads⟩
  · cases rest

/-- Where a kind is allowed but not there, nothing that matters is taken. -/
theorem reads_of_allow_false {kind : Token.Kind} {cursor reached : Cursor}
    (step : (allow kind).run cursor = (.ok false, reached)) :
    cursor.Reads [] reached ∧ reached.current.kind ≠ kind ∧ reached.current.kind ≠ .comment := by
  obtain ⟨actual, middle, peeked, rest⟩ := Procedure.run_bind_eq_ok_iff.1 step
  obtain ⟨reads, atHand, notComment⟩ := reads_of_peekKind peeked
  subst atHand
  split at rest
  · obtain ⟨token, after, pulled, done⟩ := Procedure.run_bind_eq_ok_iff.1 rest
    cases done
  · rename_i different
    cases rest
    exact ⟨reads, different, notComment⟩

theorem reports_of_allow {kind : Token.Kind} {cursor reached : Cursor} {diagnostic : Diagnostic}
    (step : (allow kind).run cursor = (.error diagnostic, reached)) (settled : cursor.Settled) :
    cursor.Reports diagnostic := by
  rcases Procedure.run_bind_eq_error_iff.1 step with peeked | ⟨actual, middle, peeked, rest⟩
  · exact reports_of_peekKind peeked settled
  · obtain ⟨reads, _, _⟩ := reads_of_peekKind peeked
    split at rest
    · rcases Procedure.run_bind_eq_error_iff.1 rest with pulled | ⟨_, _, _, done⟩
      · exact reads.reports (reports_of_advance pulled (reads.settled settled))
      · cases done
    · cases rest

end Cursor

end SetupScript
