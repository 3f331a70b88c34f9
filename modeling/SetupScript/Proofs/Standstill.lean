import SetupScript.Proofs.Passage
import SetupScript.Proofs.Repetition

/-!
# Standstill

How long a scanner goes on.  A call passes over something, or the scanner is at a standstill, from
which no call gets it away (`Scanner.moves_or_atRest`): at the end of its text, or at a character
that opens no token.  So it comes to a standstill after as many calls as the text has characters
(`Scanner.atRest_reached`), and every loop that asks it for tokens ends after so many rounds
(`Procedure.exists_loops`).
-/

namespace SetupScript

/-! ## Loops -/

namespace Procedure

variable {State Error : Type}

/-- A loop whose rounds answer whether there is another one: after so many rounds it comes to a last
one, which ends or fails. -/
inductive Loops (round : Procedure State Error Bool) :
    State → Nat → Except Error Unit × State → Prop
  | ended {state reached : State} (ran : round.run state = (.ok false, reached)) :
      Loops round state 0 (.ok (), reached)
  | failed {state reached : State} {error : Error}
      (ran : round.run state = (.error error, reached)) :
      Loops round state 0 (.error error, reached)
  | again {state next : State} {count : Nat} {outcome : Except Error Unit × State}
      (ran : round.run state = (.ok true, next)) (others : Loops round next count outcome) :
      Loops round state (count + 1) outcome

/-- A loop whose rounds lower a measure ends before it has made more rounds than the measure allows.
-/
theorem exists_loops {round : Procedure State Error Bool} {loop : Procedure State Error Unit}
    {measure : State → Nat}
    (unrolls : loop = round >>= fun again => if again then loop else pure ())
    (lowers : ∀ {state next : State}, round.run state = (.ok true, next) →
      measure next < measure state) (state : State) :
    ∃ count ≤ measure state, Loops round state count (loop.run state) := by
  induction size : measure state using Nat.strongRecOn generalizing state with
  | ind size ih =>
    have unrolled : loop.run state =
        (round >>= fun again => if again then loop else pure ()).run state :=
      congrArg (fun procedure => procedure.run state) unrolls
    rcases ran : round.run state with ⟨error | again, next⟩
    · rw [unrolled, run_bind_of_error ran]
      exact ⟨0, Nat.zero_le _, .failed ran⟩
    · rw [unrolled, run_bind_of_ok ran]
      cases again with
      | false => exact ⟨0, Nat.zero_le _, .ended ran⟩
      | true =>
        have less := lowers ran
        rw [size] at less
        obtain ⟨count, bound, others⟩ := ih (measure next) less next rfl
        exact ⟨count + 1, by omega, .again ran others⟩

end Procedure

/-! ## Scanners -/

namespace Scanner

/-- A scanner at a standstill: a call leaves it as it is, with the final token at the end of the
text, or with an error at a character that opens no token. -/
inductive AtRest (scanner : Scanner) : Prop
  | ended (rest : scanner.rest = [])
      (step : scanner.next = (.ok (.final scanner.position), scanner))
  | stray (character : Char)
      (step : scanner.next =
        (.error ⟨.unexpectedCharacter character, scanner.position⟩, scanner))

/-- A call that passes over nothing is one of a scanner at a standstill. -/
theorem atRest_of_next {scanner : Scanner} {answer : Except Error Token}
    (step : scanner.next = (answer, scanner)) (place : placeOf answer = scanner.position) :
    scanner.AtRest := by
  cases answer with
  | ok token =>
    by_cases final : token.kind = .endOfInput
    · have rest := rest_eq_nil_of_next_final step final
      exact .ended rest (next_of_nil rest)
    · exact absurd (rest_length_lt_of_next step final) (Nat.lt_irrefl _)
  | error error =>
    rcases stuck_or_shrinks_of_next step with ⟨⟨character, stray⟩, _⟩ | ⟨_, less⟩
    · obtain ⟨fault, position⟩ := error
      cases stray
      cases place
      exact .stray character step
    · exact absurd less (Nat.lt_irrefl _)

/-- A call passes over something, or the scanner is at a standstill. -/
theorem moves_or_atRest (scanner : Scanner) :
    scanner.offset < scanner.next.2.offset ∨ scanner.AtRest := by
  have passes := scanner.passes_next
  generalize step : scanner.next = outcome at passes
  cases passes with
  | @intro answer passed rest before spelled begins place =>
    cases passed with
    | nil =>
      have same : scanner.move [] rest = scanner := by
        rw [← show scanner.rest = rest from spelled]
        rfl
      rw [List.prefix_nil.1 begins] at place
      rw [same] at step
      exact Or.inr (atRest_of_next step place)
    | cons character passed =>
      exact Or.inl (Nat.lt_add_of_pos_right (Nat.zero_lt_succ _))

theorem AtRest.next_snd {scanner : Scanner} (still : scanner.AtRest) :
    scanner.next.2 = scanner := by
  cases still with
  | ended rest step => rw [step]
  | stray character step => rw [step]

/-- No call gets a scanner away from a standstill. -/
theorem AtRest.reached {scanner : Scanner} (still : scanner.AtRest) (count : Nat) :
    scanner.reached count = scanner :=
  Function.iterate_fixed still.next_snd count

/-- So many calls come to a standstill, or each of them passes over something. -/
theorem atRest_or_offset_reached (scanner : Scanner) (count : Nat) :
    (scanner.reached count).AtRest ∨
      scanner.offset + count ≤ (scanner.reached count).offset := by
  induction count with
  | zero => exact Or.inr (Nat.le_refl _)
  | succ count ih =>
    rcases ih with still | far
    · rw [reached_add, still.reached]
      exact Or.inl still
    · rcases (scanner.reached count).moves_or_atRest with moves | still
      · rw [reached_succ]
        exact Or.inr (Nat.lt_of_le_of_lt far moves)
      · rw [reached_add, still.reached]
        exact Or.inl still

/-- After as many calls as the text has characters, a scanner is at a standstill. -/
theorem atRest_reached (text : List Char) : ((ofList text).reached text.length).AtRest := by
  have stands := stands_reached text text.length
  rcases (ofList text).atRest_or_offset_reached text.length with still | far
  · exact still
  · have ended : ((ofList text).reached text.length).rest = [] := by
      rw [stands.rest]
      exact List.drop_eq_nil_of_le (Nat.le_trans (Nat.le_add_left _ _) far)
    exact .ended ended (next_of_nil ended)

/-- There is one token more than there are characters at most. -/
theorem length_run_le (scanner : Scanner) : scanner.run.1.length ≤ scanner.rest.length + 1 := by
  fun_induction run scanner with
  | case1 => exact Nat.zero_le _
  | case2 => exact Nat.le_add_left _ _
  | case3 scanner token after step notFinal tokens error? rest ih =>
    have less := rest_length_lt_of_next step notFinal
    rw [rest] at ih
    exact Nat.succ_le_succ (Nat.le_trans ih less)

end Scanner

/-! ## Cursors and sessions -/

namespace Cursor

/-- Drop the comment at hand, noting it; the answer says whether there was one. -/
def dropComment? : Procedure Cursor Diagnostic Bool := do
  let cursor ← Procedure.look
  if cursor.current.kind = .comment then
    Procedure.change (·.note (.skippingComment cursor.current.position))
    let _ ← advance
    return true
  else return false

theorem dropComment?_of_comment {cursor : Cursor} (comment : cursor.current.kind = .comment) :
    dropComment?.run cursor = (advance >>= fun _ => pure true).run
      (cursor.note (.skippingComment cursor.current.position)) := by
  show (ite _ _ _ : Procedure Cursor Diagnostic Bool).run cursor = _
  rw [if_pos comment]
  rfl

theorem dropComment?_of_ne {cursor : Cursor} (notComment : cursor.current.kind ≠ .comment) :
    dropComment?.run cursor = (.ok false, cursor) := by
  show (ite _ _ _ : Procedure Cursor Diagnostic Bool).run cursor = _
  rw [if_neg notComment]
  rfl

/-- To drop all comments is to drop one, and then the others if there was one. -/
theorem skipComments_eq : skipComments = dropComment? >>= fun again =>
    if again then skipComments else pure () := by
  refine congrArg Procedure.mk (funext fun cursor => ?_)
  by_cases comment : cursor.current.kind = .comment
  · refine (run_skipComments_of_comment comment).trans ?_
    rw [dropComment?_of_comment comment, ← Procedure.run_bind, Procedure.run_bind_assoc]
    rfl
  · refine (run_skipComments_of_ne comment).trans ?_
    rw [dropComment?_of_ne comment]
    rfl

theorem pending_le (cursor : Cursor) : cursor.pending ≤ cursor.scanner.rest.length + 1 := by
  rw [pending]
  split <;> omega

/-- A comment that is dropped leaves less to read. -/
theorem pending_lt_of_dropComment? {cursor next : Cursor}
    (ran : dropComment?.run cursor = (.ok true, next)) : next.pending < cursor.pending := by
  by_cases comment : cursor.current.kind = .comment
  · rw [dropComment?_of_comment comment] at ran
    obtain ⟨token, reached, pulled, rest⟩ := Procedure.run_bind_eq_ok_iff.1 ran
    cases rest
    have notFinal : cursor.current.kind ≠ .endOfInput := by
      rw [comment]
      exact nofun
    exact @pending_lt_of_advance (cursor.note (.skippingComment cursor.current.position)) _ _
      notFinal pulled
  · rw [dropComment?_of_ne comment] at ran
    cases ran

/-- The loop that drops comments ends. -/
theorem exists_loops (cursor : Cursor) : ∃ count ≤ cursor.scanner.rest.length + 1,
    dropComment?.Loops cursor count (skipComments.run cursor) := by
  obtain ⟨count, bound, loops⟩ :=
    Procedure.exists_loops skipComments_eq pending_lt_of_dropComment? cursor
  exact ⟨count, Nat.le_trans bound cursor.pending_le, loops⟩

end Cursor

/-- The loop over the declarations ends. -/
theorem Session.exists_loops (session : Session) :
    ∃ count ≤ session.cursor.scanner.rest.length + 1,
      declaration?.Loops session count session.declarations := by
  obtain ⟨count, bound, loops⟩ :=
    Procedure.exists_loops declarations_eq pending_lt_of_declaration? session
  exact ⟨count, Nat.le_trans bound session.cursor.pending_le, loops⟩

namespace Scanner

/-- A call takes the scanner forward, or it leaves it as it is, at the end of the text with the
final token or at a character that opens no token with an error, and so does every later call.
After as many calls as the text has characters, errors included, they all come to the same; there
are no more tokens than one for each character and the final one; and dropping comments and going
through declarations, wherever a cursor or a session has come to, ends after a number of rounds that
what is left of the text bounds. -/
theorem moves_or_stays (text : String) :
    (∀ count,
      let scanner := (ofString text).reached count
      scanner.offset < scanner.next.2.offset ∨
        scanner.next.2 = scanner ∧
          (scanner.offset = text.length ∧ scanner.next.1 = .ok (.final scanner.position) ∨
            ∃ character,
              scanner.next.1 = .error ⟨.unexpectedCharacter character, scanner.position⟩) ∧
          ∀ more, (ofString text).reached (count + more) = scanner) ∧
    (∀ count index, text.length ≤ index → index < count →
      ((ofString text).steps count)[index]? =
        some ((ofString text).reached text.length).next) ∧
    (∀ tokens, (ofString text).tokenize = .ok tokens → tokens.length ≤ text.length + 1) ∧
    (∀ cursor : Cursor, ∃ rounds ≤ cursor.scanner.rest.length + 1,
      Cursor.dropComment?.Loops cursor rounds (Cursor.skipComments.run cursor)) ∧
    (∀ session : Session, ∃ rounds ≤ session.cursor.scanner.rest.length + 1,
      Session.declaration?.Loops session rounds session.declarations) := by
  have length : text.toList.length = text.length := String.length_toList
  refine ⟨fun count => ?_, fun count index late inside => ?_, fun tokens read => ?_,
    Cursor.exists_loops, Session.exists_loops⟩
  · intro scanner
    have stands : scanner.Stands text.toList := stands_reached text.toList count
    have stays (still : scanner.AtRest) (more : Nat) :
        (ofString text).reached (count + more) = scanner := by
      rw [reached_add]
      exact still.reached more
    rcases scanner.moves_or_atRest with moves | still
    · exact Or.inl moves
    · refine Or.inr ⟨still.next_snd, ?_, stays still⟩
      cases still with
      | ended rest step =>
        exact Or.inl ⟨(stands.offset_eq rest).trans length, congrArg Prod.fst step⟩
      | stray character step => exact Or.inr ⟨character, congrArg Prod.fst step⟩
  · rw [getElem?_steps _ inside, ← Nat.add_sub_of_le late, reached_add]
    have still : ((ofString text).reached text.length).AtRest := by
      rw [← length]
      exact atRest_reached text.toList
    rw [still.reached]
  · have bound := (ofString text).length_run_le
    rw [tokenize_eq_ok_iff.1 read] at bound
    rw [← length]
    exact bound

/-- A scanner stays at a character that opens no token, and reads two tokens from one character. -/
theorem moves_or_stays_stray :
    ((ofString "@").steps 3)[2]? = some ((ofString "@").reached 1).next ∧
      ∃ tokens, (ofString ";").tokenize = .ok tokens ∧ tokens.length ≤ 2 := by
  have stays := (moves_or_stays "@").2.1 3 2 (by decide) (by decide)
  obtain ⟨tokens, read⟩ : ∃ tokens, (ofString ";").tokenize = .ok tokens :=
    ⟨_, by with_unfolding_all rfl⟩
  exact ⟨stays, tokens, read, (moves_or_stays ";").2.2.1 tokens read⟩

end Scanner

end SetupScript
