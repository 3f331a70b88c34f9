import SetupScript.Proofs.Steps

/-!
# Blame

Which token a diagnostic blames.  A diagnostic about a token or an argument that is there stands at
the token that was pulled last but one, the token before the one at hand
(`Session.Blames`); so the tokens of the text are known that stand behind it.
-/

namespace SetupScript

/-- A diagnostic blames a token or an argument that is there. -/
def Diagnostic.Decisive (diagnostic : Diagnostic) : Prop :=
  match diagnostic.fault with
  | .invalidToken _ => False
  | .unexpectedToken _ actual => actual ≠ .endOfInput
  | .argumentCount _ _ => True

/-- A cursor on the way through these tokens: they end with the token before, and what is ahead;
unless the final token was passed. -/
def Cursor.Along (tokens : List Token) (cursor : Cursor) : Prop :=
  (∃ passed, tokens = passed ++ cursor.previous :: cursor.ahead.1) ∨
    (cursor.previous.kind = .endOfInput ∧ cursor.current.kind = .endOfInput)

/-- A diagnostic blames the token before the one at hand. -/
structure Cursor.Blamed (cursor : Cursor) (diagnostic : Diagnostic) : Prop where
  notFinal : cursor.previous.kind ≠ .endOfInput
  position : diagnostic.position = cursor.previous.position

namespace Session

variable {Result Next : Type} {tokens : List Token} {session : Session}

/-- A step goes on through these tokens, and where it fails with a decisive diagnostic, the token
before the one at hand is to blame. -/
structure Blames (tokens : List Token) (step : Step Result) (session : Session) : Prop where
  settled : ∀ result reached, step.run session = (.ok result, reached) → reached.cursor.Settled
  along : ∀ result reached, step.run session = (.ok result, reached) →
    reached.cursor.Along tokens
  blamed : ∀ diagnostic reached, step.run session = (.error diagnostic, reached) →
    diagnostic.Decisive → reached.cursor.Along tokens ∧ reached.cursor.Blamed diagnostic

theorem Blames.bind {first : Step Result} {second : Result → Step Next}
    (blames : Blames tokens first session)
    (others : ∀ result reached, first.run session = (.ok result, reached) →
      Blames tokens (second result) reached) : Blames tokens (first >>= second) session := by
  refine ⟨fun value last step => ?_, fun value last step => ?_,
    fun diagnostic last step decisive => ?_⟩
  · obtain ⟨result, reached, ran, rest⟩ := Procedure.run_bind_eq_ok_iff.1 step
    exact (others result reached ran).settled value last rest
  · obtain ⟨result, reached, ran, rest⟩ := Procedure.run_bind_eq_ok_iff.1 step
    exact (others result reached ran).along value last rest
  · rcases Procedure.run_bind_eq_error_iff.1 step with ran | ⟨result, reached, ran, rest⟩
    · exact blames.blamed diagnostic last ran decisive
    · exact (others result reached ran).blamed diagnostic last rest decisive

/-! ## Parts -/

/-- Pulling the next token keeps to the tokens. -/
theorem along_of_next {cursor : Cursor} {token : Token} {scanner : Scanner}
    (settled : cursor.Settled) (along : cursor.Along tokens)
    (found : cursor.scanner.next = (.ok token, scanner)) :
    Cursor.Along tokens
      { cursor with scanner := scanner, previous := cursor.current, current := token } := by
  by_cases final : cursor.current.kind = .endOfInput
  · rw [Scanner.next_of_nil (settled final)] at found
    cases found
    exact Or.inr ⟨final, rfl⟩
  · rcases along with ⟨passed, spelled⟩ | ⟨_, ended⟩
    · refine Or.inl ⟨passed ++ [cursor.previous], ?_⟩
      have ahead := @Cursor.ahead_of_next _
        { cursor with scanner := scanner, previous := cursor.current, current := token } found
      rw [spelled, Cursor.ahead_of_notFinal final, ahead, List.append_assoc]
      rfl
    · exact absurd ended final

/-- What is pulled blames the token that it answers about. -/
theorem blames_pull {answer : Cursor → Except Diagnostic Token}
    (blamed : ∀ cursor diagnostic, answer cursor = .error diagnostic → diagnostic.Decisive →
      cursor.current.kind ≠ .endOfInput ∧ diagnostic.position = cursor.current.position)
    (settled : session.cursor.Settled) (along : session.cursor.Along tokens) :
    Blames tokens (reading (Cursor.pull answer)) session := by
  rcases found : session.cursor.scanner.next with ⟨error | token, scanner⟩
  · have ran := run_reading_of (Cursor.run_pull_of_error answer found)
    refine ⟨fun result reached step => ?_, fun result reached step => ?_,
      fun diagnostic reached step decisive => ?_⟩
    · rw [ran] at step
      cases step
    · rw [ran] at step
      cases step
    · rw [ran] at step
      cases step
      cases decisive
  · have ran := run_reading_of (Cursor.run_pull_of_ok answer found)
    have reachedAlong := along_of_next settled along found
    refine ⟨fun result reached step => ?_, fun result reached step => ?_,
      fun diagnostic reached step decisive => ?_⟩
    · rw [ran, Prod.mk.injEq] at step
      obtain ⟨_, rfl⟩ := step
      exact Cursor.settled_of_next found
    · rw [ran, Prod.mk.injEq] at step
      obtain ⟨_, rfl⟩ := step
      exact reachedAlong
    · rw [ran, Prod.mk.injEq] at step
      obtain ⟨answered, rfl⟩ := step
      obtain ⟨notFinal, position⟩ := blamed _ _ answered decisive
      exact ⟨reachedAlong, notFinal, position⟩

theorem blames_advance (settled : session.cursor.Settled) (along : session.cursor.Along tokens) :
    Blames tokens (reading Cursor.advance) session :=
  @blames_pull _ _ (fun cursor => .ok cursor.current) (fun _ _ => nofun) settled along

theorem blames_check (kind : Token.Kind) (settled : session.cursor.Settled)
    (along : session.cursor.Along tokens) :
    Blames tokens (reading (Cursor.pull (Cursor.checked kind))) session := by
  refine blames_pull (fun cursor diagnostic failed decisive => ?_) settled along
  rw [Cursor.checked] at failed
  split at failed
  · cases failed
  · cases failed
    exact ⟨decisive, rfl⟩

theorem Blind.along {step : Step Result} (blind : Blind step)
    (along : session.cursor.Along tokens) : (step.run session).2.cursor.Along tokens := by
  have ahead : (step.run session).2.cursor.ahead = session.cursor.ahead := by
    rw [Cursor.ahead, Cursor.ahead, blind.current_eq, blind.scanner_eq]
  rw [Cursor.Along, ahead, blind.previous_eq, blind.current_eq]
  exact along

theorem Blind.settled {step : Step Result} (blind : Blind step)
    (settled : session.cursor.Settled) : (step.run session).2.cursor.Settled := by
  rw [Cursor.Settled, blind.current_eq, blind.scanner_eq]
  exact settled

/-- A blind step blames the token before the one at hand if it blames any. -/
theorem Blind.blames {step : Step Result} (blind : Blind step)
    (blamed : ∀ diagnostic, (step.run session).1 = .error diagnostic →
      session.cursor.Blamed diagnostic)
    (settled : session.cursor.Settled) (along : session.cursor.Along tokens) :
    Blames tokens step session := by
  have reachedAlong := blind.along along
  have reachedSettled := blind.settled settled
  have previous := blind.previous_eq session
  refine ⟨fun result reached ran => ?_, fun result reached ran => ?_,
    fun diagnostic reached ran decisive => ?_⟩
  · rw [ran] at reachedSettled
    exact reachedSettled
  · rw [ran] at reachedAlong
    exact reachedAlong
  · rw [ran] at reachedAlong previous blamed
    obtain ⟨notFinal, position⟩ := blamed diagnostic rfl
    refine ⟨reachedAlong, ?_, ?_⟩
    · rw [previous]
      exact notFinal
    · rw [previous]
      exact position

/-- All that is made of the parts blames the right token. -/
theorem compositional_blames (tokens : List Token) :
    Compositional fun _ step session =>
      session.cursor.Settled → session.cursor.Along tokens → Blames tokens step session where
  bind := fun first others settled along =>
    have blames := first settled along
    blames.bind fun result reached ran => others result reached ran
      (blames.settled result reached ran) (blames.along result reached ran)
  look := fun _ second settled along =>
    have blames := second settled along
    ⟨blames.settled, blames.along, blames.blamed⟩
  blind := fun blind succeeds session =>
    blind.blames fun diagnostic failed => absurd failed (succeeds session diagnostic)
  advance := fun _ settled along => blames_advance settled along
  check := fun kind _ settled along => blames_check kind settled along

/-! ## Arguments -/

/-- The argument of a declaration is the token before the one then at hand. -/
theorem previous_of_argument {literal : Token} {reached : Session}
    (step : argument.run session = (.ok literal, reached)) :
    reached.cursor.previous = literal ∧ literal.kind = .string := by
  rw [argument_eq] at step
  obtain ⟨_, middle, _, expected⟩ := Procedure.run_bind_eq_ok_iff.1 step
  rw [Cursor.expect_eq_pull, reading_bind] at expected
  obtain ⟨_, skipped, _, checked⟩ := Procedure.run_bind_eq_ok_iff.1 expected
  rcases found : skipped.cursor.scanner.next with ⟨error | token, scanner⟩
  · rw [run_reading_of (Cursor.run_pull_of_error _ found)] at checked
    cases checked
  · rw [run_reading_of (Cursor.run_pull_of_ok _ found), Cursor.checked, Prod.mk.injEq] at checked
    obtain ⟨answered, rfl⟩ := checked
    split at answered
    · rename_i isString
      cases answered
      exact ⟨rfl, isString⟩
    · cases answered

/-- What is made of an argument fails at the argument, for the number of its parts. -/
theorem fault_of_effect {kind : Token.Kind} {literal : Token} {diagnostic : Diagnostic}
    (notClone : kind ≠ .clone)
    (failed : ((effect kind literal).run session).1 = .error diagnostic) :
    diagnostic.position = literal.position ∧
      ∃ form count, diagnostic.fault = .argumentCount form count := by
  have step : (effect kind literal).run session =
      (.error diagnostic, ((effect kind literal).run session).2) := Prod.ext failed rfl
  cases kind with
  | clone => exact absurd rfl notClone
  | extract =>
    rcases Procedure.run_bind_eq_error_iff.1 step with cut | ⟨_, _, _, emitted⟩
    · obtain ⟨⟨count, _, rfl⟩, _⟩ := fault_of_twoParts cut
      exact ⟨rfl, _, count, rfl⟩
    · cases emitted
  | set =>
    rcases Procedure.run_bind_eq_error_iff.1 step with cut | ⟨_, _, _, bound⟩
    · obtain ⟨⟨count, _, rfl⟩, _⟩ := fault_of_twoParts cut
      exact ⟨rfl, _, count, rfl⟩
    · cases bound
  | _ => cases failed

theorem blames_script (settled : session.cursor.Settled) (along : session.cursor.Along tokens) :
    Blames tokens script session := by
  refine (compositional_blames tokens).script (fun kind session notClone settled along => ?_)
    session settled along
  have blames := (compositional_blames tokens).argument session settled along
  refine blames.bind fun literal reached ran => ?_
  obtain ⟨previous, isString⟩ := previous_of_argument ran
  refine (Blind.effect notClone literal).blames (fun diagnostic failed => ⟨?_, ?_⟩)
    (blames.settled literal reached ran) (blames.along literal reached ran)
  · rw [previous, isString]
    exact nofun
  · rw [previous]
    exact (fault_of_effect notClone failed).1

end Session

end SetupScript
