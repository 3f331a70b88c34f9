import SetupScript.Proofs.Blame

/-!
# Repetition

What becomes of a session that is asked again after a failure.  A call takes something off the text,
unless it stops at a character that opens no token; there every later call stops as well.  So the
calls that follow a failure come to a plan in the end, or one of the first stops at such a
character.
-/

namespace SetupScript

/-! ## Errors of a scanner -/

namespace Scanner

theorem skipGap_skipGap (scanner : Scanner) : scanner.skipGap.skipGap = scanner.skipGap := by
  have first : ∀ next ∈ (scanner.rest.dropWhile isGap).head?, isGap next = false :=
    outside_dropWhile isGap scanner.rest
  exact @skipGap_of_gap _ [] _ rfl (List.forall_mem_nil _) first

/-- A scanner stands at a character that opens no token, and does not get away from it. -/
def Stuck (scanner : Scanner) : Prop :=
  ∃ character position,
    scanner.next = (.error ⟨.unexpectedCharacter character, position⟩, scanner)

/-- A literal that cannot be read is not reported as a character that opens no token. -/
theorem fault_of_literal {scanner after : Scanner} {body : List Char} {error : Error}
    (step : scanner.literal body = (.error error, after)) (character : Char) :
    error.fault ≠ .unexpectedCharacter character := by
  rw [literal] at step
  split at step <;> cases step <;> rintro ⟨⟩

/-- A scanner that fails gets stuck at a character that opens no token, or takes something off the
text. -/
theorem stuck_or_shrinks_of_next {scanner after : Scanner} {error : Error}
    (step : scanner.next = (.error error, after)) :
    ((∃ character, error.fault = .unexpectedCharacter character) ∧ after.Stuck) ∨
      ((∀ character, error.fault ≠ .unexpectedCharacter character) ∧
        after.rest.length < scanner.rest.length) := by
  have here := step
  rw [next, tokenHere] at here
  split at here
  · cases here
  · cases here
  · cases here
  · rename_i body spelled
    have shorter := rest_length_literal_lt scanner.skipGap body
    rw [here] at shorter
    have bound := rest_length_skipGap_le scanner
    rw [spelled, List.length_cons] at bound
    exact Or.inr ⟨fault_of_literal here, Nat.lt_of_lt_of_le shorter bound⟩
  · split at here
    · cases here
    · rename_i character _ _ _ _ _ _
      cases here
      have again : scanner.skipGap.next = scanner.next := by
        rw [next, next, skipGap_skipGap]
      exact Or.inl ⟨⟨character, rfl⟩, character, _, again.trans step⟩

end Scanner

/-! ## Steps and the scanner -/

namespace Session

variable {Result Next : Type} {session : Session}

/-- A step reads on, and where it fails for a token that cannot be read, the scanner is where its
failure left it. -/
structure Scans (step : Step Result) (session : Session) : Prop where
  shrinks : (step.run session).2.cursor.scanner.rest.length ≤ session.cursor.scanner.rest.length
  stops : ∀ diagnostic reached fault, step.run session = (.error diagnostic, reached) →
    diagnostic.fault = .invalidToken fault →
    ∃ scanner error, Scanner.next scanner = (.error error, reached.cursor.scanner) ∧
      error.fault = fault

theorem Scans.bind {first : Step Result} {second : Result → Step Next}
    (scans : Scans first session)
    (others : ∀ result reached, first.run session = (.ok result, reached) →
      Scans (second result) reached) : Scans (first >>= second) session := by
  rcases first.run_cases session with ⟨result, reached, ran⟩ | ⟨diagnostic, reached, ran⟩
  · have after := others result reached ran
    have shrinks := scans.shrinks
    rw [ran] at shrinks
    refine ⟨?_, ?_⟩
    · rw [Procedure.run_bind_of_ok ran]
      exact Nat.le_trans after.shrinks shrinks
    · rw [Procedure.run_bind_of_ok ran]
      exact after.stops
  · have shrinks := scans.shrinks
    have stops := scans.stops
    rw [ran] at shrinks stops
    refine ⟨?_, ?_⟩
    · rw [Procedure.run_bind_of_error ran]
      exact shrinks
    · rw [Procedure.run_bind_of_error ran]
      intro other last fault failed
      cases failed
      exact stops diagnostic reached fault rfl

/-- Pulling reads on, and fails where the scanner does. -/
theorem scans_pull {answer : Cursor → Except Diagnostic Token}
    (readable : ∀ cursor diagnostic fault, answer cursor = .error diagnostic →
      diagnostic.fault ≠ .invalidToken fault) (session : Session) :
    Scans (reading (Cursor.pull answer)) session := by
  have shrinks := session.cursor.scanner.rest_length_next_le
  rcases found : session.cursor.scanner.next with ⟨error | token, scanner⟩
  · have ran := run_reading_of (Cursor.run_pull_of_error answer found)
    rw [found] at shrinks
    refine ⟨?_, fun diagnostic reached fault step invalid => ?_⟩
    · rw [ran]
      exact shrinks
    · rw [ran] at step
      cases step
      cases invalid
      exact ⟨_, error, found, rfl⟩
  · have ran := run_reading_of (Cursor.run_pull_of_ok answer found)
    rw [found] at shrinks
    refine ⟨?_, fun diagnostic reached fault step invalid => ?_⟩
    · rw [ran]
      exact shrinks
    · rw [ran, Prod.mk.injEq] at step
      exact absurd invalid (readable _ diagnostic fault step.1)

/-- A blind step leaves the scanner alone. -/
theorem Blind.scans {step : Step Result} (blind : Blind step)
    (readable : ∀ diagnostic fault, (step.run session).1 = .error diagnostic →
      diagnostic.fault ≠ .invalidToken fault) : Scans step session := by
  refine ⟨?_, fun diagnostic reached fault ran invalid => ?_⟩
  · rw [blind.scanner_eq]
  · exact absurd invalid (readable diagnostic fault (congrArg Prod.fst ran))

theorem compositional_scans : Compositional fun _ step session => Scans step session where
  bind := Scans.bind
  look := fun _ second => ⟨second.shrinks, second.stops⟩
  blind := fun blind succeeds session =>
    blind.scans fun diagnostic _ failed => absurd failed (succeeds session diagnostic)
  advance := @scans_pull (fun cursor => .ok cursor.current) fun _ _ _ failed => by cases failed
  check := fun kind => scans_pull fun cursor diagnostic fault failed => by
    rw [Cursor.checked] at failed
    split at failed
    · cases failed
    · cases failed
      rintro ⟨⟩

theorem scans_script (session : Session) : Scans script session := by
  refine compositional_scans.script (fun kind session notClone => ?_) session
  refine (compositional_scans.argument session).bind fun literal reached _ => ?_
  refine (Blind.effect notClone literal).scans fun diagnostic fault failed invalid => ?_
  obtain ⟨_, form, count, counted⟩ := fault_of_effect notClone failed
  rw [counted] at invalid
  cases invalid

/-! ## One call -/

/-- Where nothing but the end of the input is ahead, the plan is what there is. -/
theorem exists_plan_of_final (final : session.cursor.current.kind = .endOfInput)
    (settled : session.cursor.Settled) :
    ∃ plan after, script.run session = (.ok plan, after) := by
  have notComment : session.cursor.current.kind ≠ .comment := by
    rw [final]
    exact nofun
  have skipped := run_reading_of (Cursor.run_skipComments_of_ne notComment)
  have peeked : (reading Cursor.peekKind).run session = (.ok .endOfInput, session) := by
    rw [Cursor.peekKind, reading_bind, Procedure.run_bind_of_ok skipped, ← final]
    rfl
  have none : declaration?.run session = (.ok false, session) :=
    Procedure.run_bind_of_ok peeked
  have done : (⟨declarations⟩ : Step Unit).run session = (.ok (), session) := by
    rw [declarations_eq, Procedure.run_bind_of_ok none]
    rfl
  have allowed : (reading (Cursor.allow .semicolon)).run session = (.ok false, session) := by
    rw [Cursor.allow, reading_bind, Procedure.run_bind_of_ok peeked]
    rfl
  have separated : separator.run session = (.ok (), session) :=
    Procedure.run_bind_of_ok allowed
  have pulled := run_reading_of (Cursor.run_pull_of_ok (Cursor.checked .endOfInput)
    (Scanner.next_of_nil (settled final)))
  rw [Cursor.checked, if_pos final] at pulled
  rw [script, Procedure.run_bind_of_ok done, Procedure.run_bind_of_ok separated,
    Cursor.expect_eq_pull, reading_bind]
  refine ⟨_, _, Procedure.run_bind_of_ok (Procedure.run_bind_of_ok skipped |>.trans pulled)⟩

/-- A call that stops at a character that opens no token leaves the scanner stuck. -/
theorem stuck_of_compile {diagnostic : Diagnostic} {reached : Session} {character : Char}
    (failed : compile.run session = (.error diagnostic, reached))
    (stops : diagnostic.fault = .invalidToken (.unexpectedCharacter character)) :
    reached.cursor.scanner.Stuck := by
  have stuck : ∀ {scanner after : Scanner} {error : Scanner.Error},
      scanner.next = (.error error, after) → error.fault = .unexpectedCharacter character →
      after.Stuck := by
    intro scanner after error step stray
    rcases Scanner.stuck_or_shrinks_of_next step with ⟨_, stuck⟩ | ⟨other, _⟩
    · exact stuck
    · exact absurd stray (other character)
  rw [compile_eq] at failed
  rcases found : session.cursor.scanner.next with ⟨error | token, scanner⟩
  · rw [Procedure.run_bind_of_error (run_prime_of_error found)] at failed
    cases failed
    exact stuck found (Diagnostic.Fault.invalidToken.inj stops)
  · rw [Procedure.run_bind_of_ok (run_prime_of_ok found)] at failed
    obtain ⟨_, error, step, stray⟩ := (scans_script _).stops diagnostic reached _ failed stops
    exact stuck step stray

/-- Any other call that fails takes something off the text. -/
theorem shrinks_of_compile {diagnostic : Diagnostic} {reached : Session}
    (failed : compile.run session = (.error diagnostic, reached))
    (passes : ∀ character, diagnostic.fault ≠ .invalidToken (.unexpectedCharacter character)) :
    reached.cursor.scanner.rest.length < session.cursor.scanner.rest.length := by
  rw [compile_eq] at failed
  rcases found : session.cursor.scanner.next with ⟨error | token, scanner⟩
  · rw [Procedure.run_bind_of_error (run_prime_of_error found)] at failed
    cases failed
    rcases Scanner.stuck_or_shrinks_of_next found with ⟨⟨character, stray⟩, _⟩ | ⟨_, shrinks⟩
    · exact absurd (congrArg Diagnostic.Fault.invalidToken stray) (passes character)
    · exact shrinks
  · rw [Procedure.run_bind_of_ok (run_prime_of_ok found)] at failed
    by_cases final : token.kind = .endOfInput
    · obtain ⟨_, _, planned⟩ := @exists_plan_of_final (session.inFront scanner token) final
        (Cursor.settled_of_next found)
      rw [planned] at failed
      cases failed
    · have shrinks := (scans_script (session.inFront scanner token)).shrinks
      rw [failed] at shrinks
      exact Nat.lt_of_le_of_lt shrinks (Scanner.rest_length_lt_of_next found final)

/-- A call of a session whose scanner is stuck fails, and leaves it so. -/
theorem compile_of_stuck (stuck : session.cursor.scanner.Stuck) :
    ∃ diagnostic reached, compile.run session = (.error diagnostic, reached) ∧
      reached.cursor.scanner.Stuck := by
  obtain ⟨character, position, step⟩ := stuck
  rw [compile_eq, Procedure.run_bind_of_error (run_prime_of_error step)]
  exact ⟨_, _, rfl, character, position, step⟩

/-! ## Many calls -/

/-- A session that was asked so many times. -/
def again (session : Session) : Nat → Session
  | 0 => session
  | count + 1 => (compile.run (session.again count)).2

/-- The answer of a session that was asked so many times before. -/
def answer (session : Session) (count : Nat) : Except Diagnostic Plan :=
  (compile.run (session.again count)).1

/-- A call with an error leaves the session in which the next one is made. -/
theorem run_of_answer {count : Nat} {diagnostic : Diagnostic}
    (failed : session.answer count = .error diagnostic) :
    compile.run (session.again count) = (.error diagnostic, session.again (count + 1)) :=
  Prod.ext failed rfl

/-- Behind a call that leaves the scanner stuck, every call fails. -/
theorem exists_error_of_stuck {count : Nat} (stuck : (session.again count).cursor.scanner.Stuck)
    (more : Nat) : ∃ diagnostic, session.answer (count + more) = .error diagnostic ∧
      (session.again (count + more)).cursor.scanner.Stuck := by
  induction more with
  | zero =>
    obtain ⟨diagnostic, _, step, _⟩ := compile_of_stuck stuck
    exact ⟨diagnostic, congrArg Prod.fst step, stuck⟩
  | succ more ih =>
    obtain ⟨_, _, before⟩ := ih
    obtain ⟨_, reached, step, after⟩ := compile_of_stuck before
    have next : session.again (count + (more + 1)) = reached := congrArg Prod.snd step
    rw [next]
    obtain ⟨diagnostic, _, failed, _⟩ := compile_of_stuck after
    refine ⟨diagnostic, ?_, after⟩
    rw [answer, next]
    exact congrArg Prod.fst failed

/-- So many calls that fail, none of them at a character that opens no token, take at least as many
characters off the text. -/
theorem rest_length_again (count : Nat)
    (passes : ∀ earlier < count, ∃ diagnostic, session.answer earlier = .error diagnostic ∧
      ∀ character, diagnostic.fault ≠ .invalidToken (.unexpectedCharacter character)) :
    (session.again count).cursor.scanner.rest.length + count ≤
      session.cursor.scanner.rest.length := by
  induction count with
  | zero => exact Nat.le_refl _
  | succ count ih =>
    obtain ⟨diagnostic, failed, other⟩ := passes count (Nat.lt_succ_self count)
    have shrinks := shrinks_of_compile (run_of_answer failed) other
    have bound := ih fun earlier less => passes earlier (Nat.lt_succ_of_lt less)
    omega

end Session

namespace Script

variable {text filename : String} {around : Surroundings}

/-- After a failure, the calls that follow never come to a plan exactly if one of the first calls
stops at a character that opens no token before any call has come to a plan. -/
theorem never_plan_iff {diagnostic : Diagnostic}
    (failed : (compile text filename around).1 = .error diagnostic) :
    (∀ count plan, (Session.ofText text filename around).answer (count + 1) ≠ .ok plan) ↔
      ∃ count ≤ text.length, ∃ reported character,
        (Session.ofText text filename around).answer count = .error reported ∧
        reported.fault = .invalidToken (.unexpectedCharacter character) ∧
        ∀ earlier < count, ∀ plan,
          (Session.ofText text filename around).answer earlier ≠ .ok plan := by
  generalize started : Session.ofText text filename around = session
  have length : session.cursor.scanner.rest.length = text.length := by
    rw [← started]
    exact String.length_toList
  have first : session.answer 0 = .error diagnostic := by
    rw [← started]
    exact failed
  constructor
  · intro never
    have fails : ∀ count, ∃ reported, session.answer count = .error reported := by
      intro count
      cases count with
      | zero => exact ⟨diagnostic, first⟩
      | succ count =>
        cases answered : session.answer (count + 1) with
        | ok plan => exact absurd answered (never count plan)
        | error reported => exact ⟨reported, rfl⟩
    by_contra none
    have passes : ∀ earlier < text.length + 1, ∃ reported,
        session.answer earlier = .error reported ∧
          ∀ character, reported.fault ≠ .invalidToken (.unexpectedCharacter character) := by
      intro earlier less
      obtain ⟨reported, answered⟩ := fails earlier
      refine ⟨reported, answered, fun character stops => none ?_⟩
      refine ⟨earlier, Nat.le_of_lt_succ less, reported, character, answered, stops, ?_⟩
      intro before _ plan planned
      obtain ⟨other, answered⟩ := fails before
      rw [answered] at planned
      cases planned
    have bound := Session.rest_length_again (text.length + 1) passes
    omega
  · rintro ⟨count, _, reported, character, answered, stops, earlier⟩ later plan planned
    have stuck := Session.stuck_of_compile (Session.run_of_answer answered) stops
    rcases Nat.lt_or_ge (later + 1) (count + 1) with less | more
    · rcases Nat.lt_or_eq_of_le (Nat.le_of_lt_succ less) with before | same
      · exact earlier (later + 1) before plan planned
      · rw [same, answered] at planned
        cases planned
    · obtain ⟨_, again, _⟩ := Session.exists_error_of_stuck stuck (later + 1 - (count + 1))
      rw [Nat.add_sub_of_le more, planned] at again
      cases again

/-- A stray character behind an argument stops the first call and all that follow. -/
theorem never_plan_iff_stray :
    (compile "run @ \"a\"" "f" ⟨.standard "/tmp", .empty, "/w", id⟩).1 =
        .error ⟨"f", ⟨1, 5⟩, .invalidToken (.unexpectedCharacter '@')⟩ ∧
      ∀ count plan,
        (Session.ofText "run @ \"a\"" "f" ⟨.standard "/tmp", .empty, "/w", id⟩).answer
          (count + 1) ≠ .ok plan := by
  have failed : (compile "run @ \"a\"" "f" ⟨.standard "/tmp", .empty, "/w", id⟩).1 =
      .error ⟨"f", ⟨1, 5⟩, .invalidToken (.unexpectedCharacter '@')⟩ := by
    with_unfolding_all rfl
  refine ⟨failed, (never_plan_iff failed).2 ⟨0, Nat.zero_le _, _, '@', failed, rfl, ?_⟩⟩
  exact fun earlier less => absurd less (Nat.not_lt_zero earlier)

/-- A call may come to a plan after a failure: an unexpected word behind a command is passed over,
and the next call answers the command before it. -/
theorem exists_plan_after_error :
    ¬ ∀ (text filename : String) (around : Surroundings) (diagnostic : Diagnostic),
      (compile text filename around).1 = .error diagnostic →
        ∀ count plan, (Session.ofText text filename around).answer (count + 1) ≠ .ok plan := by
  intro never
  have failed : (compile "run \"a\" foo" "f" ⟨.standard "/tmp", .empty, "/w", id⟩).1 =
      .error ⟨"f", ⟨1, 9⟩, .unexpectedToken .endOfInput .unknown⟩ := by
    with_unfolding_all rfl
  have planned : (Session.ofText "run \"a\" foo" "f"
      ⟨.standard "/tmp", .empty, "/w", id⟩).answer 1 = .ok ⟨"f", ["a"], .empty⟩ := by
    with_unfolding_all rfl
  exact never "run \"a\" foo" "f" ⟨.standard "/tmp", .empty, "/w", id⟩ _ failed 0 _ planned

end Script

end SetupScript
