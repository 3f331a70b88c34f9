import SetupScript.Proofs.Steps

/-!
# Conservation

What becomes of the tokens that a cursor pulls, whatever is asked of it and in whatever order.  The
tokens that its scanner has yielded are those that were discarded, handed out, rejected or consumed,
each once and in order, and behind them the one at hand (`Cursor.perform_conserves`).  An operation
that cannot read on takes nothing but comments, and reports the error that its scanner gave.
-/

namespace SetupScript

namespace Scanner

/-! ## The answers of a scanner -/

/-- The answers that a scanner gives one after the other, going on after errors. -/
inductive Answers : Scanner → List (Except Error Token) → Scanner → Prop
  | nil (scanner : Scanner) : Answers scanner [] scanner
  | cons {scanner middle reached : Scanner} {answer : Except Error Token}
      {answers : List (Except Error Token)} (step : scanner.next = (answer, middle))
      (others : Answers middle answers reached) : Answers scanner (answer :: answers) reached

theorem Answers.append {scanner middle reached : Scanner} {first second : List (Except Error Token)}
    (answers : scanner.Answers first middle) (others : middle.Answers second reached) :
    scanner.Answers (first ++ second) reached := by
  induction answers with
  | nil _ => exact others
  | cons step _ ih => exact .cons step (ih others)

/-- The tokens among answers. -/
def tokensAmong (answers : List (Except Error Token)) : List Token :=
  answers.filterMap Except.toOption

/-- The errors among answers. -/
def errorsAmong (answers : List (Except Error Token)) : List Error :=
  answers.filterMap fun
    | .ok _ => none
    | .error error => some error

theorem tokensAmong_append (first second : List (Except Error Token)) :
    tokensAmong (first ++ second) = tokensAmong first ++ tokensAmong second :=
  List.filterMap_append

theorem errorsAmong_append (first second : List (Except Error Token)) :
    errorsAmong (first ++ second) = errorsAmong first ++ errorsAmong second :=
  List.filterMap_append

end Scanner

namespace Cursor

/-! ## Operations -/

/-- What may be asked of a cursor. -/
inductive Operation
  | advance
  | peekKind
  | expect (kind : Token.Kind)
  | allow (kind : Token.Kind)
deriving DecidableEq

/-- What an operation answers: a token, a kind, or whether a token was consumed. -/
inductive Operation.Answer
  | token (token : Token)
  | kind (kind : Token.Kind)
  | consumed (whether : Bool)

/-- How an operation is carried out. -/
def Operation.procedure : Operation → Procedure Cursor Diagnostic Operation.Answer
  | advance => do return .token (← Cursor.advance)
  | peekKind => do return .kind (← Cursor.peekKind)
  | expect kind => do return .token (← Cursor.expect kind)
  | allow kind => do return .consumed (← Cursor.allow kind)

/-- The outcomes of operations one after the other, going on after errors, and the cursor that they
leave. -/
def perform (cursor : Cursor) :
    List Operation → List (Except Diagnostic Operation.Answer) × Cursor
  | [] => ([], cursor)
  | operation :: operations =>
    let (outcome, reached) := operation.procedure.run cursor
    let (outcomes, last) := reached.perform operations
    (outcome :: outcomes, last)

theorem perform_cons (cursor : Cursor) (operation : Operation) (operations : List Operation) :
    cursor.perform (operation :: operations) =
      ((operation.procedure.run cursor).1 ::
          ((operation.procedure.run cursor).2.perform operations).1,
        ((operation.procedure.run cursor).2.perform operations).2) := rfl

/-! ## Turns -/

/-- An operation with its outcome, the comments that it discards, and the token that it takes. -/
structure Turn where
  operation : Operation
  outcome : Except Diagnostic Operation.Answer
  comments : List Token
  taken : Option Token

/-- The token that an operation takes, by its outcome: the one that it hands out, rejects or
consumes.  Nothing is taken where no token can be read, and only `advance` takes a comment. -/
inductive Operation.Takes (filename : String) :
    Operation → Except Diagnostic Operation.Answer → Option Token → Prop
  | advanced (token : Token) : Takes filename .advance (.ok (.token token)) (some token)
  | peeked (kind : Token.Kind) : Takes filename .peekKind (.ok (.kind kind)) none
  | expected {token : Token} (notComment : token.kind ≠ .comment) :
      Takes filename (.expect token.kind) (.ok (.token token)) (some token)
  | rejected {token : Token} {kind : Token.Kind} (notComment : token.kind ≠ .comment)
      (different : token.kind ≠ kind) :
      Takes filename (.expect kind)
        (.error ⟨filename, token.position, .unexpectedToken kind token.kind⟩) (some token)
  | consumed {token : Token} (notComment : token.kind ≠ .comment) :
      Takes filename (.allow token.kind) (.ok (.consumed true)) (some token)
  | denied (kind : Token.Kind) : Takes filename (.allow kind) (.ok (.consumed false)) none
  | unread (operation : Operation) (error : Scanner.Error) :
      Takes filename operation (.error (.ofScannerError filename error)) none

namespace Turn

/-- The tokens that a turn removes. -/
def removed (turn : Turn) : List Token :=
  turn.comments ++ turn.taken.toList

/-- What a turn says of a token that cannot be read. -/
def unread? (turn : Turn) : Option Diagnostic :=
  match turn.outcome with
  | .error ⟨filename, position, .invalidToken fault⟩ =>
    some ⟨filename, position, .invalidToken fault⟩
  | _ => none

/-- A turn takes what its outcome says, and discards comments alone; `advance` discards none. -/
structure Sound (filename : String) (turn : Turn) : Prop where
  takes : turn.operation.Takes filename turn.outcome turn.taken
  comments : ∀ token ∈ turn.comments, token.kind = .comment
  advance : turn.operation = .advance → turn.comments = []

end Turn

/-! ## Removals -/

/-- On the way from one cursor to another, tokens were removed and errors met: the token that was at
hand and those that the scanner yielded are the ones removed and the one now at hand. -/
structure Removes (cursor : Cursor) (removed : List Token) (errors : List Scanner.Error)
    (reached : Cursor) : Prop where
  filename : reached.filename = cursor.filename
  obtained : ∃ answers, cursor.scanner.Answers answers reached.scanner ∧
    cursor.current :: Scanner.tokensAmong answers = removed ++ [reached.current] ∧
    Scanner.errorsAmong answers = errors
  previous : reached.previous = removed.getLast?.getD cursor.previous

namespace Removes

theorem refl (cursor : Cursor) : cursor.Removes [] [] cursor :=
  ⟨rfl, ⟨[], .nil _, rfl, rfl⟩, rfl⟩

theorem trans {cursor middle reached : Cursor} {removed more : List Token}
    {errors others : List Scanner.Error} (first : cursor.Removes removed errors middle)
    (second : middle.Removes more others reached) :
    cursor.Removes (removed ++ more) (errors ++ others) reached := by
  obtain ⟨answers, given, tokens, rfl⟩ := first.obtained
  obtain ⟨later, laterGiven, laterTokens, rfl⟩ := second.obtained
  refine ⟨second.filename.trans first.filename,
    ⟨answers ++ later, given.append laterGiven, ?_, Scanner.errorsAmong_append _ _⟩, ?_⟩
  · rw [Scanner.tokensAmong_append, ← List.cons_append, tokens, List.append_assoc,
      List.singleton_append, laterTokens, List.append_assoc]
  · rw [second.previous, first.previous, List.getLast?_append]
    cases more.getLast? <;> rfl

theorem note (cursor : Cursor) (notice : Notice) : cursor.Removes [] [] (cursor.note notice) :=
  ⟨rfl, ⟨[], .nil _, rfl, rfl⟩, rfl⟩

end Removes

/-- Pulling removes the token at hand, or reports why no other one can be read. -/
theorem pull_cases (answer : Cursor → Except Diagnostic Token) (cursor : Cursor) :
    (∃ reached, (pull answer).run cursor = (answer cursor, reached) ∧
        cursor.Removes [cursor.current] [] reached) ∨
      ∃ error reached,
        (pull answer).run cursor = (.error (.ofScannerError cursor.filename error), reached) ∧
          cursor.Removes [] [error] reached := by
  rcases found : cursor.scanner.next with ⟨error | token, scanner⟩
  · exact Or.inr ⟨error, _, run_pull_of_error answer found,
      rfl, ⟨[.error error], .cons found (.nil _), rfl, rfl⟩, rfl⟩
  · exact Or.inl ⟨_, run_pull_of_ok answer found,
      rfl, ⟨[.ok token], .cons found (.nil _), rfl, rfl⟩, rfl⟩

/-- To advance is to pull a token and hand out the one it replaces. -/
theorem advance_eq_pull : advance = pull fun cursor => .ok cursor.current := rfl

/-- Comments are discarded up to a token that is none, or up to one behind which no token can be
read. -/
inductive Discards (cursor : Cursor) (comments : List Token) :
    Except Diagnostic Unit × Cursor → Prop
  | ended {reached : Cursor} (removes : cursor.Removes comments [] reached)
      (notComment : reached.current.kind ≠ .comment) : Discards cursor comments (.ok (), reached)
  | unread {reached : Cursor} {error : Scanner.Error}
      (removes : cursor.Removes comments [error] reached) :
      Discards cursor comments (.error (.ofScannerError cursor.filename error), reached)

theorem Discards.after {cursor middle : Cursor} {removed comments : List Token}
    {result : Except Diagnostic Unit × Cursor} (discards : middle.Discards comments result)
    (removes : cursor.Removes removed [] middle) :
    cursor.Discards (removed ++ comments) result := by
  cases discards with
  | ended more notComment => exact .ended (removes.trans more) notComment
  | unread more =>
    rw [removes.filename]
    exact .unread (removes.trans more)

theorem exists_discards (cursor : Cursor) :
    ∃ comments, (∀ token ∈ comments, token.kind = .comment) ∧
      cursor.Discards comments (skipComments.run cursor) := by
  show ∃ comments, _ ∧ cursor.Discards comments (dropComments cursor)
  fun_induction dropComments cursor with
  | case1 cursor comment token middle pulled ih =>
    obtain ⟨comments, kinds, discards⟩ := ih
    rcases pull_cases (fun cursor => .ok cursor.current)
        (cursor.note (.skippingComment cursor.current.position)) with
      ⟨_, ran, removes⟩ | ⟨_, _, ran, _⟩
    · rw [← advance_eq_pull, pulled] at ran
      cases ran
      exact ⟨cursor.current :: comments, List.forall_mem_cons.2 ⟨comment, kinds⟩,
        discards.after ((Removes.note cursor _).trans removes)⟩
    · rw [← advance_eq_pull, pulled] at ran
      cases ran
  | case2 cursor comment diagnostic middle pulled =>
    rcases pull_cases (fun cursor => .ok cursor.current)
        (cursor.note (.skippingComment cursor.current.position)) with
      ⟨_, ran, _⟩ | ⟨error, _, ran, removes⟩
    · rw [← advance_eq_pull, pulled] at ran
      cases ran
    · rw [← advance_eq_pull, pulled] at ran
      cases ran
      exact ⟨[], List.forall_mem_nil _, .unread ((Removes.note cursor _).trans removes)⟩
  | case3 cursor notComment => exact ⟨[], List.forall_mem_nil _, .ended (.refl cursor) notComment⟩

/-! ## One operation -/

/-- A turn happens: it is sound, and what it removes and reports is what is removed and met between
two cursors. -/
structure Turn.Happens (cursor : Cursor) (turn : Turn) (reached : Cursor) : Prop where
  sound : turn.Sound cursor.filename
  removes : ∃ errors, cursor.Removes turn.removed errors reached ∧
    errors.map (.ofScannerError cursor.filename) = turn.unread?.toList

/-- Behind the comments, an operation takes what it takes where the token at hand is none. -/
theorem exists_happens_of_skipComments (operation : Operation)
    (behind : Procedure Cursor Diagnostic Operation.Answer)
    (skips : ∀ cursor, operation.procedure.run cursor =
      (skipComments >>= fun _ => behind).run cursor)
    (notAdvance : operation ≠ .advance)
    (takes : ∀ middle : Cursor, middle.current.kind ≠ .comment → ∃ taken errors,
      operation.Takes middle.filename (behind.run middle).1 taken ∧
        middle.Removes taken.toList errors (behind.run middle).2 ∧
        errors.map (.ofScannerError middle.filename) =
          (Turn.unread? ⟨operation, (behind.run middle).1, [], taken⟩).toList)
    (cursor : Cursor) :
    ∃ comments taken, Turn.Happens cursor
      ⟨operation, (operation.procedure.run cursor).1, comments, taken⟩
      (operation.procedure.run cursor).2 := by
  obtain ⟨comments, kinds, discards⟩ := exists_discards cursor
  rw [skips]
  generalize skipped : skipComments.run cursor = result at discards
  cases discards with
  | @ended middle removes notComment =>
    rw [Procedure.run_bind_of_ok skipped]
    obtain ⟨taken, errors, takes, more, reported⟩ := takes middle notComment
    rw [removes.filename] at takes reported
    exact ⟨comments, taken, ⟨takes, kinds, fun same => absurd same notAdvance⟩, errors,
      removes.trans more, reported⟩
  | @unread reached error removes =>
    rw [Procedure.run_bind_of_error skipped]
    refine ⟨comments, none, ⟨.unread operation error, kinds, fun same => absurd same notAdvance⟩,
      [error], ?_, rfl⟩
    rw [Turn.removed, Option.toList_none, List.append_nil]
    exact removes

/-- Whatever is asked of a cursor, a turn happens. -/
theorem exists_happens (operation : Operation) (cursor : Cursor) :
    ∃ comments taken, Turn.Happens cursor
      ⟨operation, (operation.procedure.run cursor).1, comments, taken⟩
      (operation.procedure.run cursor).2 := by
  cases operation with
  | advance =>
    rcases pull_cases (fun cursor => .ok cursor.current) cursor with
      ⟨reached, ran, removes⟩ | ⟨error, reached, ran, removes⟩
    · rw [Operation.procedure, advance_eq_pull, Procedure.run_bind_of_ok ran]
      exact ⟨[], some cursor.current, ⟨.advanced _, List.forall_mem_nil _, fun _ => rfl⟩, [],
        removes, rfl⟩
    · rw [Operation.procedure, advance_eq_pull, Procedure.run_bind_of_error ran]
      exact ⟨[], none, ⟨.unread _ error, List.forall_mem_nil _, fun _ => rfl⟩, [error], removes,
        rfl⟩
  | peekKind =>
    refine exists_happens_of_skipComments .peekKind
      (do return .kind (← Procedure.look).current.kind) (Procedure.run_bind_assoc _ _ _)
      (fun same => by cases same) (fun middle _ => ?_) cursor
    exact ⟨none, [], .peeked middle.current.kind, .refl middle, rfl⟩
  | expect kind =>
    refine exists_happens_of_skipComments (.expect kind) (do return .token (← pull (checked kind)))
      (fun cursor => ?_) (fun same => by cases same) (fun middle notComment => ?_) cursor
    · rw [Operation.procedure, expect_eq_pull, Procedure.run_bind_assoc]
    · rcases pull_cases (checked kind) middle with
        ⟨reached, ran, removes⟩ | ⟨error, reached, ran, removes⟩
      · rw [checked] at ran
        split at ran
        · rename_i same
          subst same
          rw [Procedure.run_bind_of_ok ran]
          exact ⟨some middle.current, [], .expected notComment, removes, rfl⟩
        · rename_i different
          rw [Procedure.run_bind_of_error ran]
          exact ⟨some middle.current, [], .rejected notComment different, removes, rfl⟩
      · rw [Procedure.run_bind_of_error ran]
        exact ⟨none, [error], .unread _ error, removes, rfl⟩
  | allow kind =>
    refine exists_happens_of_skipComments (.allow kind)
      ((Procedure.look >>= fun middle => pure middle.current.kind) >>= fun actual =>
        (if actual = kind then advance >>= fun _ => pure true else pure false) >>= fun consumed =>
          pure (.consumed consumed))
      (fun cursor => ?_) (fun same => by cases same) (fun middle notComment => ?_) cursor
    · rw [Operation.procedure, allow, peekKind, Procedure.run_bind_assoc, Procedure.run_bind_assoc]
    · rw [@Procedure.run_bind_of_ok _ _ _ _ _ _ middle middle middle.current.kind rfl]
      by_cases same : middle.current.kind = kind
      · subst same
        rw [if_pos rfl, Procedure.run_bind_assoc]
        rcases pull_cases (fun cursor => .ok cursor.current) middle with
          ⟨reached, ran, removes⟩ | ⟨error, reached, ran, removes⟩
        · rw [advance_eq_pull, Procedure.run_bind_of_ok ran]
          exact ⟨some middle.current, [], .consumed notComment, removes, rfl⟩
        · rw [advance_eq_pull, Procedure.run_bind_of_error ran]
          exact ⟨none, [error], .unread _ error, removes, rfl⟩
      · rw [if_neg same]
        exact ⟨none, [], .denied kind, .refl middle, rfl⟩

/-! ## Many operations -/

/-- Whatever is asked of a cursor, one operation after the other, turns happen, and what they remove
and report is what is removed and met on the way. -/
theorem exists_turns (operations : List Operation) (cursor : Cursor) :
    ∃ turns : List Turn, turns.map Turn.operation = operations ∧
      turns.map Turn.outcome = (cursor.perform operations).1 ∧
      (∀ turn ∈ turns, turn.Sound cursor.filename) ∧
      ∃ errors, cursor.Removes (turns.flatMap Turn.removed) errors (cursor.perform operations).2 ∧
        errors.map (.ofScannerError cursor.filename) = turns.filterMap Turn.unread? := by
  induction operations generalizing cursor with
  | nil => exact ⟨[], rfl, rfl, List.forall_mem_nil _, [], .refl cursor, rfl⟩
  | cons operation operations ih =>
    obtain ⟨comments, taken, sound, errors, removes, reported⟩ := exists_happens operation cursor
    obtain ⟨turns, asked, outcomes, sounds, others, more, alsoReported⟩ :=
      ih (operation.procedure.run cursor).2
    rw [removes.filename] at sounds alsoReported
    rw [perform_cons]
    refine ⟨⟨operation, _, comments, taken⟩ :: turns, ?_, ?_,
      List.forall_mem_cons.2 ⟨sound, sounds⟩, errors ++ others, removes.trans more, ?_⟩
    · rw [List.map_cons, asked]
    · rw [List.map_cons, outcomes]
    · rw [List.map_append, reported, alsoReported, List.filterMap_cons]
      cases Turn.unread? _ <;> rfl

/-! ## Looking ahead -/

/-- What is not consumed was only looked at. -/
theorem run_allow_eq_false_iff {kind : Token.Kind} {cursor reached : Cursor} :
    (allow kind).run cursor = (.ok false, reached) ↔
      ∃ actual, actual ≠ kind ∧ peekKind.run cursor = (.ok actual, reached) := by
  constructor
  · intro step
    obtain ⟨actual, middle, peeked, rest⟩ := Procedure.run_bind_eq_ok_iff.1 step
    split at rest
    · obtain ⟨_, _, _, done⟩ := Procedure.run_bind_eq_ok_iff.1 rest
      cases done
    · rename_i different
      cases rest
      exact ⟨actual, different, peeked⟩
  · rintro ⟨actual, different, peeked⟩
    rw [allow, Procedure.run_bind_of_ok peeked, if_neg different]
    rfl

/-- Looking again finds the same kind and changes nothing. -/
theorem run_peekKind_of_peekKind {actual : Token.Kind} {cursor reached : Cursor}
    (peeked : peekKind.run cursor = (.ok actual, reached)) :
    peekKind.run reached = (.ok actual, reached) := by
  obtain ⟨_, atHand, notComment⟩ := reads_of_peekKind peeked
  subst atHand
  rw [peekKind, Procedure.run_bind_of_ok (run_skipComments_of_ne notComment)]
  rfl

/-- Whatever is asked of a cursor in front of the first token of a text, in whatever order and going
on after errors, the tokens that the scanner has yielded are those that were discarded as comments,
handed out, rejected or consumed, each once and in order, and behind them the one at hand; the one
before it is the last of those removed.  Every error that the scanner gave was reported, once and in
order.  Not to consume a token is only to look at it, and to look again changes nothing. -/
theorem perform_conserves {text filename : String} {placeholder : Token} {cursor : Cursor}
    (primed : advance.run (unprimed filename (Scanner.ofString text) []) =
      (.ok placeholder, cursor)) :
    (∀ operations, ∃ (turns : List Turn) (answers : List (Except Scanner.Error Token)),
      turns.map Turn.operation = operations ∧
      turns.map Turn.outcome = (cursor.perform operations).1 ∧
      (∀ turn ∈ turns, turn.Sound filename) ∧
      (Scanner.ofString text).Answers answers (cursor.perform operations).2.scanner ∧
      Scanner.tokensAmong answers =
        turns.flatMap Turn.removed ++ [(cursor.perform operations).2.current] ∧
      (cursor.perform operations).2.previous =
        (turns.flatMap Turn.removed).getLast?.getD (.final .origin) ∧
      (Scanner.errorsAmong answers).map (.ofScannerError filename) =
        turns.filterMap Turn.unread?) ∧
    (∀ (kind : Token.Kind) (cursor reached : Cursor),
      (allow kind).run cursor = (.ok false, reached) ↔
        ∃ actual, actual ≠ kind ∧ peekKind.run cursor = (.ok actual, reached)) ∧
    ∀ (actual : Token.Kind) (cursor reached : Cursor),
      peekKind.run cursor = (.ok actual, reached) →
        peekKind.run reached = (.ok actual, reached) := by
  refine ⟨fun operations => ?_, fun _ _ _ => run_allow_eq_false_iff,
    fun _ _ _ => run_peekKind_of_peekKind⟩
  rcases pull_cases (fun cursor => .ok cursor.current)
      (unprimed filename (Scanner.ofString text) []) with ⟨_, ran, first⟩ | ⟨_, _, ran, _⟩
  · rw [← advance_eq_pull, primed] at ran
    cases ran
    obtain ⟨turns, asked, outcomes, sounds, errors, removes, reported⟩ :=
      exists_turns operations cursor
    rw [first.filename] at sounds reported
    obtain ⟨answers, given, tokens, met⟩ := (first.trans removes).obtained
    refine ⟨turns, answers, asked, outcomes, sounds, given, ?_, ?_, ?_⟩
    · exact (List.cons.inj tokens).2
    · exact removes.previous.trans (congrArg _ first.previous)
    · rw [met]
      exact reported
  · rw [← advance_eq_pull, primed] at ran
    cases ran

/-- A literal that a line feed breaks off is met while a semicolon is to be rejected: the semicolon
stays at hand, and is rejected when a string is asked for again. -/
theorem perform_conserves_broken :
    ∃ (operations : List Operation) (placeholder : Token) (cursor : Cursor),
      advance.run (unprimed "f" (Scanner.ofString "// c\nrun ; \"b\n\"c\"") []) =
        (.ok placeholder, cursor) ∧
      (cursor.perform operations).1 =
        [.ok (.kind .run), .ok (.token ⟨.run, "run", ⟨2, 1⟩⟩),
          .error ⟨"f", ⟨2, 9⟩, .invalidToken .lineFeedInLiteral⟩,
          .error ⟨"f", ⟨2, 5⟩, .unexpectedToken .string .semicolon⟩,
          .ok (.consumed false), .ok (.token ⟨.string, "c", ⟨3, 1⟩⟩)] ∧
      ∃ turns : List Turn, turns.map Turn.operation = operations ∧
        turns.map Turn.outcome = (cursor.perform operations).1 ∧
        (∀ turn ∈ turns, turn.Sound "f") ∧
        (cursor.perform operations).2.previous =
          (turns.flatMap Turn.removed).getLast?.getD (.final .origin) := by
  obtain ⟨cursor, primed, outcomes⟩ : ∃ cursor,
      advance.run (unprimed "f" (Scanner.ofString "// c\nrun ; \"b\n\"c\"") []) =
        (.ok (.final .origin), cursor) ∧
      (cursor.perform
          [.peekKind, .advance, .expect .string, .expect .string, .allow .comment, .advance]).1 =
        [.ok (.kind .run), .ok (.token ⟨.run, "run", ⟨2, 1⟩⟩),
          .error ⟨"f", ⟨2, 9⟩, .invalidToken .lineFeedInLiteral⟩,
          .error ⟨"f", ⟨2, 5⟩, .unexpectedToken .string .semicolon⟩,
          .ok (.consumed false), .ok (.token ⟨.string, "c", ⟨3, 1⟩⟩)] :=
    ⟨_, Prod.ext (by with_unfolding_all rfl) rfl, by with_unfolding_all rfl⟩
  obtain ⟨turns, _, asked, took, sounds, _, _, previous, _⟩ := (perform_conserves primed).1
    [.peekKind, .advance, .expect .string, .expect .string, .allow .comment, .advance]
  exact ⟨_, _, cursor, primed, outcomes, turns, asked, took, sounds, previous⟩

end Cursor

end SetupScript
