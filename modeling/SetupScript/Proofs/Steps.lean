import SetupScript.Proofs.Compilation

/-!
# Steps

How a compilation is put together.  Every step of it is made of a few: steps that do not look ahead
(`Session.Blind`), the pulling of the next token, and looks at the session.  What passes from these
to all that is made of them (`Session.Compositional`) holds of the whole compilation behind its
first token (`Session.script`).
-/

namespace SetupScript

/-! ## Pulling -/

namespace Cursor

/-- Pull the next token and answer something about the one it replaces. -/
def pull (answer : Cursor → Except Diagnostic Token) : Procedure Cursor Diagnostic Token :=
  ⟨fun cursor =>
    match cursor.scanner.next with
    | (.ok token, scanner) =>
      (answer cursor,
        { cursor with scanner := scanner, previous := cursor.current, current := token })
    | (.error error, scanner) =>
      (.error (.ofScannerError cursor.filename error), { cursor with scanner := scanner })⟩

/-- The token at hand, which must be of the given kind. -/
def checked (kind : Token.Kind) (cursor : Cursor) : Except Diagnostic Token :=
  if cursor.current.kind = kind then .ok cursor.current
  else .error
    ⟨cursor.filename, cursor.current.position, .unexpectedToken kind cursor.current.kind⟩

section Pull

variable {cursor : Cursor} {scanner : Scanner} (answer : Cursor → Except Diagnostic Token)

theorem run_pull_of_ok {token : Token} (step : cursor.scanner.next = (.ok token, scanner)) :
    (pull answer).run cursor = (answer cursor,
      { cursor with scanner := scanner, previous := cursor.current, current := token }) := by
  simp only [pull, step]

theorem run_pull_of_error {error : Scanner.Error}
    (step : cursor.scanner.next = (.error error, scanner)) :
    (pull answer).run cursor =
      (.error (.ofScannerError cursor.filename error), { cursor with scanner := scanner }) := by
  simp only [pull, step]

end Pull

/-- Insisting on a kind is to drop the comments and pull the next token before the one it replaces
is checked. -/
theorem expect_eq_pull (kind : Token.Kind) :
    expect kind = skipComments >>= fun _ => pull (checked kind) := by
  refine congrArg (skipComments >>= ·)
    (funext fun _ => congrArg Procedure.mk (funext fun cursor => ?_))
  rcases found : cursor.scanner.next with ⟨error | token, scanner⟩
  · simp only [advance, found]
  · simp only [advance, found, checked]
    split <;> rfl

/-- The comment at hand is noted and dropped, and then those behind it. -/
theorem run_skipComments_of_comment {cursor : Cursor} (comment : cursor.current.kind = .comment) :
    skipComments.run cursor = (advance >>= fun _ => skipComments).run
      (cursor.note (.skippingComment cursor.current.position)) := by
  show cursor.dropComments = _
  rw [dropComments, dif_pos comment, Procedure.run_bind]
  split
  · rename_i pulled
    rw [pulled]
    rfl
  · rename_i pulled
    rw [pulled]

theorem run_skipComments_of_ne {cursor : Cursor} (notComment : cursor.current.kind ≠ .comment) :
    skipComments.run cursor = (.ok (), cursor) := by
  show cursor.dropComments = _
  rw [dropComments, dif_neg notComment]

end Cursor

namespace Session

variable {Result Next : Type} {session : Session}

/-! ## Equations -/

theorem run_reading_of {procedure : Procedure Cursor Diagnostic Result} {cursor : Cursor}
    {outcome : Except Diagnostic Result} (ran : procedure.run session.cursor = (outcome, cursor)) :
    (reading procedure).run session = (outcome, session.withCursor cursor) :=
  congrArg (fun result => (result.1, session.withCursor result.2)) ran

theorem reading_bind (first : Procedure Cursor Diagnostic Result)
    (second : Result → Procedure Cursor Diagnostic Next) :
    reading (first >>= second) = reading first >>= fun result => reading (second result) := by
  refine congrArg Procedure.mk (funext fun session => ?_)
  dsimp only
  rw [Procedure.run_bind]
  rcases ran : first.run session.cursor with ⟨error | result, cursor⟩
  · rw [run_reading_of ran]
  · rw [run_reading_of ran]
    rfl

theorem skipComments_eq : reading Cursor.skipComments = Procedure.look >>= fun session =>
    if session.cursor.current.kind = .comment then
      note (.skippingComment session.cursor.current.position) >>= fun _ =>
        reading Cursor.advance >>= fun _ => reading Cursor.skipComments
    else pure () := by
  refine congrArg Procedure.mk (funext fun session => ?_)
  show ((Cursor.skipComments.run session.cursor).1,
    session.withCursor (Cursor.skipComments.run session.cursor).2) = (ite _ _ _ : Step Unit).run _
  split
  · rename_i comment
    rw [Cursor.run_skipComments_of_comment comment, ← reading_bind]
    rfl
  · rename_i notComment
    rw [Cursor.run_skipComments_of_ne notComment]
    rfl

theorem argument_eq :
    argument = reading Cursor.advance >>= fun _ => reading (Cursor.expect .string) :=
  reading_bind _ _

/-- One round of the loop, and then the others if there was a declaration. -/
theorem declarations_eq : (⟨declarations⟩ : Step Unit) = declaration? >>= fun again =>
    if again then ⟨declarations⟩ else pure () := by
  refine congrArg Procedure.mk (funext fun session => ?_)
  rw [declarations]
  split
  · rename_i step
    rw [step]
    rfl
  · rename_i step
    rw [step]
    rfl
  · rename_i step
    rw [step]

/-- The session in front of a first token, with the scanner that yielded it. -/
def inFront (session : Session) (scanner : Scanner) (token : Token) : Session :=
  session.withCursor
    ⟨session.cursor.filename, scanner, .final .origin, token, session.cursor.notices⟩

/-- Priming is to pull the first token from a cursor that has none. -/
theorem run_prime (session : Session) :
    prime.run session = ((reading Cursor.advance) >>= fun _ => pure ()).run
      (session.inFront session.cursor.scanner (.final .origin)) := rfl

theorem run_prime_of_ok {token : Token} {scanner : Scanner}
    (found : session.cursor.scanner.next = (.ok token, scanner)) :
    prime.run session = (.ok (), session.inFront scanner token) := by
  have advanced := @run_reading_of _ (session.inFront session.cursor.scanner (.final .origin)) _ _ _
    (Cursor.run_pull_of_ok (fun cursor => .ok cursor.current) found)
  rw [run_prime]
  exact Procedure.run_bind_of_ok advanced

theorem run_prime_of_error {error : Scanner.Error} {scanner : Scanner}
    (found : session.cursor.scanner.next = (.error error, scanner)) :
    prime.run session = (.error (.ofScannerError session.cursor.filename error),
      session.inFront scanner (.final .origin)) := by
  have advanced := @run_reading_of _ (session.inFront session.cursor.scanner (.final .origin)) _ _ _
    (Cursor.run_pull_of_error (fun cursor => .ok cursor.current) found)
  rw [run_prime]
  exact Procedure.run_bind_of_error advanced

/-- What a compilation does behind the first token. -/
def script : Step Plan := do
  ⟨declarations⟩
  separator
  let _ ← reading (Cursor.expect .endOfInput)
  let session ← Procedure.look
  note (.compiled session.commands.length session.bindings.size session.cursor.filename)
  return session.plan

theorem compile_eq : compile = prime >>= fun _ => script := rfl

/-! ## Blind steps -/

/-- The session with other tokens, the one before and the one at hand, and another scanner behind
them. -/
def facing (session : Session) (scanner : Scanner) (previous current : Token) : Session :=
  session.withCursor
    { session.cursor with scanner := scanner, previous := previous, current := current }

/-- A step that looks at no token, and takes none. -/
def Blind (step : Step Result) : Prop :=
  ∀ session scanner previous current, step.run (session.facing scanner previous current) =
    ((step.run session).1, (step.run session).2.facing scanner previous current)

namespace Blind

theorem bind {first : Step Result} {second : Result → Step Next} (blind : Blind first)
    (others : ∀ result, Blind (second result)) : Blind (first >>= second) := by
  intro session scanner previous current
  have same := blind session scanner previous current
  rcases ran : first.run session with ⟨diagnostic | result, reached⟩
  · rw [ran] at same
    rw [Procedure.run_bind_of_error same, Procedure.run_bind_of_error ran]
  · rw [ran] at same
    rw [Procedure.run_bind_of_ok same, Procedure.run_bind_of_ok ran]
    exact others result reached scanner previous current

theorem pure (result : Result) : Blind (Pure.pure result) :=
  fun _ _ _ _ => rfl

theorem fail (diagnostic : Diagnostic) : Blind (Procedure.fail diagnostic : Step Result) :=
  fun _ _ _ _ => rfl

theorem change {update : Session → Session}
    (commutes : ∀ session scanner previous current,
      update (session.facing scanner previous current) =
        (update session).facing scanner previous current) :
    Blind (Procedure.change update) :=
  fun session scanner previous current =>
    congrArg (Prod.mk _) (commutes session scanner previous current)

theorem look {second : Session → Step Result}
    (same : ∀ session scanner previous current,
      second (session.facing scanner previous current) = second session)
    (others : ∀ session, Blind (second session)) : Blind (Procedure.look >>= second) := by
  intro session scanner previous current
  show (second (session.facing scanner previous current)).run
    (session.facing scanner previous current) = _
  rw [same]
  exact others session session scanner previous current

theorem note (notice : Notice) : Blind (note notice) :=
  change fun _ _ _ _ => rfl

theorem emit (command : String) : Blind (emit command) :=
  change fun _ _ _ _ => rfl

theorem bindName (name value : String) : Blind (Session.bind name value) :=
  change fun _ _ _ _ => rfl

theorem drawStagingPath : Blind drawStagingPath :=
  look (fun _ _ _ _ => rfl) fun _ => bind (change fun _ _ _ _ => rfl) fun _ => pure _

theorem noteUnbound (names : List String) : Blind (noteUnbound names) := by
  refine change fun session scanner previous current => ?_
  have commutes : ∀ cursor : Cursor,
      names.foldl (fun cursor name => cursor.note (.unboundReference name))
          { cursor with scanner := scanner, previous := previous, current := current } =
        { names.foldl (fun cursor name => cursor.note (.unboundReference name)) cursor with
          scanner := scanner, previous := previous, current := current } := by
    induction names with
    | nil => exact fun _ => rfl
    | cons name names ih => exact fun cursor => ih (cursor.note (.unboundReference name))
  exact congrArg session.withCursor (commutes session.cursor)

theorem substitute (text : String) : Blind (substitute text) :=
  look (fun _ _ _ _ => rfl) fun _ => bind (noteUnbound _) fun _ => pure _

theorem twoParts (form : Diagnostic.Form) (literal : Token) : Blind (twoParts form literal) := by
  refine bind (substitute _) fun text => ?_
  split
  · exact pure _
  · exact look (fun _ _ _ _ => rfl) fun _ => fail _

theorem run (literal : Token) : Blind (run literal) :=
  bind (substitute _) fun _ => bind (note _) fun _ => emit _

theorem extract (literal : Token) : Blind (extract literal) :=
  bind (twoParts _ _) fun _ => look (fun _ _ _ _ => rfl) fun _ => bind (note _) fun _ => emit _

theorem set (literal : Token) : Blind (set literal) :=
  bind (twoParts _ _) fun _ => bind (note _) fun _ => bindName _ _

/-- What is made of the argument of a declaration other than a clone. -/
theorem effect {kind : Token.Kind} (notClone : kind ≠ .clone) (literal : Token) :
    Blind (effect kind literal) := by
  cases kind with
  | clone => exact absurd rfl notClone
  | run => exact .run literal
  | extract => exact .extract literal
  | set => exact .set literal
  | _ => exact .pure ()

end Blind

/-- A blind step leaves what is ahead as it is. -/
theorem Blind.reached_eq {step : Step Result} (blind : Blind step) (session : Session) :
    (step.run session).2 =
      (step.run session).2.facing session.cursor.scanner session.cursor.previous
        session.cursor.current :=
  congrArg Prod.snd (blind session session.cursor.scanner session.cursor.previous
    session.cursor.current)

theorem Blind.current_eq {step : Step Result} (blind : Blind step) (session : Session) :
    (step.run session).2.cursor.current = session.cursor.current :=
  congrArg (fun after => after.cursor.current) (blind.reached_eq session)

theorem Blind.previous_eq {step : Step Result} (blind : Blind step) (session : Session) :
    (step.run session).2.cursor.previous = session.cursor.previous :=
  congrArg (fun after => after.cursor.previous) (blind.reached_eq session)

theorem Blind.scanner_eq {step : Step Result} (blind : Blind step) (session : Session) :
    (step.run session).2.cursor.scanner = session.cursor.scanner :=
  congrArg (fun after => after.cursor.scanner) (blind.reached_eq session)

/-! ## Composed steps -/

/-- What holds of a step in a session if it holds of the parts of the step: of blind steps that do
not fail, of what is pulled, and of what depends on the session at hand, the scanner apart. -/
structure Compositional (Holds : ∀ Result : Type, Step Result → Session → Prop) : Prop where
  bind : ∀ {Result Next : Type} {first : Step Result} {second : Result → Step Next}
    {session : Session}, Holds Result first session →
    (∀ result reached, first.run session = (.ok result, reached) →
      Holds Next (second result) reached) → Holds Next (first >>= second) session
  look : ∀ {Result : Type} {second : Session → Step Result} {session : Session},
    (∀ scanner, second (session.facing scanner session.cursor.previous session.cursor.current) =
      second session) →
    Holds Result (second session) session → Holds Result (Procedure.look >>= second) session
  blind : ∀ {Result : Type} {step : Step Result}, Blind step →
    (∀ session diagnostic, (step.run session).1 ≠ .error diagnostic) →
    ∀ session, Holds Result step session
  advance : ∀ session, Holds Token (reading Cursor.advance) session
  check : ∀ kind session, Holds Token (reading (Cursor.pull (Cursor.checked kind))) session

namespace Compositional

variable {Holds : ∀ Result : Type, Step Result → Session → Prop} (parts : Compositional Holds)
include parts

theorem pure (result : Result) (session : Session) : Holds Result (Pure.pure result) session :=
  parts.blind (.pure result) (fun _ _ => nofun) session

theorem skipComments (session : Session) : Holds Unit (reading Cursor.skipComments) session := by
  generalize measured : session.pending = measure
  induction measure using Nat.strong_induction_on generalizing session with
  | _ measure ih =>
    subst measured
    rw [skipComments_eq]
    refine parts.look (fun _ => rfl) ?_
    split
    · rename_i comment
      refine parts.bind (parts.blind (.note _) (fun _ _ => nofun) session) fun _ noted step => ?_
      refine parts.bind (parts.advance noted) fun _ reached pulled => ?_
      cases step
      have notFinal : session.cursor.current.kind ≠ .endOfInput := by
        rw [comment]
        exact nofun
      have less : reached.pending < session.pending :=
        @Cursor.pending_lt_of_advance (session.cursor.note _) _ _ notFinal
          (run_cursor_of_reading pulled)
      exact ih _ less reached rfl
    · exact parts.pure () session

theorem peekKind (session : Session) : Holds Token.Kind (reading Cursor.peekKind) session := by
  rw [Cursor.peekKind, reading_bind]
  exact parts.bind (parts.skipComments session) fun _ reached _ =>
    @look _ parts _ (fun session => Pure.pure session.cursor.current.kind) _ (fun _ => rfl)
      (parts.pure _ reached)

theorem expect (kind : Token.Kind) (session : Session) :
    Holds Token (reading (Cursor.expect kind)) session := by
  rw [Cursor.expect_eq_pull, reading_bind]
  exact parts.bind (parts.skipComments session) fun _ reached _ => parts.check kind reached

theorem allow (kind : Token.Kind) (session : Session) :
    Holds Bool (reading (Cursor.allow kind)) session := by
  rw [Cursor.allow, reading_bind]
  refine parts.bind (parts.peekKind session) fun actual reached _ => ?_
  split
  · rw [reading_bind]
    exact parts.bind (parts.advance reached) fun _ after _ => parts.pure true after
  · exact parts.pure false reached

theorem argument (session : Session) : Holds Token argument session := by
  rw [argument_eq]
  exact parts.bind (parts.advance session) fun _ reached _ => parts.expect .string reached

theorem bindClone (path : String) (session : Session) : Holds Unit (bindClone path) session := by
  refine parts.bind (parts.allow .as session) fun named reached _ => ?_
  split
  · refine parts.bind (parts.expect .string reached) fun name after _ => ?_
    exact parts.blind ((Blind.note _).bind fun _ => Blind.bindName name.text path)
      (fun _ _ => nofun) after
  · exact parts.pure () reached

theorem clone (literal : Token) (session : Session) : Holds Unit (clone literal) session := by
  refine parts.bind (parts.blind .drawStagingPath (fun _ _ => nofun) session)
    fun path reached _ => ?_
  refine parts.bind (parts.bindClone path reached) fun _ after _ => ?_
  refine parts.blind ?_ (fun _ _ failed => ?_) after
  · exact (Blind.note _).bind fun _ => .look (fun _ _ _ _ => rfl) fun _ => Blind.emit _
  · cases failed

theorem separator (session : Session) : Holds Unit separator session :=
  parts.bind (parts.allow .semicolon session) fun _ reached _ => parts.pure () reached

variable (others : ∀ kind session, kind ≠ .clone → Holds Unit (declaration kind) session)
include others

theorem declaration? (session : Session) : Holds Bool declaration? session := by
  refine parts.bind (parts.peekKind session) fun kind reached _ => ?_
  split
  · refine parts.bind ?_ fun _ after _ =>
      parts.bind (parts.separator after) fun _ last _ => parts.pure true last
    by_cases clones : kind = .clone
    · subst clones
      exact parts.bind (parts.argument reached) fun literal after _ => parts.clone literal after
    · exact others kind reached clones
  · exact parts.pure false reached

theorem declarations (session : Session) : Holds Unit ⟨declarations⟩ session := by
  generalize measured : session.pending = measure
  induction measure using Nat.strong_induction_on generalizing session with
  | _ measure ih =>
    subst measured
    rw [declarations_eq]
    refine parts.bind (parts.declaration? others session) fun again reached step => ?_
    cases again with
    | true => exact ih _ (pending_lt_of_declaration? step) reached rfl
    | false => exact parts.pure () reached

/-- What holds of the parts of a step holds of all that a compilation does behind the first token,
provided that it holds of the declarations that are no clones. -/
theorem script (session : Session) : Holds Plan script session := by
  refine parts.bind (parts.declarations others session) fun _ done _ => ?_
  refine parts.bind (parts.separator done) fun _ separated _ => ?_
  refine parts.bind (parts.expect .endOfInput separated) fun _ ended _ => ?_
  refine parts.blind ?_ (fun _ _ failed => ?_) ended
  · exact .look (fun _ _ _ _ => rfl) fun _ => (Blind.note _).bind fun _ => .pure _
  · cases failed

end Compositional

end Session

end SetupScript
