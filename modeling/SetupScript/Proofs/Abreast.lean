import SetupScript.Proofs.Steps

/-!
# Abreast

Two compilations of one text in different surroundings.  They read the same tokens and differ in
what they make of them, and that decides about the way only where an argument is cut in two.  If
both cut alike, wherever both come to the same declaration, they fail with the same diagnostic or
both answer a plan (`Script.compile_abreast`).
-/

namespace SetupScript

/-! ## Two procedures -/

namespace Procedure

variable {State Error Result Other Next OtherNext : Type} {Abreast : State → State → Prop}
  {Linked : Result → Other → Prop} {NextLinked : Next → OtherNext → Prop}

/-- Two procedures failed with the same error, or both returned; their results are linked then, and
their states are abreast in either case. -/
inductive Alongside (Abreast : State → State → Prop) (Linked : Result → Other → Prop) :
    Except Error Result × State → Except Error Other × State → Prop
  | failed {error : Error} {reached other : State} (abreast : Abreast reached other) :
      Alongside Abreast Linked (.error error, reached) (.error error, other)
  | returned {result : Result} {otherResult : Other} {reached other : State}
      (linked : Linked result otherResult) (abreast : Abreast reached other) :
      Alongside Abreast Linked (.ok result, reached) (.ok otherResult, other)

/-- What goes on alongside behind two procedures that are alongside is alongside as a whole. -/
theorem Alongside.bind {first : Procedure State Error Result}
    {otherFirst : Procedure State Error Other} {second : Result → Procedure State Error Next}
    {otherSecond : Other → Procedure State Error OtherNext} {state otherState : State}
    (front : Alongside Abreast Linked (first.run state) (otherFirst.run otherState))
    (behind : ∀ {result otherResult reached otherReached},
      first.run state = (.ok result, reached) →
      otherFirst.run otherState = (.ok otherResult, otherReached) →
      Linked result otherResult → Abreast reached otherReached →
      Alongside Abreast NextLinked ((second result).run reached)
        ((otherSecond otherResult).run otherReached)) :
    Alongside Abreast NextLinked ((first >>= second).run state)
      ((otherFirst >>= otherSecond).run otherState) := by
  generalize ran : first.run state = outcome at front
  generalize otherRan : otherFirst.run otherState = otherOutcome at front
  cases front with
  | failed abreast =>
    rw [run_bind_of_error ran, run_bind_of_error otherRan]
    exact .failed abreast
  | returned linked abreast =>
    rw [run_bind_of_ok ran, run_bind_of_ok otherRan]
    exact behind ran otherRan linked abreast

end Procedure

/-! ## Cursors -/

namespace Cursor

open Procedure (Alongside)

variable {Result Next : Type} {cursor other : Cursor}

/-- Two cursors that differ in their notices only. -/
def Abreast (cursor other : Cursor) : Prop :=
  ∃ notices, other = { cursor with notices := notices }

namespace Abreast

theorem filename_eq (abreast : cursor.Abreast other) : other.filename = cursor.filename := by
  obtain ⟨_, rfl⟩ := abreast
  rfl

theorem upcoming_eq (abreast : cursor.Abreast other) : other.upcoming = cursor.upcoming := by
  obtain ⟨_, rfl⟩ := abreast
  rfl

theorem note (abreast : cursor.Abreast other) (notice otherNotice : Notice) :
    (cursor.note notice).Abreast (other.note otherNotice) := by
  obtain ⟨_, rfl⟩ := abreast
  exact ⟨_, rfl⟩

theorem foldl_note (abreast : cursor.Abreast other) (names otherNames : List String) :
    (names.foldl (fun cursor name => cursor.note (.unboundReference name)) cursor).Abreast
      (otherNames.foldl (fun cursor name => cursor.note (.unboundReference name)) other) := by
  induction names generalizing cursor with
  | nil =>
    induction otherNames generalizing other with
    | nil => exact abreast
    | cons name names ih =>
      obtain ⟨_, rfl⟩ := abreast
      exact ih ⟨_, rfl⟩
  | cons name names ih =>
    obtain ⟨_, rfl⟩ := abreast
    exact ih ⟨_, rfl⟩

end Abreast

/-- An operation that the notices of a cursor do not concern. -/
def Silent (procedure : Procedure Cursor Diagnostic Result) : Prop :=
  ∀ cursor other, cursor.Abreast other →
    Alongside Abreast Eq (procedure.run cursor) (procedure.run other)

namespace Silent

theorem pure (result : Result) : Silent (Pure.pure result) :=
  fun _ _ abreast => .returned rfl abreast

theorem bind {first : Procedure Cursor Diagnostic Result}
    {second : Result → Procedure Cursor Diagnostic Next} (silent : Silent first)
    (others : ∀ result, Silent (second result)) : Silent (first >>= second) := by
  intro cursor other abreast
  refine (silent cursor other abreast).bind fun _ _ same reached => ?_
  subst same
  exact others _ _ _ reached

theorem pull {answer : Cursor → Except Diagnostic Token}
    (same : ∀ cursor notices, answer { cursor with notices := notices } = answer cursor) :
    Silent (Cursor.pull answer) := by
  rintro cursor _ ⟨notices, rfl⟩
  rcases found : cursor.scanner.next with ⟨error | token, scanner⟩
  · rw [run_pull_of_error answer found,
      @run_pull_of_error { cursor with notices := notices } _ answer _ found]
    exact .failed ⟨notices, rfl⟩
  · rw [run_pull_of_ok answer found,
      @run_pull_of_ok { cursor with notices := notices } _ answer _ found, same cursor notices]
    cases answer cursor with
    | error diagnostic => exact .failed ⟨notices, rfl⟩
    | ok token => exact .returned rfl ⟨notices, rfl⟩

theorem advance : Silent advance :=
  @pull (fun cursor => .ok cursor.current) fun _ _ => rfl

theorem skipComments : Silent skipComments := by
  intro cursor other abreast
  generalize measured : cursor.pending = measure
  induction measure using Nat.strong_induction_on generalizing cursor other with
  | _ measure ih =>
    subst measured
    obtain ⟨notices, rfl⟩ := abreast
    by_cases comment : cursor.current.kind = .comment
    · rw [run_skipComments_of_comment comment,
        @run_skipComments_of_comment { cursor with notices := notices } comment]
      refine (advance _ _ ⟨_, rfl⟩).bind fun {_ _ reached _} pulled _ _ abreast => ?_
      have notFinal : cursor.current.kind ≠ .endOfInput := by
        rw [comment]
        exact nofun
      have less : reached.pending < cursor.pending :=
        @pending_lt_of_advance (cursor.note _) _ _ notFinal pulled
      exact ih _ less _ _ abreast rfl
    · rw [run_skipComments_of_ne comment,
        @run_skipComments_of_ne { cursor with notices := notices } comment]
      exact .returned rfl ⟨notices, rfl⟩

theorem peekKind : Silent peekKind := by
  refine bind skipComments fun _ => ?_
  rintro cursor _ ⟨notices, rfl⟩
  exact .returned rfl ⟨notices, rfl⟩

theorem expect (kind : Token.Kind) : Silent (expect kind) := by
  rw [expect_eq_pull]
  exact bind skipComments fun _ => pull fun _ _ => rfl

theorem allow (kind : Token.Kind) : Silent (allow kind) := by
  refine bind peekKind fun actual => ?_
  split
  · exact bind advance fun _ => pure true
  · exact pure false

end Silent

end Cursor

/-! ## Arguments that are cut alike -/

namespace Declaration

/-- An argument without exactly one separator is cut into one part more than it has separators. -/
theorem twoParts_of_count_ne {form : Diagnostic.Form} {text : String}
    (notOne : text.toList.count (separator form) ≠ 1) :
    twoParts form text = .error (text.toList.count (separator form) + 1) := by
  unfold twoParts
  split
  · rename_i first second fields
    exact absurd (Parts.count_eq_one (Text.stringFields_eq_pair_iff.1 fields)) notOne
  · rw [Text.stringFields, List.length_map, Text.length_fields]

/-- Two tables put as many separators into the argument of a declaration that is cut in two. -/
def CutAlike (bindings others : Bindings) : Declaration → Prop
  | extract argument =>
    (Reference.resolve bindings argument).toList.count ' ' =
      (Reference.resolve others argument).toList.count ' '
  | set argument =>
    (Reference.resolve bindings argument).toList.count '=' =
      (Reference.resolve others argument).toList.count '='
  | run _ | clone _ _ => True

/-- The declaration whose argument is cut in a form. -/
def ofForm (form : Diagnostic.Form) (argument : String) : Declaration :=
  match form with
  | .spaced => extract argument
  | .assignment => set argument

theorem spells_ofForm {form : Diagnostic.Form} {keyword literal : Token}
    (cuts : keyword.kind = form.keyword) (isString : literal.kind = .string) :
    (ofForm form literal.text).Spells [keyword, literal] := by
  cases form with
  | spaced => exact .extract cuts isString
  | assignment => exact .set cuts isString

theorem CutAlike.count_eq {bindings others : Bindings} {form : Diagnostic.Form} {argument : String}
    (alike : (ofForm form argument).CutAlike bindings others) :
    (Reference.resolve bindings argument).toList.count (separator form) =
      (Reference.resolve others argument).toList.count (separator form) := by
  cases form <;> exact alike

end Declaration

namespace Script

/-- A list of tokens begins with those of some declarations, and the rest is left. -/
def Declares (declarations : List Declaration) (tokens rest : List Token) : Prop :=
  ∃ front, Body declarations front ∧ tokens = front ++ rest

theorem Spells.exists_declares {declarations : List Declaration} {tokens : List Token}
    (spells : Spells declarations tokens) : ∃ rest, Declares declarations tokens rest := by
  obtain ⟨body, ended⟩ := spells
  exact ⟨_, _, body, rfl⟩

/-- Wherever the declarations that a list of tokens begins with have a meaning in two surroundings,
the next one is cut alike in both. -/
def CutAlike (around others : Surroundings) (tokens : List Token) : Prop :=
  ∀ {declarations : List Declaration} {declaration : Declaration} {taken rest : List Token},
    Declares declarations tokens (taken ++ rest) → declaration.Spells taken →
    ∀ {ledger other : Ledger}, Means around declarations (Ledger.initial around) ledger →
      Means others declarations (Ledger.initial others) other →
      declaration.CutAlike ledger.bindings other.bindings

end Script

/-! ## Sessions -/

namespace Session

open Procedure (Alongside)

variable {Result : Type} {session other : Session}

/-- Two sessions that have the same to read. -/
def Abreast (session other : Session) : Prop :=
  session.cursor.Abreast other.cursor

theorem alongside_reading {procedure : Procedure Cursor Diagnostic Result}
    (silent : Cursor.Silent procedure) (abreast : session.Abreast other) :
    Alongside Abreast Eq ((reading procedure).run session) ((reading procedure).run other) := by
  have inner := silent _ _ abreast
  generalize ran : procedure.run session.cursor = outcome at inner
  generalize otherRan : procedure.run other.cursor = otherOutcome at inner
  cases inner with
  | failed abreast =>
    rw [run_reading_of ran, run_reading_of otherRan]
    exact .failed abreast
  | returned linked abreast =>
    rw [run_reading_of ran, run_reading_of otherRan]
    exact .returned linked abreast

/-- Substitution answers what the tables make of a text, and leaves two sessions abreast. -/
theorem alongside_substitute (text : String) (abreast : session.Abreast other) :
    Alongside Abreast
      (fun resolved otherResolved => resolved = Reference.resolve session.bindings text ∧
        otherResolved = Reference.resolve other.bindings text)
      ((substitute text).run session) ((substitute text).run other) :=
  .returned ⟨rfl, rfl⟩ (Cursor.Abreast.foldl_note abreast _ _)

/-- An argument that is cut alike has two parts in both sessions or in neither. -/
theorem alongside_twoParts {form : Diagnostic.Form} {literal : Token}
    (abreast : session.Abreast other)
    (alike : (Reference.resolve session.bindings literal.text).toList.count
        (Declaration.separator form) =
      (Reference.resolve other.bindings literal.text).toList.count (Declaration.separator form)) :
    Alongside Abreast (fun _ _ => True) ((twoParts form literal).run session)
      ((twoParts form literal).run other) := by
  refine (alongside_substitute literal.text abreast).bind
    fun {_ _ reached otherReached} _ _ resolved abreast => ?_
  obtain ⟨rfl, rfl⟩ := resolved
  by_cases one : (Reference.resolve session.bindings literal.text).toList.count
      (Declaration.separator form) = 1
  · obtain ⟨first, second, parts⟩ := Declaration.exists_parts_of_count one
    obtain ⟨otherFirst, otherSecond, otherParts⟩ :=
      Declaration.exists_parts_of_count (alike.symm.trans one)
    rw [Declaration.twoParts_eq_ok_iff.2 parts, Declaration.twoParts_eq_ok_iff.2 otherParts]
    exact .returned trivial abreast
  · rw [Declaration.twoParts_of_count_ne one,
      Declaration.twoParts_of_count_ne (fun otherOne => one (alike.trans otherOne)), alike]
    show Alongside _ _ (.error (Diagnostic.mk reached.cursor.filename _ _), reached)
      (.error (Diagnostic.mk otherReached.cursor.filename _ _), otherReached)
    rw [Cursor.Abreast.filename_eq abreast]
    exact .failed abreast

theorem alongside_bindClone (path otherPath : String) (abreast : session.Abreast other) :
    Alongside Abreast (fun _ _ => True) ((bindClone path).run session)
      ((bindClone otherPath).run other) := by
  refine (alongside_reading (.allow .as) abreast).bind fun _ _ same abreast => ?_
  subst same
  split
  · refine (alongside_reading (.expect .string) abreast).bind fun _ _ _ abreast => ?_
    exact .returned trivial (Cursor.Abreast.note abreast _ _)
  · exact .returned trivial abreast

/-- What is made of the argument of a declaration is made of it alongside if it is cut alike. -/
theorem alongside_effect {literal : Token} {kind : Token.Kind} (abreast : session.Abreast other)
    (alike : ∀ form : Diagnostic.Form, kind = form.keyword →
      (Declaration.ofForm form literal.text).CutAlike session.bindings other.bindings) :
    Alongside Abreast (fun _ _ => True) ((effect kind literal).run session)
      ((effect kind literal).run other) := by
  cases kind with
  | clone =>
    have drawn : Alongside Abreast (fun _ _ => True) (drawStagingPath.run session)
        (drawStagingPath.run other) := .returned trivial abreast
    refine drawn.bind fun _ _ _ abreast => ?_
    refine (alongside_bindClone _ _ abreast).bind fun _ _ _ abreast => ?_
    exact .returned trivial (Cursor.Abreast.note abreast _ _)
  | run =>
    refine (alongside_substitute literal.text abreast).bind fun _ _ _ abreast => ?_
    exact .returned trivial (Cursor.Abreast.note abreast _ _)
  | extract =>
    refine (alongside_twoParts abreast (alike .spaced rfl).count_eq).bind
      fun _ _ _ abreast => ?_
    exact .returned trivial (Cursor.Abreast.note abreast _ _)
  | set =>
    refine (alongside_twoParts abreast (alike .assignment rfl).count_eq).bind
      fun _ _ _ abreast => ?_
    exact .returned trivial (Cursor.Abreast.note abreast _ _)
  | _ => exact .returned trivial abreast

theorem alongside_argument (abreast : session.Abreast other) :
    Alongside Abreast Eq (argument.run session) (argument.run other) :=
  alongside_reading (Cursor.Silent.advance.bind fun _ => .expect .string) abreast

theorem alongside_separator (abreast : session.Abreast other) :
    Alongside Abreast (fun _ _ => True) (separator.run session) (separator.run other) :=
  (alongside_reading (.allow .semicolon) abreast).bind fun _ _ _ abreast =>
    .returned trivial abreast

/-- If the declaration at hand is one whose argument is cut in two, it is cut alike in both
sessions. -/
def CutsAlike (session other : Session) : Prop :=
  ∀ (form : Diagnostic.Form) (keyword literal : Token) (rest : List Token),
    session.cursor.upcoming = keyword :: literal :: rest → keyword.kind = form.keyword →
    literal.kind = .string →
    (Declaration.ofForm form literal.text).CutAlike session.bindings other.bindings

theorem alongside_declaration {kind : Token.Kind} (abreast : session.Abreast other)
    (alike : session.CutsAlike other) (atHand : session.cursor.current.kind = kind)
    (opens : kind.opensDeclaration = true) :
    Alongside Abreast (fun _ _ => True) ((declaration kind).run session)
      ((declaration kind).run other) := by
  subst atHand
  have otherOpens : other.cursor.current.kind.opensDeclaration = true := by
    obtain ⟨_, same⟩ := abreast
    rw [same]
    exact opens
  refine (alongside_argument abreast).bind fun taken otherTaken same abreast => ?_
  subst same
  obtain ⟨isString, reads, resumed⟩ := reads_of_argument taken opens
  obtain ⟨_, _, otherResumed⟩ := reads_of_argument otherTaken otherOpens
  refine alongside_effect abreast fun form cuts => ?_
  rw [resumed, otherResumed]
  exact alike form _ _ _ reads.upcoming cuts isString

/-- One round of the loop goes alongside if the declaration at hand is cut alike. -/
theorem alongside_declaration? (abreast : session.Abreast other)
    (alike : session.CutsAlike other) :
    Alongside Abreast Eq (declaration?.run session) (declaration?.run other) := by
  refine (alongside_reading .peekKind abreast).bind fun peeked otherPeeked same abreast => ?_
  subst same
  obtain ⟨cursor, reads, rfl, atHand, _⟩ := reads_of_peek peeked
  obtain ⟨otherCursor, _, rfl, _, _⟩ := reads_of_peek otherPeeked
  have still : (session.resume cursor session.ledger).CutsAlike
      (other.resume otherCursor other.ledger) := fun form keyword literal rest upcoming =>
    alike form keyword literal rest (reads.upcoming.trans upcoming)
  split
  · rename_i opens
    refine (alongside_declaration abreast still atHand opens).bind fun _ _ _ abreast => ?_
    refine (alongside_separator abreast).bind fun _ _ _ abreast => ?_
    exact .returned rfl abreast
  · exact .returned rfl abreast

/-! ## The loop -/

/-- Two sessions that have come to the same declaration of a text. -/
structure Level (around others : Script.Surroundings) (tokens : List Token)
    (session other : Session) : Prop where
  abreast : session.Abreast other
  within : session.Within around
  otherWithin : other.Within others
  passed : ∃ declarations, Script.Declares declarations tokens session.cursor.upcoming ∧
    Script.Means around declarations (Ledger.initial around) session.ledger ∧
    Script.Means others declarations (Ledger.initial others) other.ledger

variable {around others : Script.Surroundings} {tokens : List Token}

theorem Level.cutsAlike (level : Level around others tokens session other)
    (alike : Script.CutAlike around others tokens) : session.CutsAlike other := by
  intro form keyword literal rest upcoming cuts isString
  obtain ⟨declarations, declares, means, otherMeans⟩ := level.passed
  rw [upcoming] at declares
  have spells := Declaration.spells_ofForm cuts isString
  have cut := alike (show Script.Declares declarations tokens ([keyword, literal] ++ rest) from
    declares) spells means otherMeans
  exact cut

/-- Two sessions that are level and take a declaration each take the same one. -/
theorem Level.next {reached otherReached : Session}
    (level : Level around others tokens session other)
    (step : declaration?.run session = (.ok true, reached))
    (otherStep : declaration?.run other = (.ok true, otherReached))
    (abreast : reached.Abreast otherReached) : Level around others tokens reached otherReached := by
  obtain ⟨declaration, _, _, peeked, handles, separated⟩ := exists_handles_of_declaration? step
  obtain ⟨otherDeclaration, _, _, otherPeeked, otherHandles, otherSeparated⟩ :=
    exists_handles_of_declaration? otherStep
  have passes := passes_of_handles peeked handles separated level.within
  have otherPasses :=
    passes_of_handles otherPeeked otherHandles otherSeparated level.otherWithin
  obtain ⟨taken, separator, leads, reads⟩ := passes.spelled
  obtain ⟨otherTaken, otherSeparator, otherLeads, otherReads⟩ := otherPasses.spelled
  have same : taken ++ (separator ++ reached.cursor.upcoming) =
      otherTaken ++ (otherSeparator ++ otherReached.cursor.upcoming) := by
    rw [← List.append_assoc, ← List.append_assoc, ← reads.upcoming, ← otherReads.upcoming,
      Cursor.Abreast.upcoming_eq level.abreast]
  obtain ⟨rfl, rfl, rfl, _⟩ := leads.unique otherLeads same
  obtain ⟨declarations, ⟨front, body, whole⟩, means, otherMeans⟩ := level.passed
  refine ⟨abreast, passes.within level.within, otherPasses.within level.otherWithin,
    declarations ++ [declaration], ⟨_, body.concat leads.spells leads.separated, ?_⟩,
    means.append (.cons passes.means (.nil _)), otherMeans.append (.cons otherPasses.means (.nil _))⟩
  rw [whole, reads.upcoming, List.append_assoc, List.append_assoc, List.append_assoc]

/-- Two sessions that are level take their declarations alongside. -/
theorem Level.alongside_declarations (level : Level around others tokens session other)
    (alike : Script.CutAlike around others tokens) :
    Alongside Abreast (fun _ _ => True) session.declarations other.declarations := by
  generalize measured : session.pending = measure
  induction measure using Nat.strong_induction_on generalizing session other with
  | _ measure ih =>
    subst measured
    show Alongside _ _ ((⟨declarations⟩ : Step Unit).run session)
      ((⟨declarations⟩ : Step Unit).run other)
    rw [declarations_eq]
    refine (alongside_declaration? level.abreast (level.cutsAlike alike)).bind
      fun step otherStep same abreast => ?_
    subst same
    split
    · rename_i again
      subst again
      exact ih _ (pending_lt_of_declaration? step) (level.next step otherStep abreast) rfl
    · exact .returned trivial abreast

/-! ## Compilations -/

/-- From the first token on, a text is compiled alongside if it is cut alike. -/
theorem Level.alongside_script (level : Level around others tokens session other)
    (alike : Script.CutAlike around others tokens) :
    Alongside Abreast (fun _ _ => True) (script.run session) (script.run other) := by
  refine Alongside.bind (level.alongside_declarations alike) fun _ _ _ abreast => ?_
  refine (alongside_separator abreast).bind fun _ _ _ abreast => ?_
  refine (alongside_reading (.expect .endOfInput) abreast).bind fun _ _ _ abreast => ?_
  exact .returned trivial (Cursor.Abreast.note abreast _ _)

theorem alongside_compile {text filename : String}
    (alike : Script.CutAlike around others (Script.tokensOf text)) :
    Alongside Abreast (fun _ _ => True) (compile.run (ofText text filename around))
      (compile.run (ofText text filename others)) := by
  have primed : Alongside Abreast Eq (prime.run (ofText text filename around))
      (prime.run (ofText text filename others)) := by
    rw [run_prime, run_prime]
    exact (alongside_reading .advance ⟨[], rfl⟩).bind fun _ _ _ abreast => .returned rfl abreast
  rw [compile_eq]
  refine primed.bind fun started otherStarted _ abreast => ?_
  have start := primed_of_prime started
  have otherStart := primed_of_prime otherStarted
  refine Level.alongside_script ⟨abreast, start.within, otherStart.within, [], ⟨[], .nil, ?_⟩, ?_, ?_⟩
    alike
  · rw [List.nil_append, Cursor.upcoming, start.ahead]
    rfl
  · rw [start.ledger]
    exact .nil _
  · rw [otherStart.ledger]
    exact .nil _

end Session

/-- If the arguments of a text are cut alike in two surroundings, it is compiled to a plan in both or
in neither, and what it fails with is the same. -/
theorem Script.compile_abreast {text filename : String} {around others : Surroundings}
    (alike : CutAlike around others (tokensOf text)) :
    (∃ diagnostic, (compile text filename around).1 = .error diagnostic ∧
        (compile text filename others).1 = .error diagnostic) ∨
      ∃ plan otherPlan, (compile text filename around).1 = .ok plan ∧
        (compile text filename others).1 = .ok otherPlan := by
  have alongside := @Session.alongside_compile around others text filename alike
  generalize ran : Session.compile.run (Session.ofText text filename around) = outcome at alongside
  generalize otherRan : Session.compile.run (Session.ofText text filename others) = otherOutcome
    at alongside
  cases alongside with
  | failed _ => exact Or.inl ⟨_, congrArg Prod.fst ran, congrArg Prod.fst otherRan⟩
  | returned _ _ => exact Or.inr ⟨_, _, congrArg Prod.fst ran, congrArg Prod.fst otherRan⟩

/-- If the arguments of a text are cut in all surroundings of a family as they are in one of them, that
one decides: the text fails with one diagnostic in all of them, or it has a plan there. -/
theorem Script.compile_family {Index : Type} {text filename : String}
    {family : Index → Surroundings} (first : Index)
    (alike : ∀ index, CutAlike (family first) (family index) (tokensOf text)) :
    (∃ diagnostic, ∀ index, (compile text filename (family index)).1 = .error diagnostic) ∨
      ∃ plan, (compile text filename (family first)).1 = .ok plan := by
  rcases ran : (compile text filename (family first)).1 with diagnostic | plan
  · refine Or.inl ⟨diagnostic, fun index => ?_⟩
    rcases @compile_abreast text filename _ _ (alike index) with
      ⟨same, failed, alsoFailed⟩ | ⟨_, _, compiled, _⟩
    · rw [ran] at failed
      cases failed
      exact alsoFailed
    · rw [ran] at compiled
      cases compiled
  · exact Or.inr ⟨plan, rfl⟩

end SetupScript
