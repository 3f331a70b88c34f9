import SetupScript.Proofs.Validation

/-!
# Loading scripts

What loading a script comes to, however templates are rendered: the file is read, its text is rendered
if there are data for it, and the text is compiled (`Script.load_eq_iff`).  Each stage has a failure of
its own, and all of them are reported, apart from a path that is none and a template that raises an
error which is none of the template language (`Script.load_settles`).
-/

namespace SetupScript

/-! ## Failures to report -/

namespace Loading

variable {Result : Type}

/-- An attempt has a result, or a failure that is reported. -/
def Settled (attempt : Except Failure Result) : Prop :=
  (∃ result, attempt = .ok result) ∨
    ∃ failure, attempt = .error failure ∧ failure.isReported = true

theorem settled_ok (result : Result) : Settled (.ok result) :=
  Or.inl ⟨result, rfl⟩

theorem settled_error {failure : Failure} (reported : failure.isReported = true) :
    Settled (.error failure : Except Failure Result) :=
  Or.inr ⟨failure, rfl, reported⟩

theorem not_settled_escape {escape : Escape} :
    ¬ Settled (.error (.escape escape) : Except Failure Result) := by
  rintro (⟨_, found⟩ | ⟨_, found, reported⟩)
  · cases found
  · cases found
    cases reported

end Loading

namespace Script

/-! ## Stages -/

section Stages

variable (renderer : Renderer)

/-- The text that is compiled for the text of a file: what the template gives if there are data for
it. -/
inductive Renders (text : String) : Option (List (String × Datum)) → String → Prop
  | plain : Renders text none text
  | template {data : List (String × Datum)} {rendered : String}
      (renders : renderer.render rendering text data = .ok rendered) : Renders text (some data) rendered

/-- What loading a script from an entry under the name of its source comes to. -/
inductive Loads (entry : Entry) (source : String) (context : Option (List (String × Datum)))
    (around : Surroundings) : Except Loading.Failure Plan → Prop
  | unfound (malformed : entry = .malformedPath) :
      Loads entry source context around (.error (.escape .malformedPath))
  | unreadable {reason : Unreadable} (withholds : entry.Withholds reason)
      (wellFormed : reason ≠ .malformedPath) :
      Loads entry source context around (.error (.script source reason))
  | unrendered {text : String} {data : List (String × Datum)} {error : Raised}
      (holds : entry.Holds text) (given : context = some data)
      (failed : renderer.render rendering text data = .error (.own error)) :
      Loads entry source context around (.error (.template source error))
  | brokenOff {text : String} {data : List (String × Datum)} {error : Raised}
      (holds : entry.Holds text) (given : context = some data)
      (failed : renderer.render rendering text data = .error (.foreign error)) :
      Loads entry source context around (.error (.escape (.raised error)))
  | uncompiled {text rendered : String} {diagnostic : Diagnostic} (holds : entry.Holds text)
      (renders : Renders renderer text context rendered)
      (failed : (compile rendered source around).1 = .error diagnostic) :
      Loads entry source context around (.error (.diagnostic diagnostic))
  | compiled {text rendered : String} {plan : Plan} (holds : entry.Holds text)
      (renders : Renders renderer text context rendered)
      (returned : (compile rendered source around).1 = .ok plan) :
      Loads entry source context around (.ok plan)

end Stages

/-! ## One stage -/

namespace Loads

variable {renderer : Renderer} {entry : Entry} {source : String}
  {context : Option (List (String × Datum))} {around : Surroundings}

theorem script_iff {reason : Unreadable} :
    Loads renderer entry source context around (.error (.script source reason)) ↔
      entry.Withholds reason ∧ reason ≠ .malformedPath := by
  constructor
  · intro loads
    cases loads with
    | unreadable withholds wellFormed => exact ⟨withholds, wellFormed⟩
  · rintro ⟨withholds, wellFormed⟩
    exact .unreadable withholds wellFormed

theorem malformedPath_iff :
    Loads renderer entry source context around (.error (.escape .malformedPath)) ↔
      entry = .malformedPath := by
  constructor
  · intro loads
    cases loads with
    | unfound malformed => exact malformed
  · exact .unfound

theorem template_iff {error : Raised} :
    Loads renderer entry source context around (.error (.template source error)) ↔
      ∃ text data, entry.Holds text ∧ context = some data ∧
        renderer.render rendering text data = .error (.own error) := by
  constructor
  · intro loads
    cases loads with
    | unrendered holds given failed => exact ⟨_, _, holds, given, failed⟩
  · rintro ⟨text, data, holds, given, failed⟩
    exact .unrendered holds given failed

theorem raised_iff {error : Raised} :
    Loads renderer entry source context around (.error (.escape (.raised error))) ↔
      ∃ text data, entry.Holds text ∧ context = some data ∧
        renderer.render rendering text data = .error (.foreign error) := by
  constructor
  · intro loads
    cases loads with
    | brokenOff holds given failed => exact ⟨_, _, holds, given, failed⟩
  · rintro ⟨text, data, holds, given, failed⟩
    exact .brokenOff holds given failed

theorem diagnostic_iff {diagnostic : Diagnostic} :
    Loads renderer entry source context around (.error (.diagnostic diagnostic)) ↔
      ∃ text rendered, entry.Holds text ∧ Renders renderer text context rendered ∧
        (compile rendered source around).1 = .error diagnostic := by
  constructor
  · intro loads
    cases loads with
    | uncompiled holds renders failed => exact ⟨_, _, holds, renders, failed⟩
  · rintro ⟨text, rendered, holds, renders, failed⟩
    exact .uncompiled holds renders failed

theorem plan_iff {plan : Plan} :
    Loads renderer entry source context around (.ok plan) ↔
      ∃ text rendered, entry.Holds text ∧ Renders renderer text context rendered ∧
        (compile rendered source around).1 = .ok plan := by
  constructor
  · intro loads
    cases loads with
    | compiled holds renders returned => exact ⟨_, _, holds, renders, returned⟩
  · rintro ⟨text, rendered, holds, renders, returned⟩
    exact .compiled holds renders returned

end Loads

variable {renderer : Renderer} {look : String → Entry} {file : String}
  {context : Option (List (String × Datum))} {around : Surroundings}

theorem failureOf_of_ne {source : String} {reason : Unreadable}
    (wellFormed : reason ≠ .malformedPath) : failureOf source reason = .script source reason := by
  cases reason with
  | malformedPath => exact absurd rfl wellFormed
  | _ => rfl

theorem textOf_eq_ok_iff {text source rendered : String} :
    textOf renderer text context source = .ok rendered ↔
      Renders renderer text context rendered := by
  constructor
  · intro given
    cases context with
    | none =>
      cases given
      exact .plain
    | some data => exact .template (Attempt.mapError_eq_ok_iff.1 given)
  · intro renders
    cases renders with
    | plain => rfl
    | template renders => exact Attempt.mapError_eq_ok_iff.2 renders

theorem textOf_eq_error_iff {text source : String} {failure : Loading.Failure} :
    textOf renderer text context source = .error failure ↔ ∃ data error, context = some data ∧
      (renderer.render rendering text data = .error (.own error) ∧ failure = .template source error ∨
        renderer.render rendering text data = .error (.foreign error) ∧
          failure = .escape (.raised error)) := by
  constructor
  · intro failed
    cases context with
    | none => cases failed
    | some data =>
      obtain ⟨cause, found, rfl⟩ := Attempt.mapError_eq_error_iff.1 failed
      cases cause with
      | own error => exact ⟨data, error, rfl, Or.inl ⟨found, rfl⟩⟩
      | foreign error => exact ⟨data, error, rfl, Or.inr ⟨found, rfl⟩⟩
  · rintro ⟨data, error, rfl, ⟨found, rfl⟩ | ⟨found, rfl⟩⟩
    · exact Attempt.mapError_eq_error_iff.2 ⟨_, found, rfl⟩
    · exact Attempt.mapError_eq_error_iff.2 ⟨_, found, rfl⟩

/-- Loading a script comes to the failure of one of its stages, or to a plan. -/
theorem load_eq_iff {result : Except Loading.Failure Plan} :
    (load renderer look file context around).1 = result ↔
      Loads renderer (look (Path.tidy file)) (Path.tidy file) context around result := by
  constructor
  · rintro rfl
    unfold load
    dsimp only
    split
    · rename_i reason unread
      have withholds := Entry.text_eq_error_iff.1 unread
      by_cases malformed : reason = .malformedPath
      · subst malformed
        generalize look (Path.tidy file) = entry at withholds
        cases withholds
        exact .unfound rfl
      · rw [failureOf_of_ne malformed]
        exact .unreadable withholds malformed
    · rename_i text read
      have holds := Entry.text_eq_ok_iff.1 read
      split
      · rename_i failure unrendered
        obtain ⟨data, error, given, ⟨failed, rfl⟩ | ⟨failed, rfl⟩⟩ :=
          textOf_eq_error_iff.1 unrendered
        · exact .unrendered holds given failed
        · exact .brokenOff holds given failed
      · rename_i rendered found
        have renders := textOf_eq_ok_iff.1 found
        cases compiled : (compile rendered (Path.tidy file) around).1 with
        | error diagnostic => exact .uncompiled holds renders compiled
        | ok plan => exact .compiled holds renders compiled
  · intro loads
    unfold load
    cases loads with
    | unfound malformed =>
      have unread : (look (Path.tidy file)).text = .error .malformedPath := by rw [malformed]; rfl
      simp only [unread]
      rfl
    | unreadable withholds wellFormed =>
      simp only [Entry.text_eq_error_iff.2 withholds, failureOf_of_ne wellFormed]
    | unrendered holds given failed =>
      have unrendered : textOf renderer _ context (Path.tidy file) = .error (.template _ _) :=
        textOf_eq_error_iff.2 ⟨_, _, given, Or.inl ⟨failed, rfl⟩⟩
      simp only [Entry.text_eq_ok_iff.2 holds, unrendered]
    | brokenOff holds given failed =>
      have unrendered : textOf renderer _ context (Path.tidy file) = .error (.escape (.raised _)) :=
        textOf_eq_error_iff.2 ⟨_, _, given, Or.inr ⟨failed, rfl⟩⟩
      simp only [Entry.text_eq_ok_iff.2 holds, unrendered]
    | uncompiled holds renders failed =>
      simp only [Entry.text_eq_ok_iff.2 holds, textOf_eq_ok_iff.2 renders, failed]
      rfl
    | compiled holds renders returned =>
      simp only [Entry.text_eq_ok_iff.2 holds, textOf_eq_ok_iff.2 renders, returned]
      rfl

/-! ## Failures -/

/-- Where loading a script is broken off: at a path that is none, and at a template that raises an
error which is none of the template language. -/
inductive Escapes (renderer : Renderer) (context : Option (List (String × Datum))) : Entry → Prop
  | malformedPath : Escapes renderer context .malformedPath
  | foreign {entry : Entry} {text : String} {data : List (String × Datum)} {error : Raised}
      (holds : entry.Holds text) (given : context = some data)
      (failed : renderer.render rendering text data = .error (.foreign error)) :
      Escapes renderer context entry

/-- Whatever is broken off fails with an escape. -/
theorem Escapes.exists_loads {entry : Entry} (escapes : Escapes renderer context entry)
    (source : String) (around : Surroundings) :
    ∃ escape, Loads renderer entry source context around (.error (.escape escape)) := by
  cases escapes with
  | malformedPath => exact ⟨_, .unfound rfl⟩
  | foreign holds given failed => exact ⟨_, .brokenOff holds given failed⟩

/-- Loading a script has a plan or a failure that is reported, unless it is broken off. -/
theorem load_settled_iff :
    Loading.Settled (load renderer look file context around).1 ↔
      ¬ Escapes renderer context (look (Path.tidy file)) := by
  constructor
  · intro settled escapes
    obtain ⟨escape, loads⟩ := escapes.exists_loads (Path.tidy file) around
    rw [load_eq_iff.2 loads] at settled
    exact Loading.not_settled_escape settled
  · intro stays
    have loads := load_eq_iff.1 (Eq.refl (load renderer look file context around).1)
    generalize (load renderer look file context around).1 = result at loads
    cases loads with
    | unfound malformed =>
      rw [malformed] at stays
      exact absurd .malformedPath stays
    | brokenOff holds given failed => exact absurd (.foreign holds given failed) stays
    | unreadable | unrendered | uncompiled => exact Loading.settled_error rfl
    | compiled => exact Loading.settled_ok _

/-- Loading a script has a plan or a failure that is reported, unless it is broken off; and whatever it
comes to belongs to one stage: a file that gives no text, a path that is none, a template that fails
with an error of the template language or with another one, a text that does not compile, or one
that does. -/
theorem load_settles (renderer : Renderer) (look : String → Entry) (file : String)
    (context : Option (List (String × Datum))) (around : Surroundings) :
    (Loading.Settled (load renderer look file context around).1 ↔
      ¬ Escapes renderer context (look (Path.tidy file))) ∧
    (∀ reason, (load renderer look file context around).1 =
        .error (.script (Path.tidy file) reason) ↔
      (look (Path.tidy file)).Withholds reason ∧ reason ≠ .malformedPath) ∧
    ((load renderer look file context around).1 = .error (.escape .malformedPath) ↔
      look (Path.tidy file) = .malformedPath) ∧
    (∀ error, (load renderer look file context around).1 =
        .error (.template (Path.tidy file) error) ↔
      ∃ text data, (look (Path.tidy file)).Holds text ∧ context = some data ∧
        renderer.render rendering text data = .error (.own error)) ∧
    (∀ error, (load renderer look file context around).1 = .error (.escape (.raised error)) ↔
      ∃ text data, (look (Path.tidy file)).Holds text ∧ context = some data ∧
        renderer.render rendering text data = .error (.foreign error)) ∧
    (∀ diagnostic, (load renderer look file context around).1 = .error (.diagnostic diagnostic) ↔
      ∃ text rendered, (look (Path.tidy file)).Holds text ∧
        Renders renderer text context rendered ∧
        (compile rendered (Path.tidy file) around).1 = .error diagnostic) ∧
    (∀ plan, (load renderer look file context around).1 = .ok plan ↔
      ∃ text rendered, (look (Path.tidy file)).Holds text ∧
        Renders renderer text context rendered ∧
        (compile rendered (Path.tidy file) around).1 = .ok plan) := by
  simp only [load_eq_iff]
  exact ⟨load_settled_iff, fun _ => Loads.script_iff, Loads.malformedPath_iff,
    fun _ => Loads.template_iff, fun _ => Loads.raised_iff, fun _ => Loads.diagnostic_iff,
    fun _ => Loads.plan_iff⟩

/-- A division by zero in a template. -/
theorem exists_load_not_settled :
    ∃ error : Raised, error.kind = "ZeroDivisionError" ∧
      (load .standard (fun _ => .file (encoded "run \"\x7b\x7b 1 / 0 \x7d\x7d\"".toList)) "s.ds"
        (some []) ⟨.standard "/tmp", .empty, "/w", id⟩).1 = .error (.escape (.raised error)) ∧
      ¬ Loading.Settled
        (load .standard (fun _ => .file (encoded "run \"\x7b\x7b 1 / 0 \x7d\x7d\"".toList)) "s.ds"
          (some []) ⟨.standard "/tmp", .empty, "/w", id⟩).1 := by
  have failed : Renderer.standard.render rendering "run \"\x7b\x7b 1 / 0 \x7d\x7d\"" [] =
      .error (.foreign ⟨"ZeroDivisionError", ""⟩) := by
    decide +kernel
  have loaded : (load .standard
      (fun _ => .file (encoded "run \"\x7b\x7b 1 / 0 \x7d\x7d\"".toList)) "s.ds" (some [])
      ⟨.standard "/tmp", .empty, "/w", id⟩).1 = .error (.escape (.raised _)) :=
    load_eq_iff.2 (.brokenOff (.file _) rfl failed)
  refine ⟨_, rfl, loaded, ?_⟩
  rw [loaded]
  exact Loading.not_settled_escape

end Script

end SetupScript
