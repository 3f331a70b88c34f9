import SetupScript.Proofs.Abreast

/-!
# Locality

Where the working directory shows.  It takes the place of the leading dot of a destination, and that
is all: it decides neither what a text fails with nor the table nor how many commands there are, and
no command shows it but those of such extracts (`Script.compile_directories`).
-/

namespace SetupScript

/-! ## Commands -/

/-- A command before the working directory is known: a text, or a move whose destination begins with
the directory. -/
inductive Script.Command
  | fixed (text : String)
  | dotted (source rest : String)

/-- The text of a command when the working directory is known. -/
def Script.Command.text (workingDirectory : String) : Command → String
  | fixed text => text
  | dotted source rest => "mv " ++ source ++ " " ++ workingDirectory ++ rest

namespace Declaration

/-- A declaration is an extract whose destination has a leading dot once references are resolved. -/
def IsDotted (bindings : Bindings) : Declaration → Prop
  | extract argument =>
    ∃ source rest, Parts ' ' (Reference.resolve bindings argument) source ("." ++ rest)
  | run _ | set _ | clone _ _ => False

/-- The commands of a declaration: a move whose destination begins with the directory if it has a
leading dot, and else whatever the directory has no part in. -/
inductive Yields (bindings : Bindings) : Declaration → List Script.Command → Prop
  | dotted {argument source rest : String}
      (parts : Parts ' ' (Reference.resolve bindings argument) source ("." ++ rest)) :
      Yields bindings (.extract argument) [.dotted source rest]
  | fixed {declaration : Declaration} (undotted : ¬ declaration.IsDotted bindings)
      (commands : List String) : Yields bindings declaration (commands.map .fixed)

end Declaration

/-- How a list of declarations changes the ledger, from left to right, with the commands of each
declaration apart. -/
inductive Script.Yields (around : Surroundings) :
    List Declaration → Ledger → List (List Command) → Ledger → Prop
  | nil (ledger : Ledger) : Yields around [] ledger [] ledger
  | cons {declaration : Declaration} {declarations : List Declaration} {commands : List Command}
      {others : List (List Command)} {ledger middle last : Ledger}
      (yields : declaration.Yields ledger.bindings commands)
      (means : declaration.Means around ledger middle)
      (emits : middle.commands =
        ledger.commands ++ commands.map (Command.text around.workingDirectory))
      (rest : Yields around declarations middle others last) :
      Yields around (declaration :: declarations) ledger (commands :: others) last

/-! ## One declaration -/

namespace Declaration

variable {around : Script.Surroundings} {declaration : Declaration} {ledger last : Ledger}

/-- An extract whose destination has no leading dot is not dotted. -/
theorem Parts.not_isDotted {bindings : Bindings} {argument source target : String}
    (parts : Parts ' ' (Reference.resolve bindings argument) source target)
    (undotted : target.toList.head? ≠ some '.') : ¬ (extract argument).IsDotted bindings := by
  rintro ⟨other, rest, others⟩
  obtain ⟨_, rfl⟩ := parts.unique others
  exact undotted (by simp)

/-- What a declaration means in one directory, it means in all, and they differ in its commands
alone. -/
theorem Means.exists_yields (means : declaration.Means around ledger last) :
    ∃ commands, declaration.Yields ledger.bindings commands ∧
      ∀ directory emitted, declaration.Means { around with workingDirectory := directory }
        ⟨emitted, ledger.bindings, ledger.clones⟩
        ⟨emitted ++ commands.map (Script.Command.text directory), last.bindings, last.clones⟩ := by
  cases means with
  | run argument =>
    exact ⟨_, .fixed id [Reference.resolve ledger.bindings argument], fun _ emitted =>
      .run argument ⟨emitted, ledger.bindings, ledger.clones⟩⟩
  | @extract _ source target _ _ parts placed =>
    cases placed with
    | dotted rest =>
      refine ⟨_, .dotted parts, fun directory emitted => ?_⟩
      have moved := @Means.extract { around with workingDirectory := directory } _ _ _ _
        ⟨emitted, ledger.bindings, ledger.clones⟩ parts (.dotted rest)
      rwa [← String.append_assoc] at moved
    | plain undotted =>
      exact ⟨_, .fixed (parts.not_isDotted undotted) ["mv " ++ source ++ " " ++ target],
        fun _ emitted => @Means.extract _ _ _ _ _ ⟨emitted, ledger.bindings, ledger.clones⟩ parts
          (.plain undotted)⟩
  | set parts =>
    refine ⟨_, .fixed id [], fun directory emitted => ?_⟩
    rw [List.map_nil, List.map_nil, List.append_nil]
    exact @Means.set { around with workingDirectory := directory } _ _ _
      ⟨emitted, ledger.bindings, ledger.clones⟩ parts
  | @clone _ fetched path _ location staged =>
    exact ⟨_, .fixed id [fetchCommand around.settings fetched path], fun directory emitted =>
      @Means.clone { around with workingDirectory := directory } _ _ _
        ⟨emitted, ledger.bindings, ledger.clones⟩ location staged⟩
  | @cloneAs _ _ fetched path _ location staged =>
    exact ⟨_, .fixed id [fetchCommand around.settings fetched path], fun directory emitted =>
      @Means.cloneAs { around with workingDirectory := directory } _ _ _ _
        ⟨emitted, ledger.bindings, ledger.clones⟩ location staged⟩

end Declaration

/-! ## A list of declarations -/

namespace Script

variable {text filename : String} {around : Surroundings} {declarations : List Declaration}
  {commands : List (List Command)} {ledger last : Ledger}

/-- With the commands of each declaration apart, declarations mean the same. -/
theorem Yields.means (yields : Yields around declarations ledger commands last) :
    Means around declarations ledger last := by
  induction yields with
  | nil ledger => exact .nil ledger
  | cons _ means _ _ ih => exact .cons means ih

/-- What declarations mean in one directory, they mean in all, and they differ in their commands
alone. -/
theorem Means.exists_yields (means : Means around declarations ledger last) :
    ∃ commands, ∀ directory emitted,
      Yields { around with workingDirectory := directory } declarations
        ⟨emitted, ledger.bindings, ledger.clones⟩ commands
        ⟨emitted ++ commands.flatten.map (Command.text directory), last.bindings,
          last.clones⟩ := by
  induction means with
  | nil ledger =>
    refine ⟨[], fun directory emitted => ?_⟩
    rw [List.flatten_nil, List.map_nil, List.append_nil]
    exact .nil _
  | cons first _ ih =>
    obtain ⟨commands, yields, everywhere⟩ := first.exists_yields
    obtain ⟨others, rest⟩ := ih
    refine ⟨commands :: others, fun directory emitted => ?_⟩
    have behind := rest directory (emitted ++ commands.map (Command.text directory))
    rw [List.append_assoc, ← List.map_append, ← List.flatten_cons] at behind
    exact .cons yields (everywhere directory emitted) rfl behind

/-- The directory has no influence on how arguments are cut. -/
theorem cutAlike_of_directories (around : Surroundings) (directory other : String)
    (tokens : List Token) : CutAlike { around with workingDirectory := directory }
      { around with workingDirectory := other } tokens := by
  intro declarations declaration _ _ _ _ ledger otherLedger means otherMeans
  obtain ⟨commands, everywhere⟩ := means.exists_yields
  obtain rfl := otherMeans.unique (everywhere other []).means
  cases declaration with
  | extract | set => rfl
  | _ => trivial

/-! ## Plans -/

/-- The working directory shows in nothing but the destinations with a leading dot: whatever it is,
a text fails with the same diagnostic, or it has the same declarations, which bind the same table and
yield the same commands up to the directory in those moves. -/
theorem compile_directories (text filename : String) (around : Surroundings) :
    (∃ diagnostic, ∀ directory,
        (compile text filename { around with workingDirectory := directory }).1 =
          .error diagnostic) ∨
      ∃ tokens declarations commands bindings clones,
        (Scanner.ofString text).tokenize = .ok tokens ∧
        Spells declarations (Token.significant tokens) ∧
        ∀ directory,
          (compile text filename { around with workingDirectory := directory }).1 =
            .ok ⟨filename, commands.flatten.map (Command.text directory), bindings⟩ ∧
          Yields { around with workingDirectory := directory } declarations
            (Ledger.initial around) commands
            ⟨commands.flatten.map (Command.text directory), bindings, clones⟩ := by
  rcases @compile_family String text filename
      (fun directory => { around with workingDirectory := directory }) around.workingDirectory
      (fun directory => cutAlike_of_directories around _ directory _) with failed | ⟨plan, compiled⟩
  · exact Or.inl failed
  · obtain ⟨tokens, declarations, ledger, tokenized, spells, means, _⟩ :=
      compile_eq_ok_iff.1 compiled
    obtain ⟨commands, everywhere⟩ := means.exists_yields
    refine Or.inr ⟨tokens, declarations, commands, ledger.bindings, ledger.clones, tokenized,
      spells, fun directory => ⟨?_, everywhere directory []⟩⟩
    exact compile_eq_ok_iff.2
      ⟨tokens, declarations, _, tokenized, spells, (everywhere directory []).means, rfl⟩

/-- A destination whose dot comes out of the table, in two directories. -/
example :
    (compile "set \"D=./b\"; extract \"a $[D]\"" "f"
        ⟨.standard "/tmp", .empty, "/v", id⟩).1.map (·.commands) = .ok ["mv a /v/b"] ∧
      (compile "set \"D=./b\"; extract \"a $[D]\"" "f"
        ⟨.standard "/tmp", .empty, "/w", id⟩).1.map (·.commands) = .ok ["mv a /w/b"] := by
  with_unfolding_all exact ⟨rfl, rfl⟩

end Script

end SetupScript
