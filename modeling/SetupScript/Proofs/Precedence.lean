import SetupScript.Proofs.Blocks
import SetupScript.Proofs.Compilation
import SetupScript.Proofs.Definitions
import SetupScript.Proofs.Loading
import SetupScript.Proofs.Substitution

/-!
# Precedence of presets

What a name stands for before a script binds it: the last option that defines it, else the last
entry of the settings that prints as the name, else the reference itself (`Preset`).  As long as a
script leaves a name alone, this is what every reference to the name becomes, in a compiled text and
on the command line (`Script.resolve_preset`).
-/

namespace SetupScript

/-! ## Presets -/

/-- What a name stands for before a script binds it.  Options come before the variables of the
settings, later options before earlier ones, and later entries before earlier ones; a reference to a
name that has no value stays as it is. -/
inductive Preset (options : List String) (entries : List (Datum.Key × Datum)) (name : String) :
    String → Prop
  | option {value : String} (defined : DefinesLast options name value) :
      Preset options entries name value
  | entry {earlier later : List (Datum.Key × Datum)} {key : Datum.Key} {datum : Datum}
      (undefined : ∀ option ∈ options, ∀ value, ¬ Defines option name value)
      (whole : entries = earlier ++ (key, datum) :: later) (named : key.display = name)
      (last : ∀ other ∈ later, other.1.display ≠ name) :
      Preset options entries name datum.display
  | unbound (undefined : ∀ option ∈ options, ∀ value, ¬ Defines option name value)
      (absent : ∀ entry ∈ entries, entry.1.display ≠ name) :
      Preset options entries name ("$[" ++ name ++ "]")

section Beginning

variable {options : List String} {entries : List (Datum.Key × Datum)} {name value : String}
  {around : Script.Surroundings}

/-- What a name stands for is what it is bound to when a script begins. -/
theorem Preset.eq_initial (preset : Preset options entries name value)
    (given : definitions? options = some around.presets)
    (bound : around.settings.bindings.get? name = (Settings.valuesOf entries name).getLast?) :
    value = ((Ledger.initial around).bindings.get? name).getD ("$[" ++ name ++ "]") := by
  rw [Ledger.initial, Bindings.get?_overriddenBy, bound]
  cases preset with
  | option defined =>
    rw [(get?_eq_some_iff_of_definitions? given).2 defined, Option.some_or]
    rfl
  | entry undefined whole named last =>
    have held := Settings.getLast?_valuesOf_eq_some_iff.2 ⟨_, _, _, _, whole, named, rfl, last⟩
    rw [(get?_eq_none_iff_of_definitions? given).2 undefined, Option.none_or, held]
    rfl
  | unbound undefined absent =>
    rw [(get?_eq_none_iff_of_definitions? given).2 undefined, Option.none_or,
      Settings.getLast?_valuesOf_eq_none_iff.2 absent]
    rfl

theorem preset_initial (given : definitions? options = some around.presets)
    (bound : around.settings.bindings.get? name = (Settings.valuesOf entries name).getLast?) :
    Preset options entries name
      (((Ledger.initial around).bindings.get? name).getD ("$[" ++ name ++ "]")) := by
  rw [Ledger.initial, Bindings.get?_overriddenBy, bound]
  cases defined : around.presets.get? name with
  | some value =>
    rw [Option.some_or, Option.getD_some]
    exact .option ((get?_eq_some_iff_of_definitions? given).1 defined)
  | none =>
    have undefined := (get?_eq_none_iff_of_definitions? given).1 defined
    rw [Option.none_or]
    cases held : (Settings.valuesOf entries name).getLast? with
    | some value =>
      obtain ⟨_, _, _, _, whole, named, rfl, last⟩ :=
        Settings.getLast?_valuesOf_eq_some_iff.1 held
      exact .entry undefined whole named last
    | none => exact .unbound undefined (Settings.getLast?_valuesOf_eq_none_iff.1 held)

end Beginning

/-! ## Names that a script leaves alone -/

namespace Declaration

/-- A declaration binds a name: a set whose argument has the name in front of its equals sign, or a
clone with the name. -/
def Binds (bindings : Bindings) (name : String) : Declaration → Prop
  | set argument => ∃ value, Parts '=' (Reference.resolve bindings argument) name value
  | clone _ named => named = some name
  | run _ | extract _ => False

/-- What a declaration does not bind stays as it is bound. -/
theorem Means.get?_eq {around : Script.Surroundings} {declaration : Declaration}
    {ledger last : Ledger} {name : String} (means : declaration.Means around ledger last)
    (leaves : ¬ declaration.Binds ledger.bindings name) :
    last.bindings.get? name = ledger.bindings.get? name := by
  cases means with
  | run | extract | clone => rfl
  | @set argument other value _ parts =>
    have different : name ≠ other := by
      rintro rfl
      exact leaves ⟨value, parts⟩
    exact (Bindings.get?_insert _ _ _ _).trans (if_neg different)
  | @cloneAs _ other _ path _ location staged =>
    have different : name ≠ other := by
      rintro rfl
      exact leaves rfl
    exact (Bindings.get?_insert _ _ _ _).trans (if_neg different)

end Declaration

namespace Script

variable {around : Surroundings}

/-- None of the declarations of a script binds a name, each under the bindings made before it. -/
def Leaves (around : Surroundings) (ledger : Ledger) (declarations : List Declaration)
    (name : String) : Prop :=
  ∀ before declaration after, declarations = before ++ declaration :: after →
    ∀ middle, Script.Means around before ledger middle → ¬ declaration.Binds middle.bindings name

theorem leaves_nil (ledger : Ledger) (name : String) : Leaves around ledger [] name :=
  fun before _ _ split => by cases before <;> cases split

/-- What a script leaves alone is bound behind it as it was in front. -/
theorem Means.get?_eq {declarations : List Declaration} {ledger last : Ledger} {name : String}
    (means : Script.Means around declarations ledger last)
    (leaves : Leaves around ledger declarations name) :
    last.bindings.get? name = ledger.bindings.get? name := by
  induction means with
  | nil => rfl
  | @cons declaration declarations ledger middle last first _ ih =>
    have others : Leaves around middle declarations name := fun before other after split reached
        beforeMeans =>
      leaves (declaration :: before) other after (congrArg (declaration :: ·) split) reached
        (.cons first beforeMeans)
    exact (ih others).trans (first.get?_eq (leaves [] declaration declarations rfl ledger (.nil _)))

end Script

/-! ## The command line -/

namespace Invocation

/-- The settings of an invocation are read from these fields: from none, or from the document that a
file holds. -/
inductive Configures (asked : Invocation) (world : World) : List (Datum.Key × Datum) → Prop
  | default (unset : asked.config = none) : Configures asked world []
  | file {file text : String} {fields : List (Datum.Key × Datum)}
      (configured : asked.config = some file) (holds : (world.look (Path.tidy file)).Holds text)
      (means : world.reader.document text = .ok (.mapping fields)) : Configures asked world fields

/-- What an invocation compiles: the text of its script, rendered if there are definitions for it,
with the settings of some fields.  All its files are there. -/
structure Compiles (asked : Invocation) (world : World) (fields : List (Datum.Key × Datum))
    (around : Script.Surroundings) (text : String) : Prop where
  files : (asked.script :: asked.config.toList).all fun file => (world.look file).isFile
  configures : asked.Configures world fields
  workingDirectory : world.workingDirectory = around.workingDirectory
  draws : world.draws = around.draws
  renders : ∃ definitions content, definitions? asked.definitions = some definitions ∧
    (world.look (Path.tidy asked.script)).Holds content ∧
    Script.Renders world.renderer content
      (if asked.definitions.isEmpty then none
        else some (definitions.entries.map fun entry => (entry.1, Datum.text entry.2))) text

variable {asked : Invocation} {world : World} {fields : List (Datum.Key × Datum)}

theorem settings_of_configures {settings : Settings} (configures : asked.Configures world fields)
    (read : Settings.ofDatum world.reader (.mapping fields) = .ok settings) :
    asked.settings world = .ok settings := by
  cases configures with
  | default unset =>
    have defaults : Settings.ofDatum world.reader (.mapping []) =
        .ok (.standard world.reader.temporaryDirectory) := rfl
    rw [defaults] at read
    cases read
    rw [Invocation.settings, unset]
  | @file file text _ configured holds means =>
    rw [Invocation.settings, configured]
    exact Settings.load_eq_ok_iff.2
      ⟨text, fields, holds, means, Settings.ofEntries_eq_ok_iff.1 read⟩

/-- An invocation goes on with the plan of what it compiles. -/
theorem Compiles.exists_outcome_eq {around : Script.Surroundings} {text : String} {plan : Plan}
    (compiles : asked.Compiles world fields around text)
    (given : definitions? asked.presets = some around.presets)
    (read : Settings.ofDatum world.reader (.mapping fields) = .ok around.settings)
    (compiled : (Script.compile text (Path.tidy asked.script) around).1 = .ok plan) :
    ∃ notices, asked.outcome world = asked.finish world around.settings plan notices := by
  obtain ⟨files, configures, directory, draws, definitions, content, defined, holds, renders⟩ :=
    compiles
  have found := settings_of_configures configures read
  have loaded : (asked.load world around.settings around.presets definitions).1 = .ok plan := by
    rw [load, directory, draws]
    exact Script.load_eq_iff.2 (.compiled holds renders compiled)
  rw [outcome_of_defined given defined, if_pos files, perform_of_loaded found (Prod.ext loaded rfl)]
  exact ⟨_, rfl⟩

end Invocation

namespace Script

/-! ## References -/

variable {reader : Settings.Reader} {options : List String}
  {fields entries : List (Datum.Key × Datum)} {name : String} {around : Surroundings}

/-- In a compiled text, a run puts its resolved argument behind the commands in front of it. -/
theorem exists_command_of_run {text filename argument : String} {tokens : List Token} {plan : Plan}
    {before after : List Declaration} (compiled : (compile text filename around).1 = .ok plan)
    (tokenized : (Scanner.ofString text).tokenize = .ok tokens)
    (spells : Spells (before ++ .run argument :: after) (Token.significant tokens)) :
    ∃ middle, Script.Means around before (Ledger.initial around) middle ∧
      middle.commands ++ [Reference.resolve middle.bindings argument] <+: plan.commands := by
  obtain ⟨others, declarations, last, otherTokenized, otherSpells, means, rfl⟩ :=
    compile_eq_ok_iff.1 compiled
  rw [tokenized] at otherTokenized
  cases otherTokenized
  obtain rfl := spells.unique otherSpells
  obtain ⟨middle, beforeMeans, rest⟩ := means.exists_of_append
  refine ⟨middle, beforeMeans, ?_⟩
  cases rest with
  | cons first behind =>
    cases first with
    | run _ _ => exact behind.commands_prefix

/-- A name without square brackets stands for one thing at all points of a script before which the
script has not bound it.  There every reference to the name becomes that, the text around it being
resolved on its own; a command that is compiled at such a point holds it; and what a command line
compiles with these options and settings is compiled so.  Variables in several blocks make the same
settings as in the one object that the blocks are merged to. -/
theorem resolve_preset (given : definitions? options = some around.presets)
    (read : Settings.ofDatum reader (.mapping fields) = .ok around.settings)
    (offered : Settings.Given (Datum.fields fields) "variables"
      (Settings.Offers name · entries) (entries = []))
    (isName : Reference.IsName name.toList) :
    ∃ value, (∀ other, Preset options entries name other ↔ other = value) ∧
      (∀ before middle, Script.Means around before (Ledger.initial around) middle →
        Leaves around (Ledger.initial around) before name → ∀ front back,
          Reference.resolve middle.bindings (front ++ "$[" ++ name ++ "]" ++ back) =
            Reference.resolve middle.bindings front ++ value ++
              Reference.resolve middle.bindings back) ∧
      (∀ text filename tokens plan before front back after,
        (compile text filename around).1 = .ok plan →
        (Scanner.ofString text).tokenize = .ok tokens →
        Spells (before ++ .run (front ++ "$[" ++ name ++ "]" ++ back) :: after)
          (Token.significant tokens) →
        Leaves around (Ledger.initial around) before name →
          ∃ middle, Script.Means around before (Ledger.initial around) middle ∧
            middle.commands ++ [Reference.resolve middle.bindings front ++ value ++
              Reference.resolve middle.bindings back] <+: plan.commands) ∧
      (∀ (asked : Invocation) (world : World) (text : String) (plan : Plan),
        asked.presets = options → world.reader = reader →
        asked.Compiles world fields around text →
        (compile text (Path.tidy asked.script) around).1 = .ok plan →
          ∃ notices, asked.outcome world = asked.finish world around.settings plan notices) ∧
      ∀ (front back : List (Datum.Key × Datum)) (blocks : List (List (Datum.Key × Datum))),
        Settings.ofDatum reader
            (.mapping (front ++ (.text "variables", .list (blocks.map .mapping)) :: back)) =
          Settings.ofDatum reader
            (.mapping (front ++
              (.text "variables", .mapping (Settings.merged blocks)) :: back)) := by
  obtain ⟨_, ⟨⟩, validated⟩ := Settings.ofDatum_eq_ok_iff.1 read
  have bound := Settings.get?_of_validated validated offered
  have points : ∀ before middle, Script.Means around before (Ledger.initial around) middle →
      Leaves around (Ledger.initial around) before name → ∀ front back,
        Reference.resolve middle.bindings (front ++ "$[" ++ name ++ "]" ++ back) =
          Reference.resolve middle.bindings front ++
            ((Ledger.initial around).bindings.get? name).getD ("$[" ++ name ++ "]") ++
            Reference.resolve middle.bindings back := by
    intro before middle means leaves front back
    rw [Reference.resolve_append_reference _ _ _ isName, means.get?_eq leaves]
  refine ⟨((Ledger.initial around).bindings.get? name).getD ("$[" ++ name ++ "]"),
    fun other => ⟨fun preset => preset.eq_initial given bound, ?_⟩, points, ?_, ?_,
    Settings.ofDatum_blocks reader⟩
  · rintro rfl
    exact preset_initial given bound
  · intro text filename tokens plan before front back after compiled tokenized spells leaves
    obtain ⟨middle, means, kept⟩ := exists_command_of_run compiled tokenized spells
    rw [points before middle means leaves] at kept
    exact ⟨middle, means, kept⟩
  · rintro asked world text plan rfl rfl compiles compiled
    exact compiles.exists_outcome_eq given read compiled

/-- Of three options the last one for a name counts, behind its first equals sign, and the command
line compiles it; a name without options has the value of the second block in its plain form. -/
theorem resolve_preset_blocks :
    ∃ settings presets,
      Settings.ofDatum (.standard "/tmp") (.mapping [(.text "variables",
        .list ([[(.text "B", .text "s"), (.text "A", .none)],
          [(.text "B", .boolean true)]].map .mapping))]) = .ok settings ∧
      definitions? ["A=x", "A=1=2", "C="] = some presets ∧
      Reference.resolve (Ledger.initial ⟨settings, presets, "/w", id⟩).bindings
        ("<" ++ "$[" ++ "A" ++ "]" ++ ">") = "<1=2>" ∧
      Reference.resolve (Ledger.initial ⟨settings, presets, "/w", id⟩).bindings
        ("<" ++ "$[" ++ "B" ++ "]" ++ ">") = "<True>" ∧
      ∃ log, Invocation.outcome
        ⟨.compile, "s", none, ["A=x", "A=1=2", "C="], [], false, false, false⟩
        ⟨fun _ => .file (encoded "run \"$[A]\"".toList), "/w", id, [], .standard "/tmp", .standard,
          0⟩ =
          .compiled ["1=2"] log := by
  obtain ⟨settings, read⟩ : ∃ settings, Settings.ofDatum (.standard "/tmp") (.mapping [(.text "variables",
      .list ([[(.text "B", .text "s"), (.text "A", .none)],
        [(.text "B", .boolean true)]].map .mapping))]) = .ok settings := ⟨_, rfl⟩
  obtain ⟨presets, given⟩ : ∃ presets, definitions? ["A=x", "A=1=2", "C="] = some presets :=
    ⟨_, rfl⟩
  have agree := Datum.Key.pairwise_agree (show ∀ key ∈
    [[(Datum.Key.text "B", Datum.text "s"), (.text "A", .none)],
      [(.text "B", .boolean true)]].flatten.map Prod.fst, ∃ text, key = .text text by simp)
  refine ⟨settings, presets, read, given, ?_, ?_, ?_⟩
  · obtain ⟨value, unique, points, _⟩ := @resolve_preset _ _ _ _ "A" ⟨settings, presets, "/w", id⟩
      given read (.blocks (agree "A")) ⟨by decide, by decide⟩
    obtain rfl := (unique "1=2").1 (.option ⟨["A=x"], "A=1=2", ["C="], rfl,
      (definition?_eq_some_iff.1 rfl).1, fun other member value defines => by
        rw [List.mem_singleton.1 member] at defines
        exact absurd (defines.unique (definition?_eq_some_iff.1 rfl).1).1 (by decide)⟩)
    exact points [] _ (.nil _) (leaves_nil _ _) "<" ">"
  · obtain ⟨value, unique, points, _⟩ := @resolve_preset _ _ _ _ "B" ⟨settings, presets, "/w", id⟩
      given read (.blocks (agree "B")) ⟨by decide, by decide⟩
    have undefined : ∀ option ∈ ["A=x", "A=1=2", "C="], ∀ value, ¬ Defines option "B" value :=
      (get?_eq_none_iff_of_definitions? given).1 (by cases given; rfl)
    obtain rfl := (unique "True").1 (@Preset.entry _ _ _
      [(.text "B", .text "s"), (.text "A", .none)] [] (.text "B") (.boolean true) undefined rfl rfl
      (List.forall_mem_nil _))
    exact points [] _ (.nil _) (leaves_nil _ _) "<" ">"
  · obtain ⟨_, _, _, _, lines, _⟩ := @resolve_preset (.standard "/tmp") _ [] [] "A"
      ⟨.standard "/tmp", presets, "/w", id⟩ given rfl rfl ⟨by decide, by decide⟩
    have compiled : (compile "run \"$[A]\"" "s" ⟨.standard "/tmp", presets, "/w", id⟩).1 =
        .ok ⟨"s", ["1=2"], presets⟩ := by
      cases given
      with_unfolding_all rfl
    obtain ⟨notices, outcome⟩ := lines
      ⟨.compile, "s", none, ["A=x", "A=1=2", "C="], [], false, false, false⟩
      ⟨fun _ => .file (encoded "run \"$[A]\"".toList), "/w", id, [], .standard "/tmp", .standard, 0⟩
      "run \"$[A]\"" _ rfl rfl
      ⟨rfl, .default rfl, rfl, rfl, .empty, _, rfl, .file _, .plain⟩ compiled
    exact ⟨_, outcome⟩

/-- The text of a digit and the number are different keys, so that neither replaces the other when
blocks are merged, and the last block that binds the name is passed over. -/
theorem exists_last_block_passed :
    ¬ ∀ (options : List String) (blocks : List (List (Datum.Key × Datum))) (name value : String)
        (around : Surroundings), definitions? options = some around.presets →
      Settings.ofDatum (.standard "/tmp")
          (.mapping [(.text "variables", .list (blocks.map .mapping))]) = .ok around.settings →
      Reference.IsName name.toList → Preset options blocks.flatten name value →
      Reference.resolve (Ledger.initial around).bindings ("$[" ++ name ++ "]") = value := by
  intro every
  obtain ⟨settings, read⟩ : ∃ settings, Settings.ofDatum (.standard "/tmp") (.mapping [(.text "variables",
      .list ([[(.text "1", .text "a")], [(.integer 1, .text "b")],
        [(.text "1", .text "c")]].map .mapping))]) = .ok settings := ⟨_, rfl⟩
  have preset : Preset [] [[(Datum.Key.text "1", Datum.text "a")], [(.integer 1, .text "b")],
      [(.text "1", .text "c")]].flatten "1" "c" :=
    @Preset.entry _ _ _ [(.text "1", .text "a"), (.integer 1, .text "b")] [] (.text "1") (.text "c")
      (List.forall_mem_nil _) rfl rfl (List.forall_mem_nil _)
  have substituted := every [] _ "1" "c" ⟨settings, .empty, "/w", id⟩ rfl read
    ⟨by decide, by decide⟩ preset
  have other : Reference.resolve (Ledger.initial ⟨settings, .empty, "/w", id⟩).bindings
      ("$[" ++ "1" ++ "]") = "b" := by
    cases read
    with_unfolding_all rfl
  rw [other] at substituted
  exact absurd substituted (by decide)

end Script

end SetupScript
