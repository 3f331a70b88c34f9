import Mathlib.Data.List.Basic
import SetupScript.Proofs.Definitions
import SetupScript.Proofs.Modes

/-!
# Options

Options that define names.  Their texts are refused exactly if one of them is malformed
(`definitions?_eq_none_iff`), and else each name has the value that is defined last.  A malformed
text on the command line is refused, whatever stands around it and whatever the files hold
(`Request.outcome_of_misdefines`); asking for help alone comes before it.
-/

namespace SetupScript

/-! ## Malformed definitions -/

/-- A text that defines nothing: there is no equals sign in it, or no name in front of the first. -/
def Malformed (text : String) : Prop :=
  '=' ∉ text.toList ∨ text.toList.head? = some '='

/-- A text around an equals sign defines what stands in front of the first one. -/
theorem exists_defines_of_mem {text : String} (member : '=' ∈ text.toList) :
    ∃ name value, Defines text name value := by
  obtain ⟨before, behind, spelled, absent⟩ := List.eq_append_cons_of_mem member
  refine ⟨.ofList before, .ofList behind, ?_, ?_⟩
  · rw [String.toList_ofList, String.toList_ofList]
    exact spelled
  · rw [String.toList_ofList]
    exact absent

/-- A text that begins with an equals sign is one that defines the empty name. -/
theorem Defines.head?_eq_iff {text name value : String} (defines : Defines text name value) :
    text.toList.head? = some '=' ↔ name = "" := by
  obtain ⟨spelled, absent⟩ := defines
  rw [spelled, ← String.toList_inj]
  cases letters : name.toList with
  | nil => exact iff_of_true rfl rfl
  | cons first others =>
    rw [letters] at absent
    refine iff_of_false (fun begins => ?_) (List.cons_ne_nil _ _)
    exact absent (Option.some.inj begins ▸ List.mem_cons_self)

theorem definition?_eq_none_iff {text : String} : definition? text = none ↔ Malformed text := by
  constructor
  · intro unread
    by_cases member : '=' ∈ text.toList
    · obtain ⟨name, value, defines⟩ := exists_defines_of_mem member
      refine Or.inr (defines.head?_eq_iff.2 (by_contra fun named => ?_))
      have read := definition?_eq_some_iff.2 ⟨defines, named⟩
      rw [unread] at read
      cases read
    · exact Or.inl member
  · intro malformed
    cases read : definition? text with
    | none => rfl
    | some pair =>
      obtain ⟨defines, named⟩ := definition?_eq_some_iff.1 read
      rcases malformed with absent | begins
      · rw [defines.1] at absent
        exact absurd (List.mem_append_right _ List.mem_cons_self) absent
      · exact absurd (defines.head?_eq_iff.1 begins) named

/-- Texts are refused exactly if one of them is malformed. -/
theorem definitions?_eq_none_iff {texts : List String} :
    definitions? texts = none ↔ ∃ text ∈ texts, Malformed text := by
  simp only [← definition?_eq_none_iff]
  constructor
  · intro refused
    by_contra none
    have read : ∀ text ∈ texts, (definition? text).isSome := fun text member =>
      Option.isSome_iff_ne_none.2 fun unread => none ⟨text, member, unread⟩
    have given := definitions?_eq_some_iff.2 ⟨read, rfl⟩
    rw [refused] at given
    cases given
  · rintro ⟨text, member, unread⟩
    cases given : definitions? texts with
    | none => rfl
    | some bindings =>
      have read := (definitions?_eq_some_iff.1 given).1 text member
      rw [unread] at read
      cases read

/-! ## What is bound -/

/-- The names that are bound are those that are defined. -/
theorem mem_names_iff_of_definitions? {texts : List String} {bindings : Bindings}
    (given : definitions? texts = some bindings) {name : String} :
    name ∈ bindings.names ↔ ∃ text ∈ texts, ∃ value, Defines text name value := by
  constructor
  · intro bound
    by_contra undefined
    have unbound : bindings.get? name = none :=
      (get?_eq_none_iff_of_definitions? given).2 fun text member value defines =>
        undefined ⟨text, member, value, defines⟩
    have value := Bindings.get?_isSome_of_mem bound
    rw [unbound] at value
    cases value
  · rintro ⟨text, member, value, defines⟩
    by_contra unbound
    have absent := Bindings.get?_eq_none_of_not_mem unbound
    exact (get?_eq_none_iff_of_definitions? given).1 absent text member value defines

/-- The text of an option that defines a name. -/
def definitionText (pair : String × String) : String :=
  pair.1 ++ "=" ++ pair.2

theorem definition?_definitionText {pair : String × String} (named : pair.1 ≠ "")
    (absent : '=' ∉ pair.1.toList) : definition? (definitionText pair) = some pair := by
  refine definition?_eq_some_iff.2 ⟨⟨?_, absent⟩, named⟩
  rw [definitionText, String.toList_append, String.toList_append, List.append_assoc]
  rfl

/-- The texts of pairs bind the pairs from left to right. -/
theorem definitions?_map_definitionText {pairs : List (String × String)}
    (named : ∀ pair ∈ pairs, pair.1 ≠ "" ∧ '=' ∉ pair.1.toList) :
    definitions? (pairs.map definitionText) = some (.ofList pairs) := by
  have read : ∀ pair ∈ pairs, definition? (definitionText pair) = some pair :=
    fun pair member => definition?_definitionText (named pair member).1 (named pair member).2
  refine definitions?_eq_some_iff.2 ⟨?_, ?_⟩
  · rw [List.forall_mem_map]
    exact fun pair member => Option.isSome_iff_exists.2 ⟨pair, read pair member⟩
  · rw [List.filterMap_map]
    refine congrArg Bindings.ofList (List.filterMap_some.symm.trans ?_)
    exact List.filterMap_congr fun pair member => (read pair member).symm

/-! ## What stays of what was read -/

namespace Invocation.Draft

variable {verb : Verb} {draft read : Draft}

/-- The values that were read stay. -/
theorem fields_subset_of_readAll? {arguments : List String}
    (found : readAll? verb draft arguments = some read) : draft.fields ⊆ read.fields := by
  obtain ⟨more, rfl⟩ := exists_after_of_readAll? found
  exact List.subset_append_left _ _

/-- Arguments behind others that can be read are read from there, or are scripts if the options have
ended. -/
theorem readAll?_append {front : List String} (more : List String)
    (found : readAll? verb draft front = some read) :
    readAll? verb draft (front ++ more) = readAll? verb read more ∨
      readAll? verb draft (front ++ more) = some (read.addScripts more) := by
  fun_induction readAll? verb draft front with
  | case1 draft =>
    cases found
    exact Or.inl rfl
  | case2 draft rest =>
    cases found
    refine Or.inr ?_
    rw [List.cons_append, readAll?, addScripts, addScripts, addScripts, List.append_assoc]
  | case3 draft argument rest notEnd next here ih =>
    rw [List.cons_append, readAll?_cons notEnd, here]
    exact ih found
  | case4 draft argument notEnd next field here value rest ih =>
    rw [List.cons_append, readAll?_cons notEnd, here]
    exact ih found
  | case5 | case6 => cases found

/-- What arguments say is not lost when there are others behind them. -/
theorem fields_subset_of_append {front more : List String} {whole : Draft}
    (found : readAll? verb draft front = some read)
    (all : readAll? verb draft (front ++ more) = some whole) : read.fields ⊆ whole.fields := by
  rcases readAll?_append more found with later | ended
  · exact fields_subset_of_readAll? (later.symm.trans all)
  · cases ended.symm.trans all
    exact List.Subset.refl _

/-! ## Help -/

theorem eq_help_of_long? {name : String} (known : verb.long? name = some (.inl .help)) :
    name = "--help" := by
  unfold Verb.long? at known
  split at known <;> first | rfl | simp at known

theorem short?_ne_help (letter : Char) : verb.short? letter ≠ some (.inl .help) := by
  unfold Verb.short?
  split <;> simp

/-- Letters do not ask for help. -/
theorem help_mem_of_readShort? {letters : List Char} {reading : Reading}
    (found : readShort? verb draft letters = some reading)
    (help : .help ∈ reading.draft.flags) : .help ∈ draft.flags := by
  induction letters generalizing draft with
  | nil =>
    cases found
    exact help
  | cons letter rest ih =>
    unfold readShort? at found
    split at found
    · rename_i flag known
      rcases List.mem_append.1 (ih found) with before | here
      · exact before
      · cases List.mem_singleton.1 here
        exact absurd known (short?_ne_help letter)
    · split at found <;> cases found <;> exact help
    · cases found

/-- A long option asks for help if it is the one that does. -/
theorem help_mem_of_readLong? {argument : List Char} {reading : Reading}
    (found : readLong? verb draft argument = some reading)
    (help : .help ∈ reading.draft.flags) :
    .help ∈ draft.flags ∨ String.ofList argument = "--help" := by
  have whole := List.takeWhile_append_dropWhile (p := (· != '=')) (l := argument)
  unfold readLong? at found
  dsimp only at found
  split at found
  · rename_i flag known bare
    cases found
    rcases List.mem_append.1 help with before | here
    · exact Or.inl before
    · cases List.mem_singleton.1 here
      split at bare
      · cases bare
      · rename_i nothing
        rw [nothing, List.append_nil] at whole
        rw [whole] at known
        exact Or.inr (eq_help_of_long? known)
  · cases found
    exact Or.inl help
  · cases found
    exact Or.inl help
  · cases found

theorem help_mem_of_readArgument? {argument : String} {reading : Reading}
    (found : readArgument? verb draft argument = some reading)
    (help : .help ∈ reading.draft.flags) : .help ∈ draft.flags ∨ argument = "--help" := by
  unfold readArgument? at found
  split at found
  · rename_i rest spelled
    rcases help_mem_of_readLong? found help with before | here
    · exact Or.inl before
    · rw [← spelled, String.ofList_toList] at here
      exact Or.inr here
  · exact Or.inl (help_mem_of_readShort? found help)
  · cases found
    exact Or.inl help

/-- An argument in front of others asks for help, or they do. -/
theorem help_mem_cons {argument : String} {rest : List String} {reading : Reading}
    (found : readArgument? verb draft argument = some reading)
    (help : .help ∈ reading.draft.flags ∨ "--help" ∈ rest) :
    .help ∈ draft.flags ∨ "--help" ∈ argument :: rest := by
  rcases help with here | behind
  · rcases help_mem_of_readArgument? found here with before | rfl
    · exact Or.inl before
    · exact Or.inr List.mem_cons_self
  · exact Or.inr (List.mem_cons_of_mem _ behind)

/-- Arguments ask for help only if the option that does is one of them. -/
theorem help_mem_of_readAll? {arguments : List String}
    (found : readAll? verb draft arguments = some read) (help : .help ∈ read.flags) :
    .help ∈ draft.flags ∨ "--help" ∈ arguments := by
  fun_induction readAll? verb draft arguments with
  | case1 draft =>
    cases found
    exact Or.inl help
  | case2 draft rest =>
    cases found
    exact Or.inl help
  | case3 draft argument rest notEnd next here ih => exact help_mem_cons here (ih found)
  | case4 draft argument notEnd next field here value rest ih =>
    exact help_mem_cons here ((ih found).imp_right (List.mem_cons_of_mem _))
  | case5 | case6 => cases found

end Invocation.Draft

/-! ## Requests with a malformed definition -/

namespace Request

/-- What follows the options in front of a verb ends the arguments, and those options ask for help
only if one of them is the option that does. -/
theorem splitHelp?_eq_some {arguments rest : List String} {helped : Bool}
    (split : splitHelp? arguments = some (helped, rest)) :
    rest <:+ arguments ∧ (helped = true → "--help" ∈ arguments) := by
  induction arguments generalizing helped rest with
  | nil =>
    cases split
    exact ⟨List.suffix_rfl, nofun⟩
  | cons argument arguments ih =>
    unfold splitHelp? at split
    split at split
    · cases split
      exact ⟨List.suffix_cons _ _, nofun⟩
    · split at split
      · split at split
        · rename_i help
          obtain ⟨⟨_, _⟩, found, same⟩ := Option.map_eq_some_iff.1 split
          cases same
          refine ⟨(ih found).1.trans (List.suffix_cons _ _), fun _ => ?_⟩
          rw [help]
          exact List.mem_cons_self
        · cases split
      · cases split
        exact ⟨List.suffix_rfl, nofun⟩

/-- Arguments of the command line with a malformed definition: up to some place they are those of a
verb, and an option for definitions has been read there whose value is malformed. -/
inductive Misdefines (arguments : List String) : Prop
  | intro {helped : Bool} {name : String} {verb : Verb} {front more : List String}
      {draft : Invocation.Draft} {field : Field} {text : String}
      (split : splitHelp? arguments = some (helped, name :: (front ++ more)))
      (known : Verb.ofName? name = some verb)
      (read : Invocation.Draft.readAll? verb {} front = some draft)
      (defining : field = .preset ∨ field = .definition)
      (given : (field, text) ∈ draft.fields) (malformed : Malformed text)

theorem definitions?_values_eq_none {draft : Invocation.Draft} {field : Field} {text : String}
    (given : (field, text) ∈ draft.fields) (malformed : Malformed text) :
    definitions? (draft.values field) = none := by
  refine definitions?_eq_none_iff.2 ⟨text, List.mem_map.2 ⟨(field, text), ?_, rfl⟩, malformed⟩
  exact List.mem_filter.2 ⟨given, decide_eq_true rfl⟩

/-- A draft with a malformed definition is refused, unless it asks for help. -/
theorem outcome_ofDraft_of_malformed {draft : Invocation.Draft} {field : Field} {text : String}
    (defining : field = .preset ∨ field = .definition) (given : (field, text) ∈ draft.fields)
    (malformed : Malformed text) (unhelped : .help ∉ draft.flags) (verb : Verb) (world : World) :
    (ofDraft verb draft).outcome world = .refused := by
  have undefined := definitions?_values_eq_none given malformed
  rw [ofDraft, if_neg (by rwa [List.contains_iff_mem])]
  split
  · refine Invocation.outcome_of_undefined ?_
    rcases defining with rfl | rfl
    · exact Or.inl undefined
    · exact Or.inr undefined
  · rfl

/-- Arguments with a malformed definition are refused in every world, unless the option that asks
for help is among them. -/
theorem outcome_of_misdefines {arguments : List String} (misdefines : Misdefines arguments) :
    (read arguments = .help ∧ "--help" ∈ arguments) ∨
      ∀ world, (read arguments).outcome world = .refused := by
  obtain @⟨helped, name, verb, front, more, draft, field, text, split, known, found, defining,
    given, malformed⟩ := misdefines
  obtain ⟨behind, helps⟩ := splitHelp?_eq_some split
  cases helped with
  | true =>
    refine Or.inl ⟨?_, helps rfl⟩
    rw [read, split]
  | false =>
    have asked : read arguments = ofArguments verb (front ++ more) := by
      simp only [read, split, known]
    rw [asked, ofArguments_eq]
    cases all : Invocation.Draft.readAll? verb {} (front ++ more) with
    | none => exact Or.inr fun _ => rfl
    | some whole =>
      by_cases help : .help ∈ whole.flags
      · refine Or.inl ⟨?_, ?_⟩
        · exact if_pos (List.contains_iff_mem.2 help)
        · rcases Invocation.Draft.help_mem_of_readAll? all help with before | among
          · cases before
          · exact behind.subset (List.mem_cons_of_mem _ among)
      · have stays := Invocation.Draft.fields_subset_of_append found all given
        exact Or.inr (outcome_ofDraft_of_malformed defining stays malformed help verb)

/-- Definitions are read exactly: their texts are refused if and only if one of them has no equals
sign or begins with one; else the names that they define are bound, each to what stands behind the
first equals sign of the last text for it; so the texts of pairs bind each name to its last value.
On the command line a malformed definition is refused with the status 2 before a command is started,
whatever the files hold, unless help is asked for. -/
theorem definitions_exact :
    (∀ texts, definitions? texts = none ↔
      ∃ text ∈ texts, '=' ∉ text.toList ∨ text.toList.head? = some '=') ∧
    (∀ texts bindings, definitions? texts = some bindings →
      (∀ name, name ∈ bindings.names ↔ ∃ text ∈ texts, ∃ value, Defines text name value) ∧
      ∀ name value, bindings.get? name = some value ↔ DefinesLast texts name value) ∧
    (∀ pairs : List (String × String), (∀ pair ∈ pairs, pair.1 ≠ "" ∧ '=' ∉ pair.1.toList) →
      definitions? (pairs.map definitionText) = some (.ofList pairs) ∧
      ∀ name, (Bindings.ofList pairs).get? name = (Bindings.valuesIn pairs name).getLast?) ∧
    ∀ arguments, Misdefines arguments → ∀ world,
      ((read arguments).outcome world).starts = [] ∧
        (((read arguments).outcome world).status = 2 ∨
          "--help" ∈ arguments ∧ read arguments = .help ∧
            ((read arguments).outcome world).status = 0) := by
  refine ⟨fun texts => definitions?_eq_none_iff, fun texts bindings given => ⟨fun name => ?_, ?_⟩,
    fun pairs named => ⟨definitions?_map_definitionText named, fun name => ?_⟩,
    fun arguments misdefines world => ?_⟩
  · exact mem_names_iff_of_definitions? given
  · exact fun name value => get?_eq_some_iff_of_definitions? given
  · exact Bindings.get?_ofList pairs name
  · rcases outcome_of_misdefines misdefines with ⟨help, among⟩ | refused
    · rw [help]
      exact ⟨rfl, Or.inr ⟨among, rfl, rfl⟩⟩
    · rw [refused]
      exact ⟨rfl, Or.inl rfl⟩

/-- Of two definitions of a name the second one counts, with its further equals sign; and a
malformed one is refused. -/
theorem definitions_exact_repeated :
    (∃ bindings, definitions? ["A=1", "A=x=y"] = some bindings ∧
      bindings.get? "A" = some "x=y") ∧
    ∀ world, ((read ["compile", "s", "--var", "bad"]).outcome world).status = 2 := by
  have misdefines : Misdefines ["compile", "s", "--var", "bad"] :=
    @Misdefines.intro _ false "compile" .compile ["s", "--var", "bad"] [] _ .preset "bad"
      (by decide) rfl rfl (Or.inl rfl) List.mem_cons_self (Or.inl (by decide))
  obtain ⟨decoded, last⟩ := definitions_exact.2.2.1 [("A", "1"), ("A", "x=y")] (by decide)
  refine ⟨⟨_, decoded, last "A"⟩, fun world => ?_⟩
  rcases (definitions_exact.2.2.2 _ misdefines world).2 with refused | ⟨among, _⟩
  · exact refused
  · exact absurd among (by decide)

/-- Asking for help comes before a malformed definition. -/
theorem exists_misdefined_helped :
    ¬ ∀ arguments, Misdefines arguments → ∀ world,
      ((read arguments).outcome world).starts = [] ∧
        ((read arguments).outcome world).status = 2 := by
  intro refused
  have misdefines : Misdefines ["compile", "s.ds", "--var", "bad", "--help"] :=
    @Misdefines.intro _ false "compile" .compile ["s.ds", "--var", "bad"] ["--help"] _ .preset "bad"
      (by decide) rfl rfl (Or.inl rfl) List.mem_cons_self (Or.inl (by decide))
  have helped := (refused _ misdefines ⟨fun _ => .file [], "/", id, [], .standard "/tmp", .standard, 0⟩).2
  cases helped

end Request

end SetupScript
