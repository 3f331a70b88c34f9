import Mathlib.Data.List.Nodup
import SetupScript.Proofs.Stencil

/-!
# Numbering

Which clone is staged where.  The clones of a script draw one staging number each, in the order in
which they are declared, and nothing else draws any.  A staging number is written as a decimal
numeral, which determines it (`Text.Numeral.unique`), behind what depends on the settings alone; so
two clones share a path exactly if their numbers agree within the staging range
(`Settings.stagingPath_eq_iff`, for a whole script `Script.compile_numbered`).
-/

namespace SetupScript

/-! ## Numerals -/

/-- The decimal numeral of a number: digits alone, of which the first is a zero only if it is the
only one. -/
structure Text.Numeral (number : Nat) (text : String) : Prop where
  nonempty : text ≠ ""
  digits : ∀ character ∈ text.toList, character.isDigit
  value : Nat.ofDigitChars 10 text.toList 0 = number
  leading : text.toList.head? = some '0' → text = "0"

namespace Text

/-- A numeral stands for one number. -/
theorem Numeral.unique {number other : Nat} {text : String} (numeral : Numeral number text)
    (otherNumeral : Numeral other text) : number = other :=
  numeral.value.symm.trans otherNumeral.value

/-- Only zero is written with a zero in front. -/
theorem eq_zero_of_head?_toDigits {number : Nat}
    (zero : (Nat.toDigits 10 number).head? = some '0') : number = 0 := by
  induction number using Nat.strongRecOn with
  | ind number ih =>
    rw [Nat.toDigits_eq_if (by decide)] at zero
    split at zero
    · simpa using zero
    · rename_i large
      rw [List.head?_append_of_ne_nil _ Nat.toDigits_ne_nil] at zero
      have fewer : number / 10 < number := Nat.div_lt_self (by omega) (by decide)
      have none := ih (number / 10) fewer zero
      omega

theorem numeral_toString (number : Nat) : Numeral number (toString number) := by
  have written : (toString number).toList = Nat.toDigits 10 number := by
    rw [Nat.toString_eq_ofList_toDigits, String.toList_ofList]
  refine ⟨fun empty => ?_, fun _ => isDigit_of_mem_toString, ?_, fun zero => ?_⟩
  · rw [empty] at written
    exact Nat.toDigits_ne_nil written.symm
  · rw [written, Nat.ofDigitChars_ten_toDigits]
  · rw [written] at zero
    rw [eq_zero_of_head?_toDigits zero]
    rfl

end Text

/-! ## Staging paths -/

/-- Two staging paths are the same exactly if the numbers drawn for them agree within the staging
range. -/
theorem Settings.stagingPath_eq_iff (settings : Settings) (draw other : Nat) :
    settings.stagingPath draw = settings.stagingPath other ↔
      draw % stagingRange = other % stagingRange := by
  obtain ⟨lead, numbered⟩ := Stencil.exists_stagingPath settings
  rw [numbered, numbered, String.append_right_inj]
  constructor
  · intro same
    have numeral := Text.numeral_toString (draw % stagingRange)
    rw [same] at numeral
    exact numeral.unique (Text.numeral_toString _)
  · intro same
    rw [same]

/-! ## Clones -/

/-- What is not a clone is not counted as one. -/
theorem Declaration.Means.clones_eq {around : Script.Surroundings} {declaration : Declaration}
    {ledger last : Ledger} (means : declaration.Means around ledger last)
    (unstaged : declaration.keyword ≠ .clone) : last.clones = ledger.clones := by
  cases means with
  | clone | cloneAs => exact absurd rfl unstaged
  | _ => rfl

namespace Script

/-- The path that belongs to a clone, by the number of clones before it. -/
def Surroundings.stagingPath (around : Surroundings) (index : Nat) : String :=
  around.settings.stagingPath (around.draws index)

/-- How a list of declarations changes the ledger when the clones among them are staged in given
paths, one for each of them, in order. -/
inductive Stages (around : Surroundings) : List Declaration → List String → Ledger → Ledger → Prop
  | nil (ledger : Ledger) : Stages around [] [] ledger ledger
  | clone {argument fetched path : String} {declarations : List Declaration} {paths : List String}
      {ledger last : Ledger} (location : Declaration.Fetched argument fetched)
      (others : Stages around declarations paths
        (ledger.fetch (Declaration.fetchCommand around.settings fetched path)) last) :
      Stages around (.clone argument none :: declarations) (path :: paths) ledger last
  | cloneAs {argument name fetched path : String} {declarations : List Declaration}
      {paths : List String} {ledger last : Ledger}
      (location : Declaration.Fetched argument fetched)
      (others : Stages around declarations paths
        ((ledger.bind name path).fetch
          (Declaration.fetchCommand around.settings fetched path)) last) :
      Stages around (.clone argument (some name) :: declarations) (path :: paths) ledger last
  | other {declaration : Declaration} {declarations : List Declaration} {paths : List String}
      {ledger middle last : Ledger} (unstaged : declaration.keyword ≠ .clone)
      (first : declaration.Means around ledger middle)
      (others : Stages around declarations paths middle last) :
      Stages around (declaration :: declarations) paths ledger last

section Numbers

variable {around : Surroundings} {declarations : List Declaration} {ledger last : Ledger}

/-- Declarations stage their clones in the paths that belong to them. -/
theorem Means.stages (means : Script.Means around declarations ledger last) :
    Stages around declarations
      ((List.range' ledger.clones (declarations.countP (·.keyword = .clone))).map
        around.stagingPath) ledger last := by
  induction means with
  | nil ledger => exact .nil ledger
  | @cons declaration declarations ledger middle last first others ih =>
    by_cases staged : declaration.keyword = .clone
    · rw [List.countP_cons_of_pos (by simpa using staged), List.range'_succ, List.map_cons]
      cases first with
      | clone location path =>
        subst path
        exact .clone location ih
      | cloneAs location path =>
        subst path
        exact .cloneAs location ih
      | _ => cases staged
    · rw [List.countP_cons_of_neg (by simpa using staged), ← first.clones_eq staged]
      exact .other staged first ih

/-- Of the numbers that may be drawn, declarations depend on those of their clones alone. -/
theorem Means.of_agree {draws : Nat → Nat} (means : Script.Means around declarations ledger last)
    (agree : ∀ index < last.clones,
      draws index % Settings.stagingRange = around.draws index % Settings.stagingRange) :
    Script.Means { around with draws := draws } declarations ledger last := by
  induction means with
  | nil ledger => exact .nil ledger
  | cons first others ih =>
    have later := others.clones_eq
    refine .cons ?_ (ih agree)
    cases first with
    | run argument => exact .run argument _
    | extract parts placed => exact .extract parts placed
    | set parts => exact .set parts
    | clone location staged =>
      refine .clone location (staged.trans ((Settings.stagingPath_eq_iff _ _ _).2 ?_))
      exact (agree _ (by simp [later, Ledger.fetch]; omega)).symm
    | cloneAs location staged =>
      refine .cloneAs location (staged.trans ((Settings.stagingPath_eq_iff _ _ _).2 ?_))
      exact (agree _ (by simp [later, Ledger.fetch, Ledger.bind]; omega)).symm

/-- The paths of clones are pairwise distinct exactly if their numbers are, within the staging
range. -/
theorem nodup_paths_iff (around : Surroundings) (indices : List Nat) :
    (indices.map around.stagingPath).Nodup ↔
      (indices.map fun index => around.draws index % Settings.stagingRange).Nodup := by
  simp only [List.Nodup, List.pairwise_map, Surroundings.stagingPath, ne_eq,
    Settings.stagingPath_eq_iff]

end Numbers

/-- When a script is compiled, its clones are staged in the paths of the numbers drawn, each in its
own, in the order of their declarations.  Nothing else draws: the plan stays the same whatever
numbers come behind those, and however much those differ in whole staging ranges.  Two paths are the
same exactly if their numbers agree within the staging range, and end in the decimal numeral of
their number. -/
theorem compile_numbered {text filename : String} {around : Surroundings} {plan : Plan}
    {after : Session}
    (compiled : Session.compile.run (Session.ofText text filename around) = (.ok plan, after)) :
    ∃ tokens declarations, (Scanner.ofString text).tokenize = .ok tokens ∧
      Spells declarations (Token.significant tokens) ∧
      after.drawn = declarations.countP (·.keyword = .clone) ∧
      Stages around declarations ((List.range after.drawn).map around.stagingPath)
        (Ledger.initial around) ⟨plan.commands, plan.bindings, after.drawn⟩ ∧
      (∀ draws : Nat → Nat,
        (∀ index < after.drawn,
          draws index % Settings.stagingRange = around.draws index % Settings.stagingRange) →
        (compile text filename { around with draws := draws }).1 = .ok plan) ∧
      (∀ first second, around.stagingPath first = around.stagingPath second ↔
        around.draws first % Settings.stagingRange = around.draws second % Settings.stagingRange) ∧
      (((List.range after.drawn).map around.stagingPath).Nodup ↔
        ((List.range after.drawn).map fun index =>
          around.draws index % Settings.stagingRange).Nodup) ∧
      ∀ index, ∃ id, Text.Numeral (around.draws index % Settings.stagingRange) id ∧
        around.draws index % Settings.stagingRange < Settings.stagingRange ∧
        around.stagingPath index =
          Path.join around.settings.stagingRoot (around.settings.stagingStem ++ id) := by
  obtain ⟨tokens, declarations, ledger, tokenized, spells, means, rfl, reached⟩ :=
    spells_of_compile compiled
  have drawn : after.drawn = ledger.clones := congrArg Ledger.clones reached
  have counted : after.drawn = declarations.countP (·.keyword = .clone) :=
    drawn.trans (means.clones_eq.trans (Nat.zero_add _))
  refine ⟨tokens, declarations, tokenized, spells, counted, ?_, fun draws agree => ?_,
    fun first second => Settings.stagingPath_eq_iff _ _ _, nodup_paths_iff around _,
    fun index => ⟨_, Text.numeral_toString _, Nat.mod_lt _ (by decide), rfl⟩⟩
  · have stages := means.stages
    rw [← counted, drawn] at stages
    rw [List.range_eq_range', drawn]
    exact stages
  · rw [drawn] at agree
    exact compile_eq_ok_iff.2
      ⟨tokens, declarations, ledger, tokenized, spells, means.of_agree agree, rfl⟩

/-- Two clones whose numbers differ by a staging range share their path. -/
theorem compile_numbered_shared :
    ∃ plan after, Session.compile.run (Session.ofText "clone \"h/a\" as \"A\"; clone \"h/b\"" "f"
        ⟨.standard "/tmp", .empty, "/w", fun index => 7 + index * Settings.stagingRange⟩) =
          (.ok plan, after) ∧
      after.drawn = 2 ∧
      plan.commands =
        ["cd /tmp && git clone --depth=1 https://h/a /tmp/depscript-7",
          "cd /tmp && git clone --depth=1 https://h/b /tmp/depscript-7"] ∧
      (⟨.standard "/tmp", .empty, "/w", fun index => 7 + index * Settings.stagingRange⟩ :
          Surroundings).stagingPath 0 =
        (⟨.standard "/tmp", .empty, "/w", fun index => 7 + index * Settings.stagingRange⟩ :
          Surroundings).stagingPath 1 ∧
      ∀ draws : Nat → Nat, (∀ index < after.drawn, draws index % Settings.stagingRange =
          (7 + index * Settings.stagingRange) % Settings.stagingRange) →
        (compile "clone \"h/a\" as \"A\"; clone \"h/b\"" "f"
          ⟨.standard "/tmp", .empty, "/w", draws⟩).1 = .ok plan := by
  obtain ⟨plan, after, compiled, drawn, commands⟩ : ∃ plan after,
      Session.compile.run (Session.ofText "clone \"h/a\" as \"A\"; clone \"h/b\"" "f"
        ⟨.standard "/tmp", .empty, "/w", fun index => 7 + index * Settings.stagingRange⟩) =
          (.ok plan, after) ∧
      after.drawn = 2 ∧
      plan.commands =
        ["cd /tmp && git clone --depth=1 https://h/a /tmp/depscript-7",
          "cd /tmp && git clone --depth=1 https://h/b /tmp/depscript-7"] := by
    refine ⟨⟨"f", ["cd /tmp && git clone --depth=1 https://h/a /tmp/depscript-7",
        "cd /tmp && git clone --depth=1 https://h/b /tmp/depscript-7"],
      Bindings.empty.insert "A" "/tmp/depscript-7"⟩, (Session.compile.run _).2, Prod.ext ?_ rfl,
      ?_, rfl⟩
    all_goals with_unfolding_all rfl
  obtain ⟨_, _, _, _, _, _, stable, same, _⟩ := compile_numbered compiled
  exact ⟨plan, after, compiled, drawn, commands, (same 0 1).2 rfl, stable⟩

end Script

end SetupScript
