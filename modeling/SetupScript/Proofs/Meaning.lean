import SetupScript.Loading
import SetupScript.Proofs.Grammar

/-!
# Meaning

What the declarations of a script come to, one after the other.  A ledger holds the commands and
the table so far; `Declaration.Means` says how one declaration changes it, and `Script.Means` how a
list of them does, from left to right.  Both are partial functions of the ledger they start from
(`Script.Means.unique`): an argument that must have two parts and has not stops them.
-/

namespace SetupScript

/-! ## Ledgers -/

/-- What the declarations so far have come to: the commands, the table, and how many clones there
were. -/
structure Ledger where
  commands : List String
  bindings : Bindings
  clones : Nat

namespace Ledger

/-- Before the first declaration there is only the table, the presets overriding the variables of
the settings. -/
def initial (around : Script.Surroundings) : Ledger :=
  ⟨[], around.settings.bindings.overriddenBy around.presets, 0⟩

/-- The ledger with one more command. -/
def emit (ledger : Ledger) (command : String) : Ledger :=
  { ledger with commands := ledger.commands ++ [command] }

/-- The ledger with a name bound. -/
def bind (ledger : Ledger) (name value : String) : Ledger :=
  { ledger with bindings := ledger.bindings.insert name value }

/-- The ledger with one more clone, which is fetched by a command. -/
def fetch (ledger : Ledger) (command : String) : Ledger :=
  ⟨ledger.commands ++ [command], ledger.bindings, ledger.clones + 1⟩

end Ledger

/-! ## One declaration -/

namespace Declaration

/-- A text has two parts around the only occurrence of a separator. -/
def Parts (separator : Char) (text first second : String) : Prop :=
  text.toList = first.toList ++ separator :: second.toList ∧
    separator ∉ first.toList ∧ separator ∉ second.toList

/-- Where a file is moved to: a leading dot is the working directory. -/
inductive Placed (workingDirectory : String) : String → String → Prop
  | dotted (rest : String) : Placed workingDirectory ("." ++ rest) (workingDirectory ++ rest)
  | plain {target : String} (undotted : target.toList.head? ≠ some '.') :
      Placed workingDirectory target target

/-- What a clone is fetched from, with the option in front that selects a branch: there is one only
if the argument has exactly one `@`. -/
inductive Fetched : String → String → Prop
  | branch {argument location branch : String} (parts : Parts '@' argument location branch) :
      Fetched argument ("--branch " ++ branch ++ " " ++ "https://" ++ location)
  | whole {argument : String} (notOne : argument.toList.count '@' ≠ 1) :
      Fetched argument ("https://" ++ argument)

/-- The command of a clone into a directory. -/
def fetchCommand (settings : Settings) (fetched path : String) : String :=
  "cd " ++ settings.stagingRoot ++ " && git clone --depth=" ++ toString settings.cloneDepth ++ " " ++
    fetched ++ " " ++ path

/-- How a declaration changes the ledger. -/
inductive Means (around : Script.Surroundings) : Declaration → Ledger → Ledger → Prop
  | run (argument : String) (ledger : Ledger) :
      Means around (.run argument) ledger
        (ledger.emit (Reference.resolve ledger.bindings argument))
  | extract {argument source target place : String} {ledger : Ledger}
      (parts : Parts ' ' (Reference.resolve ledger.bindings argument) source target)
      (placed : Placed around.workingDirectory target place) :
      Means around (.extract argument) ledger (ledger.emit ("mv " ++ source ++ " " ++ place))
  | set {argument name value : String} {ledger : Ledger}
      (parts : Parts '=' (Reference.resolve ledger.bindings argument) name value) :
      Means around (.set argument) ledger (ledger.bind name value)
  | clone {argument fetched path : String} {ledger : Ledger} (location : Fetched argument fetched)
      (staged : path = around.settings.stagingPath (around.draws ledger.clones)) :
      Means around (.clone argument none) ledger
        (ledger.fetch (fetchCommand around.settings fetched path))
  | cloneAs {argument name fetched path : String} {ledger : Ledger}
      (location : Fetched argument fetched)
      (staged : path = around.settings.stagingPath (around.draws ledger.clones)) :
      Means around (.clone argument (some name)) ledger
        ((ledger.bind name path).fetch (fetchCommand around.settings fetched path))

end Declaration

/-! ## A list of declarations -/

/-- How a list of declarations changes the ledger, from left to right. -/
inductive Script.Means (around : Script.Surroundings) : List Declaration → Ledger → Ledger → Prop
  | nil (ledger : Ledger) : Means around [] ledger ledger
  | cons {declaration : Declaration} {declarations : List Declaration} {ledger middle last : Ledger}
      (first : declaration.Means around ledger middle)
      (others : Means around declarations middle last) :
      Means around (declaration :: declarations) ledger last

/-! ## Arguments that can be cut -/

/-- The resolved argument of a declaration has two parts if it must. -/
def Declaration.Cuts (bindings : Bindings) : Declaration → Prop
  | extract argument =>
    ∃ source target, Parts ' ' (Reference.resolve bindings argument) source target
  | set argument => ∃ name value, Parts '=' (Reference.resolve bindings argument) name value
  | run _ | clone _ _ => True

/-- Every argument that must have two parts has them under the bindings made before it. -/
def Script.Cuts (around : Script.Surroundings) (ledger : Ledger)
    (declarations : List Declaration) : Prop :=
  ∀ before declaration after, declarations = before ++ declaration :: after →
    ∀ middle, Script.Means around before ledger middle → declaration.Cuts middle.bindings

/-! ## The parts of arguments -/

namespace Declaration

/-- Cutting an argument finds its two parts. -/
theorem twoParts_eq_ok_iff {form : Diagnostic.Form} {text first second : String} :
    twoParts form text = .ok (first, second) ↔ Parts (separator form) text first second := by
  rw [Parts, ← Text.stringFields_eq_pair_iff, twoParts]
  split
  · rename_i one two fields
    rw [fields, Except.ok.injEq, Prod.mk.injEq]
    simp only [List.cons.injEq, and_true]
  · rename_i notTwo
    exact ⟨nofun, fun fields => absurd fields (notTwo first second)⟩

theorem not_parts_of_error {form : Diagnostic.Form} {text first second : String} {count : Nat}
    (uncut : twoParts form text = .error count) : ¬ Parts (separator form) text first second := by
  rw [← twoParts_eq_ok_iff, uncut]
  exact nofun

theorem Parts.unique {separator : Char} {text first second other otherSecond : String}
    (parts : Parts separator text first second) (others : Parts separator text other otherSecond) :
    first = other ∧ second = otherSecond := by
  rw [Parts, ← Text.stringFields_eq_pair_iff] at parts others
  rw [parts] at others
  simpa only [List.cons.injEq, and_true] using others

/-- A text with two parts has one separator. -/
theorem Parts.count_eq_one {separator : Char} {text first second : String}
    (parts : Parts separator text first second) : text.toList.count separator = 1 := by
  rw [parts.1, List.count_append, List.count_cons_self, List.count_eq_zero.2 parts.2.1,
    List.count_eq_zero.2 parts.2.2]

/-- A text with one separator has two parts. -/
theorem exists_parts_of_count {separator : Char} {text : String}
    (one : text.toList.count separator = 1) :
    ∃ first second, Parts separator text first second := by
  have counted : (Text.stringFields separator text).length = 2 := by
    rw [Text.stringFields, List.length_map, Text.length_fields, one]
  obtain ⟨first, second, fields⟩ := List.length_eq_two.1 counted
  exact ⟨first, second, Text.stringFields_eq_pair_iff.1 fields⟩

/-- The place that is computed for a target is the one it stands for. -/
theorem placed_destination (workingDirectory target : String) :
    Placed workingDirectory target (destination workingDirectory target) := by
  unfold destination
  split
  · rename_i rest dotted
    have whole : target = "." ++ String.ofList rest := by
      simp [← String.toList_inj, dotted]
    rw [whole]
    exact .dotted _
  · rename_i undotted
    refine .plain fun dotted => ?_
    obtain ⟨rest, spelled⟩ := List.head?_eq_some_iff.1 dotted
    exact undotted rest spelled

theorem Placed.eq_destination {workingDirectory target place : String}
    (placed : Placed workingDirectory target place) :
    place = destination workingDirectory target := by
  unfold destination
  cases placed with
  | dotted rest =>
    rw [String.toList_append]
    show _ = workingDirectory ++ String.ofList rest.toList
    rw [String.ofList_toList]
  | plain undotted =>
    split
    · rename_i dotted
      rw [dotted] at undotted
      exact absurd rfl undotted
    · rfl

/-- The source that is computed for an argument is the one it stands for. -/
theorem fetched_source (argument : String) :
    Fetched argument ((source argument).branchOption ++ (source argument).url) := by
  unfold source
  split
  · rename_i location branch fields
    have parts : Parts '@' argument location branch := Text.stringFields_eq_pair_iff.1 fields
    simpa only [Source.branchOption, String.append_assoc] using Fetched.branch parts
  · rename_i notTwo
    have whole : Fetched argument ("https://" ++ argument) := by
      refine .whole fun one => ?_
      obtain ⟨location, branch, parts⟩ := exists_parts_of_count one
      exact notTwo location branch (Text.stringFields_eq_pair_iff.2 parts)
    simpa only [Source.branchOption, String.empty_append] using whole

theorem Fetched.unique {argument fetched other : String} (location : Fetched argument fetched)
    (otherLocation : Fetched argument other) : fetched = other := by
  cases location with
  | branch parts =>
    cases otherLocation with
    | branch otherParts =>
      obtain ⟨rfl, rfl⟩ := parts.unique otherParts
      rfl
    | whole notOne => exact absurd parts.count_eq_one notOne
  | whole notOne =>
    cases otherLocation with
    | branch parts => exact absurd parts.count_eq_one notOne
    | whole _ => rfl

/-- A declaration changes a ledger in no more than one way. -/
theorem Means.unique {around : Script.Surroundings} {declaration : Declaration}
    {ledger last other : Ledger} (means : declaration.Means around ledger last)
    (otherMeans : declaration.Means around ledger other) : last = other := by
  cases means with
  | run =>
    cases otherMeans
    rfl
  | extract parts placed =>
    cases otherMeans with
    | extract otherParts otherPlaced =>
      obtain ⟨rfl, rfl⟩ := parts.unique otherParts
      rw [placed.eq_destination, otherPlaced.eq_destination]
  | set parts =>
    cases otherMeans with
    | set otherParts =>
      obtain ⟨rfl, rfl⟩ := parts.unique otherParts
      rfl
  | clone location staged =>
    cases otherMeans with
    | clone otherLocation otherStaged =>
      rw [location.unique otherLocation, staged, otherStaged]
  | cloneAs location staged =>
    cases otherMeans with
    | cloneAs otherLocation otherStaged =>
      rw [location.unique otherLocation, staged, otherStaged]

end Declaration

/-- Declarations change a ledger in no more than one way. -/
theorem Script.Means.unique {around : Script.Surroundings} {declarations : List Declaration}
    {ledger last other : Ledger} (means : Script.Means around declarations ledger last)
    (otherMeans : Script.Means around declarations ledger other) : last = other := by
  induction means with
  | nil =>
    cases otherMeans
    rfl
  | cons first others ih =>
    cases otherMeans with
    | cons otherFirst otherOthers =>
      obtain rfl := first.unique otherFirst
      exact ih otherOthers

/-- Declarations and others behind them change a ledger one after the other. -/
theorem Script.Means.append {around : Script.Surroundings} {first second : List Declaration}
    {ledger middle last : Ledger} (means : Script.Means around first ledger middle)
    (others : Script.Means around second middle last) :
    Script.Means around (first ++ second) ledger last := by
  induction means with
  | nil _ => exact others
  | cons declared _ ih => exact .cons declared (ih others)

/-- What declarations and others behind them come to, they come to one after the other. -/
theorem Script.Means.exists_of_append {around : Script.Surroundings}
    {first second : List Declaration} {ledger last : Ledger}
    (means : Script.Means around (first ++ second) ledger last) :
    ∃ middle, Script.Means around first ledger middle ∧ Script.Means around second middle last := by
  induction first generalizing ledger with
  | nil => exact ⟨ledger, .nil ledger, means⟩
  | cons declaration first ih =>
    cases means with
    | cons declared others =>
      obtain ⟨middle, front, back⟩ := ih others
      exact ⟨middle, .cons declared front, back⟩

/-- A declaration keeps the commands in front of it. -/
theorem Declaration.Means.commands_prefix {around : Script.Surroundings} {declaration : Declaration}
    {ledger last : Ledger} (means : declaration.Means around ledger last) :
    ledger.commands <+: last.commands := by
  cases means with
  | set _ => exact List.prefix_refl _
  | _ => exact List.prefix_append _ _

theorem Script.Means.commands_prefix {around : Script.Surroundings}
    {declarations : List Declaration} {ledger last : Ledger}
    (means : Script.Means around declarations ledger last) :
    ledger.commands <+: last.commands := by
  induction means with
  | nil _ => exact List.prefix_refl _
  | cons first _ ih => exact first.commands_prefix.trans ih

/-! ## When there is a meaning -/

/-- A declaration has a meaning if its argument can be cut where it must be. -/
theorem Declaration.exists_means_iff {around : Script.Surroundings} {declaration : Declaration}
    {ledger : Ledger} :
    (∃ last, declaration.Means around ledger last) ↔ declaration.Cuts ledger.bindings := by
  constructor
  · rintro ⟨last, means⟩
    cases means with
    | extract parts _ => exact ⟨_, _, parts⟩
    | set parts => exact ⟨_, _, parts⟩
    | _ => trivial
  · intro cuts
    cases declaration with
    | run argument => exact ⟨_, .run argument ledger⟩
    | extract argument =>
      obtain ⟨source, target, parts⟩ := cuts
      exact ⟨_, .extract parts (placed_destination _ _)⟩
    | set argument =>
      obtain ⟨name, value, parts⟩ := cuts
      exact ⟨_, .set parts⟩
    | clone argument name =>
      cases name with
      | none => exact ⟨_, .clone (fetched_source argument) rfl⟩
      | some name => exact ⟨_, .cloneAs (fetched_source argument) rfl⟩

/-- Declarations have a meaning if all their arguments can be cut where they must be. -/
theorem Script.exists_means_iff {around : Script.Surroundings} {declarations : List Declaration}
    {ledger : Ledger} :
    (∃ last, Script.Means around declarations ledger last) ↔
      Script.Cuts around ledger declarations := by
  induction declarations generalizing ledger with
  | nil =>
    constructor
    · rintro _ before declaration after split
      cases before <;> cases split
    · exact fun _ => ⟨ledger, .nil ledger⟩
  | cons declaration declarations ih =>
    constructor
    · rintro ⟨last, means⟩ before other after split middle beforeMeans
      cases means with
      | cons first others =>
        cases beforeMeans with
        | nil =>
          obtain ⟨rfl, _⟩ := List.cons.inj split
          exact Declaration.exists_means_iff.1 ⟨_, first⟩
        | cons beforeFirst beforeOthers =>
          obtain ⟨rfl, rfl⟩ := List.cons.inj split
          obtain rfl := beforeFirst.unique first
          exact ih.1 ⟨_, others⟩ _ _ _ rfl _ beforeOthers
    · intro cuts
      obtain ⟨middle, first⟩ :=
        Declaration.exists_means_iff.2 (cuts [] declaration declarations rfl ledger (.nil _))
      obtain ⟨last, others⟩ := ih.2 fun before other after split reached beforeMeans =>
        cuts (declaration :: before) other after (congrArg (declaration :: ·) split) reached
          (.cons first beforeMeans)
      exact ⟨last, .cons first others⟩

/-- Every clone draws one staging number, and nothing else does. -/
theorem Script.Means.clones_eq {around : Script.Surroundings} {declarations : List Declaration}
    {ledger last : Ledger} (means : Script.Means around declarations ledger last) :
    last.clones = ledger.clones + declarations.countP (·.keyword = .clone) := by
  induction means with
  | nil => rfl
  | cons first others ih =>
    rw [ih, List.countP_cons]
    cases first <;> simp [Declaration.keyword, Ledger.emit, Ledger.bind, Ledger.fetch] <;> omega

/-- From the initial ledger on, a meaning is the only one, and its clones are those that were
declared. -/
theorem Script.Means.initial_iff {around : Script.Surroundings} {declarations : List Declaration}
    {last : Ledger} (means : Script.Means around declarations (Ledger.initial around) last)
    (ledger : Ledger) :
    Script.Means around declarations (Ledger.initial around) ledger ↔
      ledger = ⟨last.commands, last.bindings, declarations.countP (·.keyword = .clone)⟩ := by
  have clones : last.clones = declarations.countP (·.keyword = .clone) :=
    means.clones_eq.trans (Nat.zero_add _)
  rw [← clones]
  constructor
  · exact fun other => other.unique means
  · rintro rfl
    exact means

end SetupScript
