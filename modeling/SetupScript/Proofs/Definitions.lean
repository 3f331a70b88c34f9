import Mathlib.Data.List.TakeWhile
import SetupScript.CommandLine.Outcome
import SetupScript.Proofs.Overriding
import SetupScript.Text.Fields

/-!
# Definitions

What the definitions on a command line come to.  A definition is a name and a value around the first
equals sign (`Defines`); where every text is one, a name has the value of the last definition of it
(`get?_eq_some_iff_of_definitions?`).
-/

namespace SetupScript

/-- A text defines a name: the name stands in front of the first equals sign, and the value is all
that stands behind it. -/
def Defines (text name value : String) : Prop :=
  text.toList = name.toList ++ '=' :: value.toList ∧ '=' ∉ name.toList

/-- A text defines one name and one value at most. -/
theorem Defines.unique {text name value other otherValue : String}
    (defines : Defines text name value)
    (others : Defines text other otherValue) : name = other ∧ value = otherValue := by
  have names : name.toList = other.toList := by
    rw [← Text.takeWhile_append_separator defines.2 value.toList, ← defines.1, others.1,
      Text.takeWhile_append_separator others.2]
  have whole := defines.1.symm.trans others.1
  rw [names] at whole
  have values := List.append_cancel_left whole
  exact ⟨String.toList_inj.1 names, String.toList_inj.1 (List.cons.inj values).2⟩

/-- A definition is read exactly if its name is not empty. -/
theorem definition?_eq_some_iff {text name value : String} :
    definition? text = some (name, value) ↔ Defines text name value ∧ name ≠ "" := by
  constructor
  · intro found
    have whole := List.takeWhile_append_dropWhile (p := (· != '=')) (l := text.toList)
    have first := List.head?_dropWhile_not (· != '=') text.toList
    unfold definition? at found
    dsimp only at found
    split at found
    · rename_i sign rest behind
      split at found
      · cases found
      · rename_i nonempty
        cases found
        rw [behind] at whole first
        obtain rfl : sign = '=' := by simpa using first
        refine ⟨⟨?_, fun member => ?_⟩, fun empty => nonempty ?_⟩
        · rw [String.toList_ofList, String.toList_ofList]
          exact whole.symm
        · rw [String.toList_ofList] at member
          have inside := List.mem_takeWhile_imp member
          exact bne_iff_ne.1 inside rfl
        · rw [← String.toList_ofList (l := text.toList.takeWhile (· != '=')), empty]
          rfl
    · cases found
  · rintro ⟨⟨spelled, absent⟩, nonempty⟩
    have inside : ∀ character ∈ name.toList, (character != '=') = true := fun _ member =>
      bne_iff_ne.2 fun same => absent (same ▸ member)
    have before : text.toList.takeWhile (· != '=') = name.toList := by
      rw [spelled, Text.takeWhile_append_separator absent]
    have behind : text.toList.dropWhile (· != '=') = '=' :: value.toList := by
      rw [spelled, List.dropWhile_append_of_pos inside]
      rfl
    have named : name.toList.isEmpty = false := by
      rw [List.isEmpty_eq_false_iff]
      exact fun empty => nonempty (String.toList_inj.1 empty)
    simp only [definition?, before, behind, named, Bool.false_eq_true, if_false,
      String.ofList_toList]

/-- All texts are read, or none of them. -/
theorem mapM_definition?_eq_some_iff {texts : List String} {pairs : List (String × String)} :
    texts.mapM definition? = some pairs ↔
      (∀ text ∈ texts, (definition? text).isSome) ∧ pairs = texts.filterMap definition? := by
  induction texts generalizing pairs with
  | nil =>
    rw [List.mapM_nil]
    constructor
    · rintro ⟨⟩
      exact ⟨List.forall_mem_nil _, rfl⟩
    · rintro ⟨_, rfl⟩
      rfl
  | cons text texts ih =>
    rw [List.mapM_cons, List.forall_mem_cons]
    cases read : definition? text with
    | none =>
      constructor
      · rintro ⟨⟩
      · rintro ⟨⟨⟨⟩, _⟩, _⟩
    | some pair =>
      rw [List.filterMap_cons_some read]
      constructor
      · intro found
        obtain ⟨_, ⟨⟩, found⟩ := Option.bind_eq_some_iff.1 found
        obtain ⟨rest, others, ⟨⟩⟩ := Option.bind_eq_some_iff.1 found
        obtain ⟨all, rfl⟩ := ih.1 others
        exact ⟨⟨rfl, all⟩, rfl⟩
      · rintro ⟨⟨_, all⟩, rfl⟩
        exact Option.bind_eq_some_iff.2
          ⟨pair, rfl, Option.bind_eq_some_iff.2 ⟨_, ih.2 ⟨all, rfl⟩, rfl⟩⟩

/-- Where every text is a definition, the definitions are bound from left to right. -/
theorem definitions?_eq_some_iff {texts : List String} {bindings : Bindings} :
    definitions? texts = some bindings ↔
      (∀ text ∈ texts, (definition? text).isSome) ∧
        bindings = .ofList (texts.filterMap definition?) := by
  rw [definitions?, Option.map_eq_some_iff]
  constructor
  · rintro ⟨pairs, read, rfl⟩
    obtain ⟨all, rfl⟩ := mapM_definition?_eq_some_iff.1 read
    exact ⟨all, rfl⟩
  · rintro ⟨all, rfl⟩
    exact ⟨_, mapM_definition?_eq_some_iff.2 ⟨all, rfl⟩, rfl⟩

/-! ## The last definition -/

/-- A text in a list defines a name, and none behind it does. -/
def DefinesLast (texts : List String) (name value : String) : Prop :=
  ∃ earlier text later, texts = earlier ++ text :: later ∧ Defines text name value ∧
    ∀ other ∈ later, ∀ otherValue, ¬ Defines other name otherValue

/-- What a definition that can be read defines is what is read. -/
theorem defines_iff_of_isSome {text name value : String} (read : (definition? text).isSome) :
    Defines text name value ↔ definition? text = some (name, value) := by
  constructor
  · intro defines
    obtain ⟨⟨other, otherValue⟩, found⟩ := Option.isSome_iff_exists.1 read
    obtain ⟨rfl, rfl⟩ := (definition?_eq_some_iff.1 found).1.unique defines
    exact found
  · exact fun found => (definition?_eq_some_iff.1 found).1

section Given

variable {texts : List String} {bindings : Bindings} {name value : String}

/-- The value that a text gives a name. -/
def givenValue? (name text : String) : Option String :=
  (definition? text).bind fun pair => if pair.1 = name then some pair.2 else none

theorem givenValue?_eq_some_iff {text : String} (read : (definition? text).isSome) :
    givenValue? name text = some value ↔ Defines text name value := by
  rw [defines_iff_of_isSome read, givenValue?, Option.bind_eq_some_iff]
  constructor
  · rintro ⟨pair, found, same⟩
    split at same
    · rename_i named
      cases same
      cases named
      exact found
    · cases same
  · exact fun found => ⟨_, found, if_pos rfl⟩

theorem givenValue?_eq_none_iff {text : String} (read : (definition? text).isSome) :
    givenValue? name text = none ↔ ∀ value, ¬ Defines text name value := by
  rw [Option.eq_none_iff_forall_ne_some]
  exact forall_congr' fun _ => not_congr (givenValue?_eq_some_iff read)

theorem get?_of_definitions? (given : definitions? texts = some bindings) :
    bindings.get? name = (texts.filterMap (givenValue? name)).getLast? := by
  obtain ⟨_, rfl⟩ := definitions?_eq_some_iff.1 given
  rw [Bindings.get?_ofList, Bindings.valuesIn, List.filterMap_filterMap]
  rfl

/-- A name has the value that is defined last. -/
theorem get?_eq_some_iff_of_definitions? (given : definitions? texts = some bindings) :
    bindings.get? name = some value ↔ DefinesLast texts name value := by
  obtain ⟨read, _⟩ := definitions?_eq_some_iff.1 given
  rw [get?_of_definitions? given, Bindings.getLast?_filterMap_eq_some_iff]
  constructor
  · rintro ⟨earlier, text, later, rfl, gives, others⟩
    rw [List.forall_mem_append, List.forall_mem_cons] at read
    refine ⟨earlier, text, later, rfl, (givenValue?_eq_some_iff read.2.1).1 gives, ?_⟩
    exact fun other member =>
      (givenValue?_eq_none_iff (read.2.2 other member)).1 (others other member)
  · rintro ⟨earlier, text, later, rfl, defines, others⟩
    rw [List.forall_mem_append, List.forall_mem_cons] at read
    refine ⟨earlier, text, later, rfl, (givenValue?_eq_some_iff read.2.1).2 defines, ?_⟩
    exact fun other member =>
      (givenValue?_eq_none_iff (read.2.2 other member)).2 (others other member)

/-- A name is not bound if no text defines it. -/
theorem get?_eq_none_iff_of_definitions? (given : definitions? texts = some bindings) :
    bindings.get? name = none ↔ ∀ text ∈ texts, ∀ value, ¬ Defines text name value := by
  obtain ⟨read, _⟩ := definitions?_eq_some_iff.1 given
  rw [get?_of_definitions? given, List.getLast?_eq_none_iff, List.filterMap_eq_nil_iff]
  exact forall₂_congr fun text member => givenValue?_eq_none_iff (read text member)

end Given

end SetupScript
