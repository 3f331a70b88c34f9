import Mathlib.Data.List.Basic
import SetupScript.Proofs.Overriding
import SetupScript.Proofs.Validation

/-!
# Blocks of variables

What the names of settings are bound to.  Variables that are given as several blocks are those of
the object that the blocks are merged to (`Settings.readVariables_blocks`), in every settings
(`Settings.ofDatum_blocks`); and a name has the value of the last entry that prints as the name, in
an object and, where its keys are told apart by how they print, in a list of blocks
(`Settings.get?_of_offers`).
-/

namespace SetupScript

/-- Of two keys, one of which prints as a name, it can be seen from how they print whether they are
the same.  The number one and the text of its digit are different keys that print alike. -/
def Datum.Key.Agree (name : String) (first second : Datum.Key) : Prop :=
  first.display = name ∨ second.display = name →
    (first.same second = true ↔ first.display = second.display)

theorem Datum.Key.agree_text (name first second : String) :
    Datum.Key.Agree name (.text first) (.text second) :=
  fun _ => beq_iff_eq

/-- Texts agree with each other for every name. -/
theorem Datum.Key.pairwise_agree {keys : List Datum.Key}
    (texts : ∀ key ∈ keys, ∃ text, key = .text text) (name : String) :
    keys.Pairwise (Datum.Key.Agree name) := by
  refine List.pairwise_of_forall_mem_list fun first member second otherMember => ?_
  obtain ⟨text, rfl⟩ := texts first member
  obtain ⟨other, rfl⟩ := texts second otherMember
  exact Datum.Key.agree_text name text other

namespace Settings

/-- The entries of a list of blocks as those of one object. -/
def merged (blocks : List (List (Datum.Key × Datum))) : List (Datum.Key × Datum) :=
  blocks.flatten.foldl Datum.putEntry []

/-- The plain forms of the values that entries hold for a name, in order. -/
def valuesOf (entries : List (Datum.Key × Datum)) (name : String) : List String :=
  entries.filterMap fun entry => if entry.1.display = name then some entry.2.display else none

/-- Where the variables of settings come from: a name has the value of the last of these entries
that prints as the name.  Blocks may be merged; if their keys agree, they may be taken as they
are. -/
inductive Offers (name : String) : Datum → List (Datum.Key × Datum) → Prop
  | object (entries : List (Datum.Key × Datum)) : Offers name (.mapping entries) entries
  | merged (blocks : List (List (Datum.Key × Datum))) :
      Offers name (.list (blocks.map .mapping)) (merged blocks)
  | blocks {blocks : List (List (Datum.Key × Datum))}
      (agree : (blocks.flatten.map Prod.fst).Pairwise (Datum.Key.Agree name)) :
      Offers name (.list (blocks.map .mapping)) blocks.flatten

/-! ## Merging -/

theorem mergeBlocks_map_mapping (blocks : List (List (Datum.Key × Datum))) :
    mergeBlocks (blocks.map .mapping) = .ok (merged blocks) := by
  have pairs : (blocks.map Datum.mapping).mapM pairsOfBlock = .ok blocks := by
    induction blocks with
    | nil => rfl
    | cons block blocks ih =>
      rw [List.map_cons, List.mapM_cons, ih]
      rfl
  rw [mergeBlocks, pairs]
  rfl

/-- Several blocks are read like the one object that they are merged to. -/
theorem readVariables_blocks (blocks : List (List (Datum.Key × Datum))) :
    readVariables (.list (blocks.map .mapping)) = readVariables (.mapping (merged blocks)) := by
  simp only [readVariables, mergeBlocks_map_mapping]

section Fields

section Names

variable {front back : List (String × Datum)} {first second : Datum}

theorem lookup_replaced {name : String} (other : name ≠ "variables") :
    (front ++ ("variables", first) :: back).lookup name =
      (front ++ ("variables", second) :: back).lookup name := by
  rw [List.lookup_append, List.lookup_append, Bindings.lookup_cons_eq_ite, if_neg other,
    Bindings.lookup_cons_eq_ite, if_neg other]

theorem readField_replaced {Value : Type} {name : String} (other : name ≠ "variables")
    (read : Datum → Except Problem Value) (default : Value) :
    readField (front ++ ("variables", first) :: back) name read default =
      readField (front ++ ("variables", second) :: back) name read default := by
  rw [readField, readField, lookup_replaced other]

theorem readVariablesField_replaced (alike : readVariables first = readVariables second) :
    readVariablesField (front ++ ("variables", first) :: back) =
      readVariablesField (front ++ ("variables", second) :: back) := by
  rw [readVariablesField, readVariablesField, List.lookup_append, List.lookup_append,
    Bindings.lookup_cons_eq_ite, if_pos rfl, Bindings.lookup_cons_eq_ite, if_pos rfl]
  cases front.lookup "variables" with
  | some datum => rfl
  | none => simp only [Option.none_or, alike]

end Names

variable {reader : Reader} {front back : List (Datum.Key × Datum)} {first second : Datum}

theorem fields_append_variables (datum : Datum) :
    Datum.fields (front ++ (.text "variables", datum) :: back) =
      Datum.fields front ++ ("variables", datum) :: Datum.fields back :=
  List.filterMap_append

theorem unknownFields_replaced :
    unknownFields (front ++ (.text "variables", first) :: back) =
      unknownFields (front ++ (.text "variables", second) :: back) := by
  rw [unknownFields, unknownFields, List.filterMap_append, List.filterMap_append]
  rfl

/-- Settings depend on the field of the variables only through what is read from it. -/
theorem ofEntries_replaced (alike : readVariables first = readVariables second) :
    ofEntries reader (front ++ (.text "variables", first) :: back) =
      ofEntries reader (front ++ (.text "variables", second) :: back) := by
  have text : ∀ name default, name ≠ "variables" →
      readField (Datum.fields front ++ ("variables", first) :: Datum.fields back) name
          (readText reader) default =
        readField (Datum.fields front ++ ("variables", second) :: Datum.fields back) name
          (readText reader) default :=
    fun _ default other => readField_replaced other (readText reader) default
  have depth : ∀ default,
      readField (Datum.fields front ++ ("variables", first) :: Datum.fields back) "clone_depth"
          (readDepth reader) default =
        readField (Datum.fields front ++ ("variables", second) :: Datum.fields back) "clone_depth"
          (readDepth reader) default :=
    readField_replaced (by decide) (readDepth reader)
  simp only [ofEntries, fields_append_variables, readVariablesField_replaced alike,
    text "staging_root" _ (by decide), text "staging_prefix" _ (by decide), depth,
    text "shell" _ (by decide), @unknownFields_replaced front back first second]

end Fields

/-- Wherever the variables of settings are blocks, they may be the object that the blocks are merged
to, and the settings, or what is wrong with them, are the same. -/
theorem ofDatum_blocks (reader : Reader) (front back : List (Datum.Key × Datum))
    (blocks : List (List (Datum.Key × Datum))) :
    ofDatum reader (.mapping (front ++ (.text "variables", .list (blocks.map .mapping)) :: back)) =
      ofDatum reader
        (.mapping (front ++ (.text "variables", .mapping (merged blocks)) :: back)) :=
  ofEntries_replaced (readVariables_blocks blocks)

/-! ## Values -/

theorem get?_bindingsOf (entries : List (Datum.Key × Datum)) (name : String) :
    (bindingsOf entries).get? name = (valuesOf entries name).getLast? := by
  rw [bindingsOf, Bindings.get?_ofList, Bindings.valuesIn, List.filterMap_map]
  rfl

theorem valuesOf_append (first second : List (Datum.Key × Datum)) (name : String) :
    valuesOf (first ++ second) name = valuesOf first name ++ valuesOf second name :=
  List.filterMap_append

theorem valuesOf_cons_of_named {entry : Datum.Key × Datum} {name : String}
    (named : entry.1.display = name) (rest : List (Datum.Key × Datum)) :
    valuesOf (entry :: rest) name = entry.2.display :: valuesOf rest name :=
  List.filterMap_cons_some (if_pos named)

theorem valuesOf_cons_of_other {entry : Datum.Key × Datum} {name : String}
    (other : entry.1.display ≠ name) (rest : List (Datum.Key × Datum)) :
    valuesOf (entry :: rest) name = valuesOf rest name :=
  List.filterMap_cons_none (if_neg other)

/-- The last entry that prints as a name gives the value. -/
theorem getLast?_valuesOf_eq_some_iff {entries : List (Datum.Key × Datum)} {name value : String} :
    (valuesOf entries name).getLast? = some value ↔
      ∃ earlier key datum later, entries = earlier ++ (key, datum) :: later ∧
        key.display = name ∧ datum.display = value ∧ ∀ other ∈ later, other.1.display ≠ name := by
  rw [valuesOf, Bindings.getLast?_filterMap_eq_some_iff]
  constructor
  · rintro ⟨earlier, ⟨key, datum⟩, later, whole, gives, others⟩
    obtain ⟨named, given⟩ := Option.ite_none_right_eq_some.1 gives
    refine ⟨earlier, key, datum, later, whole, named, Option.some.inj given, ?_⟩
    intro other member same
    have passed := others other member
    rw [if_pos same] at passed
    cases passed
  · rintro ⟨earlier, key, datum, later, whole, named, rfl, others⟩
    exact ⟨earlier, (key, datum), later, whole, if_pos named, fun other member =>
      if_neg (others other member)⟩

theorem getLast?_valuesOf_eq_none_iff {entries : List (Datum.Key × Datum)} {name : String} :
    (valuesOf entries name).getLast? = none ↔ ∀ entry ∈ entries, entry.1.display ≠ name := by
  rw [List.getLast?_eq_none_iff, valuesOf, List.filterMap_eq_nil_iff]
  refine forall₂_congr fun entry _ => ?_
  by_cases named : entry.1.display = name
  · rw [if_pos named]
    exact iff_of_false nofun (not_not_intro named)
  · rw [if_neg named]
    exact iff_of_true rfl named

/-! ## Entries that are put -/

section Putting

variable {table : List (Datum.Key × Datum)} {entry : Datum.Key × Datum} {name : String}

/-- Putting an entry brings no key into a table but its own. -/
theorem key_mem_putEntry {other : Datum.Key × Datum} (member : other ∈ Datum.putEntry table entry) :
    (∃ old ∈ table, old.1 = other.1) ∨ other.1 = entry.1 := by
  unfold Datum.putEntry at member
  split at member
  · obtain ⟨old, present, rfl⟩ := List.mem_map.1 member
    refine Or.inl ⟨old, present, ?_⟩
    split <;> rfl
  · rcases List.mem_append.1 member with present | last
    · exact Or.inl ⟨other, present, rfl⟩
    · rw [List.mem_singleton.1 last]
      exact Or.inr rfl

/-- Replacing an entry whose key agrees with those of a table replaces the values of the name as
which it prints. -/
theorem valuesOf_map_replace (agree : ∀ other ∈ table, other.1.Agree name entry.1) :
    valuesOf (table.map fun other =>
        if other.1.same entry.1 then (other.1, entry.2) else other) name =
      (valuesOf table name).map fun value =>
        if entry.1.display = name then entry.2.display else value := by
  rw [valuesOf, valuesOf, List.filterMap_map, List.map_filterMap]
  refine List.filterMap_congr fun other member => ?_
  have alike := agree other member
  by_cases prints : other.1.display = name
  · have same : other.1.same entry.1 = true ↔ entry.1.display = name :=
      (alike (Or.inl prints)).trans (prints ▸ eq_comm)
    by_cases named : entry.1.display = name
    · simp [prints, named, same.2 named]
    · simp [prints, named, mt same.1 named]
  · by_cases replaced : other.1.same entry.1 = true
    · simp [prints, replaced]
    · simp [prints, replaced]

/-- Where its key agrees with those of a table, an entry gives its value to the name as which it
prints, and leaves the values of all other names. -/
theorem get?_bindingsOf_putEntry (agree : ∀ other ∈ table, other.1.Agree name entry.1) :
    (bindingsOf (Datum.putEntry table entry)).get? name =
      if entry.1.display = name then some entry.2.display else (bindingsOf table).get? name := by
  rw [get?_bindingsOf, get?_bindingsOf, Datum.putEntry]
  split
  · rename_i found
    rw [valuesOf_map_replace agree, List.getLast?_map]
    by_cases named : entry.1.display = name
    · obtain ⟨old, member, alike⟩ := List.any_eq_true.1 found
      have prints : old.1.display = name :=
        ((agree old member (Or.inr named)).1 alike).trans named
      have held : (valuesOf table name).getLast? ≠ none := fun absent =>
        getLast?_valuesOf_eq_none_iff.1 absent old member prints
      obtain ⟨value, last⟩ := Option.ne_none_iff_exists'.1 held
      rw [last, Option.map_some, if_pos named, if_pos named]
    · simp only [named, if_false, Option.map_id']
  · rw [valuesOf_append]
    by_cases named : entry.1.display = name
    · rw [valuesOf_cons_of_named named, if_pos named]
      exact List.getLast?_concat
    · rw [valuesOf_cons_of_other named, if_neg named, show valuesOf [] name = [] from rfl,
        List.append_nil]

/-- Where their keys agree, the last of some entries that prints as a name gives its value. -/
theorem get?_bindingsOf_foldl {entries : List (Datum.Key × Datum)}
    (apart : ∀ other ∈ table, ∀ entry ∈ entries, other.1.Agree name entry.1)
    (agree : (entries.map Prod.fst).Pairwise (Datum.Key.Agree name)) :
    (bindingsOf (entries.foldl Datum.putEntry table)).get? name =
      (valuesOf entries name).getLast?.or ((bindingsOf table).get? name) := by
  induction entries generalizing table with
  | nil => rfl
  | cons entry rest ih =>
    rw [List.map_cons, List.pairwise_cons] at agree
    have first : ∀ other ∈ table, other.1.Agree name entry.1 := fun other member =>
      apart other member entry List.mem_cons_self
    have others : ∀ other ∈ Datum.putEntry table entry, ∀ next ∈ rest,
        other.1.Agree name next.1 := by
      intro other member next later
      rcases key_mem_putEntry member with ⟨old, present, same⟩ | same
      · exact same ▸ apart old present next (List.mem_cons_of_mem _ later)
      · exact same ▸ agree.1 next.1 (List.mem_map_of_mem later)
    rw [List.foldl_cons, ih others agree.2, get?_bindingsOf_putEntry first]
    by_cases named : entry.1.display = name
    · rw [valuesOf_cons_of_named named, if_pos named, List.getLast?_cons]
      cases (valuesOf rest name).getLast? <;> rfl
    · rw [valuesOf_cons_of_other named, if_neg named]

end Putting

/-- What is offered for a name is what is read for it. -/
theorem get?_of_offers {name : String} {datum : Datum} {entries : List (Datum.Key × Datum)}
    (offers : Offers name datum entries) :
    ∃ bindings, readVariables datum = .ok bindings ∧
      bindings.get? name = (valuesOf entries name).getLast? := by
  cases offers with
  | object => exact ⟨_, rfl, get?_bindingsOf entries name⟩
  | merged blocks => exact ⟨_, readVariables_blocks blocks, get?_bindingsOf _ name⟩
  | @blocks blocks agree =>
    refine ⟨_, readVariables_blocks blocks, ?_⟩
    have read := get?_bindingsOf_foldl (List.forall_mem_nil _) agree
    rwa [show (bindingsOf []).get? name = none from rfl, Option.or_none] at read

/-- A name is bound by settings to the value that their variables offer for it. -/
theorem get?_of_validated {reader : Reader} {fields entries : List (Datum.Key × Datum)}
    {settings : Settings} {name : String} (validated : Validated reader fields settings)
    (offered : Given (Datum.fields fields) "variables" (Offers name · entries) (entries = [])) :
    settings.bindings.get? name = (valuesOf entries name).getLast? := by
  have bindings := validated.bindings
  unfold Given at bindings offered
  split at bindings
  · rename_i datum _ found
    rw [found] at offered
    obtain ⟨table, read, value⟩ := get?_of_offers offered
    rw [read] at bindings
    cases bindings
    exact value
  · rename_i missing
    rw [missing] at offered
    rw [bindings, show entries = [] from offered]
    rfl

end Settings

end SetupScript
