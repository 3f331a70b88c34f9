import SetupScript.Bindings

/-!
# Overriding

What a table comes to when names are bound in it.  Binding keeps the names that are there in their
order and adds new ones behind them; a table is its names, in order, and what they are bound to
(`Bindings.ext_get?`).  A table that begins with the names of another is not changed by what that
other one binds (`Bindings.overriddenBy_eq_of_prefix`).
-/

namespace SetupScript.Bindings

/-! ## Names -/

theorem names_insert (bindings : Bindings) (name value : String) :
    (bindings.insert name value).names =
      if name ∈ bindings.names then bindings.names else bindings.names ++ [name] := by
  unfold insert
  split
  · exact map_fst_rebind name value bindings.entries
  · show (bindings.entries ++ [(name, value)]).map Prod.fst = bindings.names ++ [name]
    rw [List.map_append]
    rfl

/-- Binding a name keeps the names that are there in front. -/
theorem names_prefix_insert (bindings : Bindings) (name value : String) :
    bindings.names <+: (bindings.insert name value).names := by
  rw [names_insert]
  split
  · exact List.prefix_refl _
  · exact List.prefix_append _ _

/-- Binding the pairs of a list adds their names, less those that are there. -/
theorem names_insertAll (bindings : Bindings) {pairs : List (String × String)}
    (nodup : (pairs.map Prod.fst).Nodup) :
    (bindings.insertAll pairs).names =
      bindings.names ++ (pairs.map Prod.fst).filter (· ∉ bindings.names) := by
  induction pairs generalizing bindings with
  | nil => exact (List.append_nil _).symm
  | cons pair rest ih =>
    rw [List.map_cons, List.nodup_cons] at nodup
    obtain ⟨fresh, nodup⟩ := nodup
    have step : (bindings.insertAll (pair :: rest)).names =
        ((bindings.insert pair.1 pair.2).insertAll rest).names := rfl
    rw [step, ih _ nodup, names_insert, List.map_cons]
    split
    · rename_i bound
      rw [List.filter_cons_of_neg (by simpa using bound)]
    · rename_i unbound
      have same : (rest.map Prod.fst).filter (· ∉ bindings.names ++ [pair.1]) =
          (rest.map Prod.fst).filter (· ∉ bindings.names) := by
        refine List.filter_congr fun name member => ?_
        have different : name ≠ pair.1 := by
          rintro rfl
          exact fresh member
        simp [different]
      rw [same, List.filter_cons_of_pos (by simpa using unbound), List.append_assoc,
        List.singleton_append]

theorem names_overriddenBy (first second : Bindings) :
    (first.overriddenBy second).names =
      first.names ++ second.names.filter (· ∉ first.names) :=
  names_insertAll first second.names_nodup

/-! ## Values -/

/-- Binding the pairs of a list gives their names the values of the list. -/
theorem get?_insertAll (bindings : Bindings) {pairs : List (String × String)}
    (nodup : (pairs.map Prod.fst).Nodup) (wanted : String) :
    (bindings.insertAll pairs).get? wanted = (pairs.lookup wanted).or (bindings.get? wanted) := by
  induction pairs generalizing bindings with
  | nil => rfl
  | cons pair rest ih =>
    obtain ⟨name, value⟩ := pair
    rw [List.map_cons, List.nodup_cons] at nodup
    obtain ⟨fresh, nodup⟩ := nodup
    have step : (bindings.insertAll ((name, value) :: rest)).get? wanted =
        ((bindings.insert name value).insertAll rest).get? wanted := rfl
    rw [step, ih _ nodup, get?_insert, lookup_cons_eq_ite]
    split
    · rename_i same
      rw [same, lookup_eq_none_of_not_mem fresh]
      rfl
    · rfl

theorem get?_overriddenBy (first second : Bindings) (wanted : String) :
    (first.overriddenBy second).get? wanted = (second.get? wanted).or (first.get? wanted) :=
  get?_insertAll first second.names_nodup wanted

/-- The last value that the items of a list give is that of an item behind which no other gives
one. -/
theorem getLast?_filterMap_eq_some_iff {Item Value : Type} {give : Item → Option Value}
    {items : List Item} {value : Value} :
    (items.filterMap give).getLast? = some value ↔
      ∃ earlier item later, items = earlier ++ item :: later ∧ give item = some value ∧
        ∀ other ∈ later, give other = none := by
  rw [List.getLast?_filterMap, List.findSome?_eq_some_iff]
  constructor
  · rintro ⟨later, item, earlier, whole, gives, others⟩
    refine ⟨earlier.reverse, item, later.reverse, ?_, gives, fun other member =>
      others other (List.mem_reverse.1 member)⟩
    rw [← List.reverse_reverse items, whole]
    simp
  · rintro ⟨earlier, item, later, rfl, gives, others⟩
    refine ⟨later.reverse, item, earlier.reverse, by simp, gives, fun other member =>
      others other (List.mem_reverse.1 member)⟩

/-- The values that a list of pairs holds for a name, in order. -/
def valuesIn (pairs : List (String × String)) (name : String) : List String :=
  pairs.filterMap fun pair => if pair.1 = name then some pair.2 else none

/-- Whether its names are repeated or not, binding the pairs of a list gives a name the last value
that the list holds for it. -/
theorem get?_insertAll_eq_or (bindings : Bindings) (pairs : List (String × String))
    (wanted : String) :
    (bindings.insertAll pairs).get? wanted =
      (valuesIn pairs wanted).getLast?.or (bindings.get? wanted) := by
  induction pairs generalizing bindings with
  | nil => rfl
  | cons pair rest ih =>
    have step : (bindings.insertAll (pair :: rest)).get? wanted =
        ((bindings.insert pair.1 pair.2).insertAll rest).get? wanted := rfl
    rw [step, ih, get?_insert]
    by_cases same : pair.1 = wanted
    · have held : valuesIn (pair :: rest) wanted = pair.2 :: valuesIn rest wanted :=
        List.filterMap_cons_some (if_pos same)
      rw [held, if_pos same.symm, List.getLast?_cons]
      cases (valuesIn rest wanted).getLast? <;> rfl
    · have passed : valuesIn (pair :: rest) wanted = valuesIn rest wanted :=
        List.filterMap_cons_none (if_neg same)
      rw [passed, if_neg (Ne.symm same)]

theorem get?_ofList (pairs : List (String × String)) (wanted : String) :
    (ofList pairs).get? wanted = (valuesIn pairs wanted).getLast? := by
  rw [ofList, get?_insertAll_eq_or, get?_empty, Option.or_none]

/-- A table is made up of its names and what they are bound to. -/
theorem entries_eq_map_names (bindings : Bindings) :
    bindings.entries = bindings.names.map fun name => (name, (bindings.get? name).getD "") := by
  obtain ⟨entries, nodup⟩ := bindings
  show entries = (entries.map Prod.fst).map fun name => (name, (entries.lookup name).getD "")
  induction entries with
  | nil => rfl
  | cons entry rest ih =>
    obtain ⟨key, value⟩ := entry
    rw [List.map_cons, List.nodup_cons] at nodup
    obtain ⟨fresh, nodup⟩ := nodup
    have others : ∀ name ∈ rest.map Prod.fst,
        ((name, (((key, value) :: rest).lookup name).getD "") : String × String) =
          (name, (rest.lookup name).getD "") := by
      intro name member
      have different : name ≠ key := by
        rintro rfl
        exact fresh member
      rw [lookup_cons_eq_ite, if_neg different]
    rw [List.map_cons, List.map_cons, List.map_congr_left others, ← ih nodup, lookup_cons_eq_ite,
      if_pos rfl, Option.getD_some]

/-- Tables with the same names in the same order, bound to the same values, are the same. -/
theorem ext_get? {first second : Bindings} (names : first.names = second.names)
    (values : ∀ name, first.get? name = second.get? name) : first = second := by
  have entries : first.entries = second.entries := by
    rw [first.entries_eq_map_names, second.entries_eq_map_names, names]
    exact List.map_congr_left fun name _ => by rw [values]
  cases first
  cases second
  congr

theorem get?_isSome_of_mem {bindings : Bindings} {name : String} (bound : name ∈ bindings.names) :
    (bindings.get? name).isSome :=
  lookup_isSome_of_mem bound

theorem get?_eq_none_of_not_mem {bindings : Bindings} {name : String}
    (unbound : name ∉ bindings.names) : bindings.get? name = none :=
  lookup_eq_none_of_not_mem unbound

/-- Overriding a table by one that begins with its names leaves nothing of it. -/
theorem overriddenBy_eq_of_prefix {first second : Bindings} (begins : first.names <+: second.names) :
    first.overriddenBy second = second := by
  refine ext_get? ?_ fun name => ?_
  · obtain ⟨more, whole⟩ := begins
    have nodup : (first.names ++ more).Nodup := whole ▸ second.names_nodup
    have old : first.names.filter (· ∉ first.names) = [] := by
      rw [List.filter_eq_nil_iff]
      intro name member
      simpa using member
    have new : more.filter (· ∉ first.names) = more := by
      rw [List.filter_eq_self]
      intro name member
      have fresh : name ∉ first.names := fun old =>
        (List.nodup_append.1 nodup).2.2 name old name member rfl
      simpa using fresh
    rw [names_overriddenBy, ← whole, List.filter_append, old, new, List.nil_append]
  · rw [get?_overriddenBy]
    by_cases bound : name ∈ second.names
    · obtain ⟨value, found⟩ := Option.isSome_iff_exists.1 (get?_isSome_of_mem bound)
      rw [found, Option.some_or]
    · have absent : name ∉ first.names := fun member => bound (begins.subset member)
      rw [get?_eq_none_of_not_mem bound, get?_eq_none_of_not_mem absent, Option.none_or]

end SetupScript.Bindings
