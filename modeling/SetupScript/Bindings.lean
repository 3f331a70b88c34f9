/-!
# Bindings

A table from names to values, in the order in which the names were first bound.  No name occurs
twice, so that a table is known from what each name is bound to (`get?_insert`, `get?_erase`).
-/

namespace SetupScript

/-- A table of names and values without repeated names. -/
structure Bindings where
  entries : List (String × String)
  names_nodup : (entries.map Prod.fst).Nodup
deriving DecidableEq

namespace Bindings

/-! ## Views -/

/-- The table that binds nothing. -/
def empty : Bindings :=
  ⟨[], .nil⟩

instance : Inhabited Bindings := ⟨empty⟩

/-- The bound names, oldest first. -/
def names (bindings : Bindings) : List String :=
  bindings.entries.map Prod.fst

/-- How many names are bound. -/
def size (bindings : Bindings) : Nat :=
  bindings.entries.length

/-- What a name is bound to. -/
def get? (bindings : Bindings) (name : String) : Option String :=
  bindings.entries.lookup name

/-! ## Insertion -/

/-- The entries with a name rebound in its place. -/
def rebind (name value : String) (entry : String × String) : String × String :=
  if entry.1 = name then (name, value) else entry

theorem fst_rebind (name value : String) (entry : String × String) :
    (rebind name value entry).1 = entry.1 := by
  unfold rebind
  split
  · exact Eq.symm ‹_›
  · rfl

theorem map_fst_rebind (name value : String) (entries : List (String × String)) :
    (entries.map (rebind name value)).map Prod.fst = entries.map Prod.fst := by
  rw [List.map_map]
  exact List.map_congr_left fun entry _ => fst_rebind name value entry

/-- Bind a name: in its old place if it has one, else behind all others. -/
def insert (bindings : Bindings) (name value : String) : Bindings :=
  if bound : name ∈ bindings.names then
    ⟨bindings.entries.map (rebind name value), by
      rw [map_fst_rebind]
      exact bindings.names_nodup⟩
  else
    ⟨bindings.entries ++ [(name, value)], by
      rw [List.map_append, List.nodup_append]
      refine ⟨bindings.names_nodup, by simp, fun first mem second last => ?_⟩
      rw [List.map_singleton, List.mem_singleton] at last
      rintro rfl
      exact bound ((show first = name from last) ▸ mem)⟩

/-- The table without a name. -/
def erase (bindings : Bindings) (name : String) : Bindings :=
  ⟨bindings.entries.filter fun entry => entry.1 != name,
    bindings.names_nodup.sublist (List.filter_sublist.map Prod.fst)⟩

/-- Bind the pairs of a list from left to right. -/
def insertAll (bindings : Bindings) (pairs : List (String × String)) : Bindings :=
  pairs.foldl (fun table pair => table.insert pair.1 pair.2) bindings

/-- The table of a list of pairs, of which the last one for a name counts. -/
def ofList (pairs : List (String × String)) : Bindings :=
  empty.insertAll pairs

/-- The first table overridden by the second. -/
def overriddenBy (first second : Bindings) : Bindings :=
  first.insertAll second.entries

/-! ## Look-up -/

theorem lookup_cons_eq_ite {Value : Type} (wanted name : String) (value : Value)
    (rest : List (String × Value)) :
    ((name, value) :: rest).lookup wanted =
      if wanted = name then some value else rest.lookup wanted := by
  by_cases same : wanted = name
  · simp [same]
  · simp [List.lookup_cons, beq_eq_false_iff_ne.2 same, same]

theorem lookup_map_rebind (name value wanted : String) (entries : List (String × String)) :
    (entries.map (rebind name value)).lookup wanted =
      if wanted = name then (entries.lookup wanted).map fun _ => value
      else entries.lookup wanted := by
  induction entries with
  | nil => simp
  | cons entry rest ih =>
    obtain ⟨key, old⟩ := entry
    simp only [List.map_cons, rebind, lookup_cons_eq_ite]
    by_cases here : key = name
    · by_cases sought : wanted = name <;> simp [lookup_cons_eq_ite, here, sought, ih]
    · by_cases sought : wanted = key
      · simp [here, sought]
      · simp [lookup_cons_eq_ite, here, sought, ih]

theorem lookup_eq_none_of_not_mem {name : String} {entries : List (String × String)}
    (absent : name ∉ entries.map Prod.fst) : entries.lookup name = none := by
  induction entries with
  | nil => rfl
  | cons entry rest ih =>
    obtain ⟨key, value⟩ := entry
    simp only [List.map_cons, List.mem_cons, not_or] at absent
    simp only [List.lookup_cons, beq_eq_false_iff_ne.2 absent.1, ih absent.2]

theorem lookup_isSome_of_mem {name : String} {entries : List (String × String)}
    (bound : name ∈ entries.map Prod.fst) : (entries.lookup name).isSome := by
  induction entries with
  | nil => simp at bound
  | cons entry rest ih =>
    obtain ⟨key, value⟩ := entry
    by_cases here : name = key
    · simp [here]
    · simp only [List.map_cons, List.mem_cons] at bound
      simpa only [List.lookup_cons, beq_eq_false_iff_ne.2 here] using ih (bound.resolve_left here)

@[simp]
theorem get?_empty (name : String) : empty.get? name = none := rfl

/-- After binding a name, that name has the new value and the others have their old ones. -/
theorem get?_insert (bindings : Bindings) (name value wanted : String) :
    (bindings.insert name value).get? wanted =
      if wanted = name then some value else bindings.get? wanted := by
  unfold insert get?
  split
  · rename_i bound
    rw [lookup_map_rebind]
    split
    · rename_i same
      obtain ⟨old, found⟩ := Option.isSome_iff_exists.1 (lookup_isSome_of_mem bound)
      rw [same, found, Option.map_some]
    · rfl
  · rename_i unbound
    rw [List.lookup_append]
    by_cases same : wanted = name
    · rw [same, lookup_eq_none_of_not_mem unbound]
      simp
    · simp [List.lookup_cons, beq_eq_false_iff_ne.2 same, same]

/-- After erasing a name it is unbound, and the others have their old values. -/
theorem get?_erase (bindings : Bindings) (name wanted : String) :
    (bindings.erase name).get? wanted =
      if wanted = name then none else bindings.get? wanted := by
  show (bindings.entries.filter fun entry => entry.1 != name).lookup wanted =
    if wanted = name then none else bindings.entries.lookup wanted
  induction bindings.entries with
  | nil => simp
  | cons entry rest ih =>
    obtain ⟨key, value⟩ := entry
    by_cases dropped : key = name
    · rw [List.filter_cons_of_neg (by simp [dropped]), ih, lookup_cons_eq_ite, dropped]
      split <;> rfl
    · rw [List.filter_cons_of_pos (by simp [dropped]), lookup_cons_eq_ite, ih, lookup_cons_eq_ite]
      by_cases sought : wanted = key
      · simp [dropped, sought]
      · simp [sought]

end Bindings

end SetupScript
