/-!
# Fields

Cutting a text at every occurrence of a separator.  A text without the separator is one field, so
there is always at least one.
-/

namespace SetupScript.Text

/-- The fields of a text between the occurrences of a separator. -/
def fields (separator : Char) : List Char → List (List Char)
  | [] => [[]]
  | character :: rest =>
    if character = separator then [] :: fields separator rest
    else
      match fields separator rest with
      | [] => [[character]]
      | field :: more => (character :: field) :: more

/-- The fields of a string. -/
def stringFields (separator : Char) (text : String) : List String :=
  (fields separator text.toList).map String.ofList

/-- A text has at least one field. -/
theorem fields_ne_nil (separator : Char) (text : List Char) : fields separator text ≠ [] := by
  cases text with
  | nil => exact nofun
  | cons character rest =>
    unfold fields
    split
    · exact nofun
    · split <;> exact nofun

/-- There is one field more than there are separators. -/
theorem length_fields (separator : Char) (text : List Char) :
    (fields separator text).length = text.count separator + 1 := by
  induction text with
  | nil => rfl
  | cons character rest ih =>
    unfold fields
    split
    · rename_i same
      rw [List.length_cons, ih, same, List.count_cons_self]
    · rename_i different
      rw [List.count_cons_of_ne different]
      split
      · exact absurd ‹_› (fields_ne_nil separator rest)
      · rename_i field more parts
        rw [parts] at ih
        exact ih

/-- A text without the separator is one field. -/
theorem fields_of_notMem {separator : Char} {text : List Char} (absent : separator ∉ text) :
    fields separator text = [text] := by
  induction text with
  | nil => rfl
  | cons character rest ih =>
    rw [List.mem_cons, not_or] at absent
    rw [fields, if_neg (Ne.symm absent.1), ih absent.2]

/-- A separator comes between the fields in front of it and those behind it. -/
theorem fields_append_separator (separator : Char) (first rest : List Char) :
    fields separator (first ++ separator :: rest) =
      fields separator first ++ fields separator rest := by
  induction first with
  | nil =>
    show fields separator (separator :: rest) = [] :: fields separator rest
    rw [fields, if_pos rfl]
  | cons character first ih =>
    rw [List.cons_append, fields, ih, fields]
    split
    · rfl
    · cases before : fields separator first with
      | nil => exact absurd before (fields_ne_nil separator first)
      | cons field more => rfl

/-- The first field ends in front of the first separator. -/
theorem fields_append {separator : Char} {first : List Char} (rest : List Char)
    (absent : separator ∉ first) :
    fields separator (first ++ separator :: rest) = first :: fields separator rest := by
  rw [fields_append_separator, fields_of_notMem absent]
  rfl

/-- What stands in front of the first separator. -/
theorem takeWhile_append_separator {separator : Char} {first : List Char}
    (absent : separator ∉ first) (rest : List Char) :
    (first ++ separator :: rest).takeWhile (· != separator) = first := by
  have inside : ∀ character ∈ first, (character != separator) = true := by
    intro character member
    rw [bne_iff_ne]
    rintro rfl
    exact absent member
  rw [List.takeWhile_append_of_pos inside, List.takeWhile_cons_of_neg (by simp), List.append_nil]

/-- A text has two fields exactly if they stand around its only separator. -/
theorem fields_eq_pair_iff {separator : Char} {text first second : List Char} :
    fields separator text = [first, second] ↔
      text = first ++ separator :: second ∧ separator ∉ first ∧ separator ∉ second := by
  constructor
  · intro parts
    have counted := length_fields separator text
    rw [parts, List.length_cons, List.length_singleton] at counted
    have present : separator ∈ text := List.count_pos_iff.1 (by omega)
    obtain ⟨before, behind, rfl, absent⟩ := List.eq_append_cons_of_mem present
    rw [fields_append behind absent, List.cons.injEq] at parts
    obtain ⟨rfl, others⟩ := parts
    have alone := length_fields separator behind
    rw [others, List.length_singleton] at alone
    have none_behind : separator ∉ behind := List.count_eq_zero.1 (by omega)
    rw [fields_of_notMem none_behind, List.cons.injEq] at others
    exact ⟨by rw [others.1], absent, others.1 ▸ none_behind⟩
  · rintro ⟨rfl, absent, none_behind⟩
    rw [fields_append second absent, fields_of_notMem none_behind]

/-- A string has two fields exactly if they stand around its only separator. -/
theorem stringFields_eq_pair_iff {separator : Char} {text first second : String} :
    stringFields separator text = [first, second] ↔
      text.toList = first.toList ++ separator :: second.toList ∧
        separator ∉ first.toList ∧ separator ∉ second.toList := by
  rw [← fields_eq_pair_iff, stringFields]
  constructor
  · intro parts
    have back := congrArg (List.map String.toList) parts
    simpa only [List.map_map, Function.comp_def, String.toList_ofList, List.map_id', List.map_cons,
      List.map_nil] using back
  · intro parts
    rw [parts, List.map_cons, List.map_singleton, String.ofList_toList, String.ofList_toList]

end SetupScript.Text
