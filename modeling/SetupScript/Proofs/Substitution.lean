import Mathlib.Data.List.Basic
import Mathlib.Data.List.TakeWhile
import SetupScript.Reference
import SetupScript.Text.Fields

/-!
# Substitution

Substitution takes a text apart at its references, whatever stands around them: an unfinished
reference never swallows one behind it (`pieces_append_reference`), so the parts of a text can be
resolved one by one.
-/

namespace SetupScript.Reference

/-! ## Names -/

theorem isNameCharacter_iff {character : Char} :
    isNameCharacter character = true ↔ character ≠ '[' ∧ character ≠ ']' := by
  rw [isNameCharacter, Bool.and_eq_true, bne_iff_ne, bne_iff_ne]

/-- A text that may stand as a name in a reference. -/
def IsName (name : List Char) : Prop :=
  '[' ∉ name ∧ ']' ∉ name

theorem isName_iff {name : List Char} :
    IsName name ↔ ∀ character ∈ name, isNameCharacter character = true := by
  constructor
  · intro isName character member
    refine isNameCharacter_iff.2 ⟨?_, ?_⟩
    · rintro rfl
      exact isName.1 member
    · rintro rfl
      exact isName.2 member
  · intro inside
    exact ⟨fun member => (isNameCharacter_iff.1 (inside _ member)).1 rfl,
      fun member => (isNameCharacter_iff.1 (inside _ member)).2 rfl⟩

/-- Behind an opening, a name is read exactly if it stands in front of a closing bracket. -/
theorem readName?_eq_some_iff {text name rest : List Char} :
    readName? text = some (name, rest) ↔ text = name ++ ']' :: rest ∧ IsName name := by
  constructor
  · intro read
    unfold readName? at read
    split at read
    · rename_i tail closed
      cases read
      have whole := List.takeWhile_append_dropWhile (p := isNameCharacter) (l := text)
      rw [closed] at whole
      exact ⟨whole.symm, isName_iff.2 fun _ member => List.mem_takeWhile_imp member⟩
    · cases read
  · rintro ⟨rfl, isName⟩
    have inside := isName_iff.1 isName
    have closed : (name ++ ']' :: rest).dropWhile isNameCharacter = ']' :: rest := by
      rw [List.dropWhile_append_of_pos inside]
      rfl
    have before : (name ++ ']' :: rest).takeWhile isNameCharacter = name := by
      rw [List.takeWhile_append_of_pos inside]
      exact List.append_nil name
    simp only [readName?, closed, before]

/-- A name that is read stays the same when the text goes on. -/
theorem readName?_append {text name rest : List Char} (read : readName? text = some (name, rest))
    (more : List Char) : readName? (text ++ more) = some (name, rest ++ more) := by
  obtain ⟨rfl, isName⟩ := readName?_eq_some_iff.1 read
  rw [readName?_eq_some_iff, List.append_assoc]
  exact ⟨rfl, isName⟩

/-- An unfinished reference is not finished by another one behind it. -/
theorem readName?_append_opening {text : List Char} (unread : readName? text = none)
    (more : List Char) : readName? (text ++ '$' :: '[' :: more) = none := by
  rw [Option.eq_none_iff_forall_ne_some]
  rintro ⟨name, rest⟩ read
  obtain ⟨whole, isName⟩ := readName?_eq_some_iff.1 read
  rcases List.append_eq_append_iff.1 whole with ⟨middle, rfl, behind⟩ | ⟨middle, rfl, behind⟩
  · cases middle with
    | nil => cases behind
    | cons first middle =>
      obtain ⟨_, behind⟩ := List.cons.inj behind
      cases middle with
      | nil => cases behind
      | cons second middle =>
        obtain ⟨rfl, _⟩ := List.cons.inj behind
        exact isName.1 (by simp)
  · cases middle with
    | nil => cases behind
    | cons first middle =>
      obtain ⟨rfl, _⟩ := List.cons.inj behind
      rw [readName?_eq_some_iff.2 ⟨rfl, isName⟩] at unread
      cases unread

/-! ## Pieces -/

theorem pieces_reference {text name rest : List Char} (read : readName? text = some (name, rest)) :
    pieces ('$' :: '[' :: text) = .reference name :: pieces rest := by
  rw [pieces.eq_2]
  split
  · rename_i found _ again
    rw [read] at again
    cases again
    rfl
  · rename_i unread
    rw [read] at unread
    cases unread

theorem pieces_unfinished {text : List Char} (unread : readName? text = none) :
    pieces ('$' :: '[' :: text) = .plain '$' :: .plain '[' :: pieces text := by
  rw [pieces.eq_2]
  split
  · rename_i read
    rw [unread] at read
    cases read
  · rfl

/-- The pieces in front of a reference are the same without it, and so are those behind it. -/
theorem pieces_append_reference (before after : List Char) {name : List Char}
    (isName : IsName name) :
    pieces (before ++ '$' :: '[' :: (name ++ ']' :: after)) =
      pieces before ++ .reference name :: pieces after := by
  fun_induction pieces before with
  | case1 => exact pieces_reference (readName?_eq_some_iff.2 ⟨rfl, isName⟩)
  | case2 rest found tail read ih =>
    rw [List.cons_append, List.cons_append, pieces_reference (readName?_append read _), ih]
    rfl
  | case3 rest unread ih =>
    rw [List.cons_append, List.cons_append, pieces_unfinished (readName?_append_opening unread _),
      ih]
    rfl
  | case4 character rest notOpening ih =>
    have stillNot : ∀ text, character = '$' →
        rest ++ '$' :: '[' :: (name ++ ']' :: after) = '[' :: text → False := by
      intro text dollar bracket
      cases rest with
      | nil => cases bracket
      | cons next rest =>
        obtain ⟨rfl, _⟩ := List.cons.inj bracket
        exact notOpening rest dollar rfl
    rw [List.cons_append, pieces.eq_3 character _ stillNot, ih]
    rfl

theorem hasOpening_cons {text : List Char} (opening : hasOpening text = true) (character : Char) :
    hasOpening (character :: text) = true := by
  unfold hasOpening
  split
  · rename_i none
    cases none
  · rfl
  · rename_i whole
    cases whole
    exact opening

/-- A text without openings has plain pieces only, up to a separator that belongs to no opening. -/
theorem pieces_append_separator {before : List Char} (closed : hasOpening before = false)
    {separator : Char} (ordinary : separator ≠ '$' ∧ separator ≠ '[') (after : List Char) :
    pieces (before ++ separator :: after) =
      before.map Piece.plain ++ .plain separator :: pieces after := by
  induction before with
  | nil => exact pieces.eq_3 separator after fun _ dollar _ => ordinary.1 dollar
  | cons character rest ih =>
    have restClosed : hasOpening rest = false := by
      rw [← Bool.not_eq_true] at closed ⊢
      exact fun opening => closed (hasOpening_cons opening character)
    have notOpening : ∀ text, character = '$' → rest ++ separator :: after = '[' :: text →
        False := by
      rintro text rfl bracket
      cases rest with
      | nil => exact ordinary.2 (List.cons.inj bracket).1
      | cons next rest =>
        obtain ⟨rfl, _⟩ := List.cons.inj bracket
        cases closed
    rw [List.cons_append, pieces.eq_3 character _ notOpening, ih restClosed]
    rfl

/-- A reference among the pieces occurs in the text. -/
theorem exists_of_mem_pieces {text name : List Char} (member : .reference name ∈ pieces text) :
    IsName name ∧ ∃ before after, text = before ++ '$' :: '[' :: (name ++ ']' :: after) := by
  fun_induction pieces text with
  | case1 => cases member
  | case2 rest found tail read ih =>
    obtain ⟨rfl, isName⟩ := readName?_eq_some_iff.1 read
    rcases List.mem_cons.1 member with same | later
    · cases same
      exact ⟨isName, [], tail, rfl⟩
    · obtain ⟨named, before, after, rfl⟩ := ih later
      exact ⟨named, '$' :: '[' :: (found ++ ']' :: before), after, by simp⟩
  | case3 rest unread ih =>
    obtain ⟨named, before, after, rfl⟩ := ih (by simpa using member)
    exact ⟨named, '$' :: '[' :: before, after, rfl⟩
  | case4 character rest notOpening ih =>
    obtain ⟨named, before, after, rfl⟩ := ih (by simpa using member)
    exact ⟨named, character :: before, after, rfl⟩

/-! ## Texts -/

/-- A text without references is left as it is. -/
theorem substitute_eq_self {bindings : Bindings} {text : List Char}
    (without : ∀ name, .reference name ∉ pieces text) : substitute bindings text = text := by
  have same : ∀ piece ∈ pieces text, piece.value bindings = piece.source := by
    intro piece member
    cases piece with
    | plain character => rfl
    | reference name => exact absurd member (without name)
  rw [substitute, List.flatMap_congr same, flatMap_source_pieces]

/-- Substitution goes on behind a reference as if nothing stood in front. -/
theorem substitute_append_reference (bindings : Bindings) (before after : List Char)
    {name : List Char} (isName : IsName name) :
    substitute bindings (before ++ '$' :: '[' :: (name ++ ']' :: after)) =
      substitute bindings before ++
        (Piece.value bindings (.reference name) ++ substitute bindings after) := by
  rw [substitute, pieces_append_reference before after isName, List.flatMap_append,
    List.flatMap_cons]
  rfl

theorem hasOpening_append (before after : List Char) :
    hasOpening (before ++ '$' :: '[' :: after) = true := by
  induction before with
  | nil => rfl
  | cons character rest ih => exact hasOpening_cons ih character

/-- What is answered at once is what the whole substitution answers. -/
theorem resolve_eq_substitute (bindings : Bindings) (text : String) :
    resolve bindings text = String.ofList (substitute bindings text.toList) := by
  unfold resolve
  split
  · rfl
  · rename_i closed
    have without : ∀ name, .reference name ∉ pieces text.toList := by
      intro name member
      obtain ⟨_, before, after, whole⟩ := exists_of_mem_pieces member
      rw [whole, hasOpening_append] at closed
      exact closed rfl
    rw [substitute_eq_self without, String.ofList_toList]

/-- What stands in front of the first separator of a text, if it holds no opening, stands in front of
the first separator of the resolved text. -/
theorem takeWhile_resolve {bindings : Bindings} {separator : Char}
    (ordinary : separator ≠ '$' ∧ separator ≠ '[') {text : String}
    (closed : hasOpening (text.toList.takeWhile (· != separator)) = false) :
    (resolve bindings text).toList.takeWhile (· != separator) =
      text.toList.takeWhile (· != separator) := by
  by_cases present : separator ∈ text.toList
  · obtain ⟨before, after, whole, absent⟩ := List.eq_append_cons_of_mem present
    have first := Text.takeWhile_append_separator absent
    rw [whole, first] at closed
    have values : (before.map Piece.plain).flatMap (Piece.value bindings) = before := by
      rw [List.flatMap_map]
      exact List.flatMap_singleton' before
    rw [resolve_eq_substitute, String.toList_ofList, substitute, whole,
      pieces_append_separator closed ordinary, List.flatMap_append, values, List.flatMap_cons]
    exact (first _).trans (first after).symm
  · have whole : text.toList.takeWhile (· != separator) = text.toList :=
      List.takeWhile_eq_self_iff.2 fun character member => bne_iff_ne.2 fun same =>
        present (show separator ∈ text.toList from same ▸ member)
    rw [whole] at closed ⊢
    rw [resolve, if_neg (Bool.eq_false_iff.1 closed), whole]

theorem toList_around (before name after : String) :
    (before ++ "$[" ++ name ++ "]" ++ after).toList =
      before.toList ++ '$' :: '[' :: (name.toList ++ ']' :: after.toList) := by
  simp

/-- A reference stands for the value of its name, and for itself if the name is not bound. -/
theorem ofList_value_reference (bindings : Bindings) (name : String) :
    String.ofList (Piece.value bindings (.reference name.toList)) =
      (bindings.get? name).getD ("$[" ++ name ++ "]") := by
  rw [Piece.value, String.ofList_toList]
  cases bindings.get? name with
  | some value => exact String.ofList_toList
  | none => simp [Piece.source, ← String.toList_inj]

/-- What stands around a reference is resolved on its own. -/
theorem resolve_append_reference (bindings : Bindings) (before after : String) {name : String}
    (isName : IsName name.toList) :
    resolve bindings (before ++ "$[" ++ name ++ "]" ++ after) =
      resolve bindings before ++ (bindings.get? name).getD ("$[" ++ name ++ "]") ++
        resolve bindings after := by
  rw [resolve_eq_substitute, toList_around, substitute_append_reference _ _ _ isName,
    String.ofList_append, String.ofList_append, ofList_value_reference, ← resolve_eq_substitute,
    ← resolve_eq_substitute]
  exact String.append_assoc.symm

theorem resolve_reference (bindings : Bindings) {name : String} (isName : IsName name.toList) :
    resolve bindings ("$[" ++ name ++ "]") =
      (bindings.get? name).getD ("$[" ++ name ++ "]") := by
  have around := resolve_append_reference bindings "" "" isName
  rwa [show resolve bindings "" = "" from rfl, String.empty_append, String.empty_append,
    String.append_empty, String.append_empty] at around

/-- No text refers to a name with a bracket, so that it does not matter what it is bound to. -/
theorem resolve_insert_of_not_isName (bindings : Bindings) {name : String}
    (bracketed : ¬ IsName name.toList) (value text : String) :
    resolve (bindings.insert name value) text = resolve bindings text := by
  have same : ∀ piece ∈ pieces text.toList,
      piece.value (bindings.insert name value) = piece.value bindings := by
    intro piece member
    cases piece with
    | plain character => rfl
    | reference found =>
      have other : String.ofList found ≠ name := by
        rintro rfl
        rw [String.toList_ofList] at bracketed
        exact bracketed (exists_of_mem_pieces member).1
      rw [Piece.value, Piece.value, Bindings.get?_insert, if_neg other]
  rw [resolve_eq_substitute, resolve_eq_substitute, substitute, substitute, List.flatMap_congr same]

/-- A text is resolved by resolving what stands around a reference and putting the value of its name
between, or the reference itself if the name is not bound; a text without references is left as it
is; and what is answered at once is what the whole substitution answers. -/
theorem resolve_around_references (bindings : Bindings) :
    (∀ before name after : String, IsName name.toList →
      resolve bindings (before ++ "$[" ++ name ++ "]" ++ after) =
        resolve bindings before ++ (bindings.get? name).getD ("$[" ++ name ++ "]") ++
          resolve bindings after) ∧
    (∀ text : String,
      (∀ before name after : String, IsName name.toList →
        text ≠ before ++ "$[" ++ name ++ "]" ++ after) → resolve bindings text = text) ∧
    ∀ text : String, resolve bindings text = String.ofList (substitute bindings text.toList) := by
  refine ⟨fun before name after isName => ?_, fun text without => ?_,
    resolve_eq_substitute bindings⟩
  · exact resolve_append_reference bindings before after isName
  · rw [resolve_eq_substitute, substitute_eq_self, String.ofList_toList]
    intro name member
    obtain ⟨isName, before, after, whole⟩ := exists_of_mem_pieces member
    refine without (String.ofList before) (String.ofList name) (String.ofList after) ?_ ?_
    · rwa [String.toList_ofList]
    · rw [← String.toList_inj, toList_around, String.toList_ofList, String.toList_ofList,
        String.toList_ofList, whole]

/-- Between an unfinished reference and a bound one, a reference is replaced by a value that looks
like a reference and stays as it is. -/
theorem resolve_around_references_unfinished :
    IsName "b".toList ∧
      resolve ((Bindings.empty.insert "b" "$[c]").insert "c" "1")
          ("$[a" ++ "$[" ++ "b" ++ "]" ++ "$[c]") = "$[a$[c]1" ∧
      resolve ((Bindings.empty.insert "b" "$[c]").insert "c" "1")
          ("$[a" ++ "$[" ++ "b" ++ "]" ++ "$[c]") =
        resolve ((Bindings.empty.insert "b" "$[c]").insert "c" "1") "$[a" ++
          (((Bindings.empty.insert "b" "$[c]").insert "c" "1").get? "b").getD
            ("$[" ++ "b" ++ "]") ++
          resolve ((Bindings.empty.insert "b" "$[c]").insert "c" "1") "$[c]" := by
  have isName : IsName "b".toList := ⟨by decide, by decide⟩
  refine ⟨isName, ?_, (resolve_around_references _).1 "$[a" "b" "$[c]" isName⟩
  with_unfolding_all rfl

end SetupScript.Reference
