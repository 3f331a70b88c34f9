import SetupScript.Proofs.Staging

/-!
# Destinations

Where an extract moves a file.  A leading dot of its target is replaced by the working directory.
That leads to the target as seen from the working directory if the dot stands alone or in front of a
slash, and for no other dotted target, whatever the directory; and the place is one operand of the
command unless the working directory brings a space into it (`Session.extract_lands_iff`).
-/

namespace SetupScript

/-! ## Operands -/

namespace Text

/-- A text is its only field exactly if it does not hold the separator. -/
theorem stringFields_eq_singleton_iff {separator : Char} {text : String} :
    stringFields separator text = [text] ↔ separator ∉ text.toList := by
  constructor
  · intro alone
    have counted := length_fields separator text.toList
    have length := congrArg List.length alone
    rw [stringFields, List.length_map, List.length_singleton] at length
    exact List.count_eq_zero.1 (by omega)
  · intro absent
    rw [stringFields, fields_of_notMem absent, List.map_singleton, String.ofList_toList]

end Text

namespace Declaration

/-- A move has its source and its destination as operands exactly if there is no space in the
destination. -/
theorem operands_moveCommand_iff {source destination : String} (whole : ' ' ∉ source.toList) :
    Text.stringFields ' ' (moveCommand source destination) = ["mv", source, destination] ↔
      ' ' ∉ destination.toList := by
  have spelled : (moveCommand source destination).toList =
      "mv".toList ++ ' ' :: (source.toList ++ ' ' :: destination.toList) := by
    simp [moveCommand]
  have verb : ' ' ∉ "mv".toList := by decide
  have operands : Text.stringFields ' ' (moveCommand source destination) =
      "mv" :: source :: Text.stringFields ' ' destination := by
    rw [Text.stringFields, spelled, Text.fields_append _ verb, Text.fields_append _ whole,
      List.map_cons, List.map_cons, String.ofList_toList, String.ofList_toList]
    rfl
  rw [operands, ← Text.stringFields_eq_singleton_iff, List.cons.injEq, List.cons.injEq]
  exact ⟨fun same => same.2.2, fun alone => ⟨rfl, rfl, alone⟩⟩

/-- Only the working directory can bring a space into a destination. -/
theorem Placed.space_mem_iff {workingDirectory target place : String}
    (placed : Placed workingDirectory target place) (whole : ' ' ∉ target.toList) :
    ' ' ∉ place.toList ↔ target.toList.head? ≠ some '.' ∨ ' ' ∉ workingDirectory.toList := by
  cases placed with
  | dotted rest =>
    rw [String.toList_append, List.mem_append, not_or] at whole
    rw [String.toList_append, List.mem_append, not_or, and_iff_left whole.2]
    exact (or_iff_right fun undotted => undotted (by simp)).symm
  | plain undotted => exact iff_of_true whole (Or.inl undotted)

end Declaration

/-! ## Targets -/

namespace Path

/-- A path that begins in the directory it is seen from: a dot, alone or in front of a slash. -/
def Here (path : String) : Prop :=
  path = "." ∨ ∃ rest, path = "./" ++ rest

theorem Here.exists_eq {path : String} (here : Here path) : ∃ rest, path = "." ++ rest := by
  rcases here with rfl | ⟨rest, rfl⟩
  · exact ⟨"", rfl⟩
  · exact ⟨"/" ++ rest, by simp [← String.toList_inj]⟩

/-- What stands behind the dot is nothing or starts with a slash. -/
theorem here_dot_append_iff {rest : String} :
    Here ("." ++ rest) ↔ rest = "" ∨ ∃ behind, rest = "/" ++ behind := by
  have slash : ∀ behind, "." ++ ("/" ++ behind) = "./" ++ behind := by
    simp [← String.toList_inj]
  constructor
  · rintro (alone | ⟨behind, whole⟩)
    · exact Or.inl (String.append_right_inj "." |>.1 alone)
    · exact Or.inr ⟨behind, String.append_right_inj "." |>.1 (whole.trans (slash behind).symm)⟩
  · rintro (rfl | ⟨behind, rfl⟩)
    · exact Or.inl rfl
    · exact Or.inr ⟨behind, slash behind⟩

/-- The path of a place, without anything superfluous. -/
def normal (path : String) : String :=
  root path.toList ++ String.intercalate "/" (place path)

theorem parts_dot : parts "." = [] := by
  decide +kernel

/-- The dot in front of such a path has no parts of its own. -/
theorem parts_append_of_here {rest : String} (here : Here ("." ++ rest)) (directory : String) :
    parts (directory ++ rest) = parts (directory ++ "/" ++ ("." ++ rest)) := by
  rcases here_dot_append_iff.1 here with rfl | ⟨behind, rfl⟩
  · rw [String.append_empty, String.append_empty, parts_append_slash, parts_dot, List.append_nil]
  · have left : directory ++ ("/" ++ behind) = directory ++ "/" ++ behind :=
      String.append_assoc.symm
    have right : directory ++ "/" ++ ("." ++ ("/" ++ behind)) =
        directory ++ "/" ++ "." ++ "/" ++ behind := by
      simp only [String.append_assoc]
    rw [left, right, parts_append_slash, parts_append_slash, parts_append_slash, parts_dot,
      List.append_nil]

/-- What a character in front of a relative path lengthens is its first part. -/
theorem exists_parts_cons {rest : String} (nonempty : rest ≠ "") (relative : ¬ Absolute rest) :
    ∃ (field : List Char) (others : List String), ∀ first : Char, first ≠ '/' →
      parts (String.ofList [first] ++ rest) = String.ofList (first :: field) :: others := by
  cases spelled : rest.toList with
  | nil => exact absurd (String.toList_inj.1 spelled) nonempty
  | cons next more =>
    have notSlash : next ≠ '/' := by
      rintro rfl
      rw [Absolute, spelled] at relative
      exact relative rfl
    cases cut : Text.fields '/' more with
    | nil => exact absurd cut (Text.fields_ne_nil '/' more)
    | cons field fields =>
      refine ⟨next :: field, (fields.map String.ofList).filter fun part =>
        part != "" && part != ".", fun first firstNotSlash => ?_⟩
      have matters : (String.ofList (first :: next :: field) != "" &&
          String.ofList (first :: next :: field) != ".") = true := by
        simp [← String.toList_inj]
      rw [parts, Text.stringFields, String.toList_append, String.toList_ofList, spelled,
        List.singleton_append, Text.fields, if_neg firstNotSlash, Text.fields, if_neg notSlash, cut]
      exact List.filter_cons_of_pos matters

/-- Another dotted path leads elsewhere when its dot is replaced by a directory, for some
directory. -/
theorem exists_place_ne {rest : String} (notHere : ¬ Here ("." ++ rest)) :
    ∃ directory, Absolute directory ∧
      place (directory ++ rest) ≠ place (directory ++ "/" ++ ("." ++ rest)) := by
  have nonempty : rest ≠ "" := fun nothing => notHere (here_dot_append_iff.2 (Or.inl nothing))
  have relative : ¬ Absolute rest := by
    intro absolute
    obtain ⟨behind, spelled⟩ := List.head?_eq_some_iff.1 absolute
    refine notHere (here_dot_append_iff.2 (Or.inr ⟨String.ofList behind, ?_⟩))
    simp [← String.toList_inj, spelled]
  obtain ⟨field, others, cut⟩ := exists_parts_cons nonempty relative
  obtain ⟨base, absolute, deep⟩ := exists_length_place (Course.ofParts others).climbs
  have name : parts "a" = ["a"] := by decide +kernel
  refine ⟨base ++ "/" ++ "a", ?_, fun same => ?_⟩
  · rw [Absolute, String.append_assoc, String.toList_append, List.head?_append_of_ne_nil]
    · exact absolute
    · intro nothing
      rw [Absolute, nothing] at absolute
      cases absolute
  · have joined : base ++ "/" ++ "a" ++ rest = base ++ "/" ++ (String.ofList ['a'] ++ rest) :=
      String.append_assoc
    have apart : base ++ "/" ++ "a" ++ "/" ++ ("." ++ rest) =
        base ++ "/" ++ "a" ++ "/" ++ (String.ofList ['.'] ++ rest) := rfl
    have lower : String.ofList ('a' :: field) ≠ ".." := by
      simp [← String.toList_inj]
    rw [joined, apart, place, place, parts_append_slash, parts_append_slash, parts_append_slash,
      cut 'a' (by decide), cut '.' (by decide), name, descend_append, descend_append,
      descend_append] at same
    have counted : (descend (enter (place base) (String.ofList ('a' :: field))) others).length =
        (descend (enter (enter (place base) "a") (String.ofList ('.' :: field))) others).length :=
      congrArg List.length same
    have inside : enter (place base) "a" = place base ++ ["a"] := if_neg (by decide)
    rw [Course.descend_eq_lead, Course.descend_eq_lead, Course.length_lead, Course.length_lead,
      inside, enter, if_neg lower, enter] at counted
    split at counted
    · simp only [List.dropLast_concat, List.length_append, List.length_singleton] at counted
      omega
    · simp only [List.length_append, List.length_singleton] at counted
      omega

/-- A directory of nothing but slashes, with a target whose dot keeps a slash from the others: the
root changes when the dot goes. -/
def Slashed (directory target : String) : Prop :=
  directory = "/" ∧ (target = "." ∨ ∃ rest, target = ".//" ++ rest) ∨ directory = "//" ∧ target = "."

theorem slashed_iff {directory rest : String} :
    Slashed directory ("." ++ rest) ↔
      directory.toList = ['/'] ∧ (rest.toList = [] ∨ ∃ more, rest.toList = '/' :: '/' :: more) ∨
        directory.toList = ['/', '/'] ∧ rest.toList = [] := by
  have alone : "." ++ rest = "." ↔ rest.toList = [] := by
    rw [← String.toList_inj, String.toList_append]
    exact List.append_right_eq_self
  have slashes : (∃ more, "." ++ rest = ".//" ++ more) ↔
      ∃ more, rest.toList = '/' :: '/' :: more := by
    constructor
    · rintro ⟨more, whole⟩
      exact ⟨more.toList, by simpa [← String.toList_inj] using whole⟩
    · rintro ⟨more, spelled⟩
      exact ⟨String.ofList more, by simp [← String.toList_inj, spelled]⟩
  have one : directory = "/" ↔ directory.toList = ['/'] := String.toList_inj.symm
  have two : directory = "//" ↔ directory.toList = ['/', '/'] := String.toList_inj.symm
  rw [Slashed, alone, slashes, one, two]

/-- Only the first three characters of a path count for its root. -/
theorem root_append_eq_iff {directory rest : List Char} (starts : directory.head? = some '/')
    (slash : rest = [] ∨ rest.head? = some '/') :
    root (directory ++ rest) = root (directory ++ '/' :: '.' :: rest) ↔
      ¬ (directory = ['/'] ∧ (rest = [] ∨ ∃ more, rest = '/' :: '/' :: more) ∨
        directory = ['/', '/'] ∧ rest = []) := by
  obtain ⟨tail, rfl⟩ := List.head?_eq_some_iff.1 starts
  match tail, rest with
  | [], [] => simp [root]
  | [], [next] =>
    obtain rfl : next = '/' := by simpa using slash
    simp [root]
  | [], next :: following :: more =>
    obtain rfl : next = '/' := by simpa using slash
    by_cases same : following = '/' <;> simp [root, same]
  | [second], [] =>
    by_cases same : second = '/' <;> simp [root, same]
  | [second], next :: more =>
    obtain rfl : next = '/' := by simpa using slash
    by_cases same : second = '/' <;> simp [root, same]
  | second :: third :: more, rest =>
    by_cases same : second = '/'
    · by_cases again : third = '/' <;> simp [root, same, again]
    · simp [root, same]

/-- Paths of the same parts have the same normal path if they have the same root. -/
theorem normal_eq_iff {path other : String} (same : parts path = parts other) :
    normal path = normal other ↔ root path.toList = root other.toList := by
  rw [normal, normal, place, place, same, String.append_left_inj]

/-- Where the dot of such a path is replaced by an absolute directory, the normal path is that of
the path seen from there, but for the number of slashes in front. -/
theorem normal_append_eq_iff {directory rest : String} (absolute : Absolute directory)
    (here : Here ("." ++ rest)) :
    normal (directory ++ rest) = normal (directory ++ "/" ++ ("." ++ rest)) ↔
      ¬ Slashed directory ("." ++ rest) := by
  have slash : rest.toList = [] ∨ rest.toList.head? = some '/' := by
    rcases here_dot_append_iff.1 here with rfl | ⟨behind, rfl⟩
    · exact Or.inl rfl
    · exact Or.inr (by simp)
  have spelled : (directory ++ "/" ++ ("." ++ rest)).toList =
      directory.toList ++ '/' :: '.' :: rest.toList := by
    simp
  rw [normal_eq_iff (parts_append_of_here here directory), String.toList_append, spelled,
    root_append_eq_iff absolute slash, slashed_iff]

end Path

/-! ## Extracts -/

namespace Session

/-- An argument of two parts is extracted: its second part is placed. -/
theorem exists_run_extract {session : Session} {literal : Token} {source target : String}
    (parts : Declaration.Parts ' ' (Reference.resolve session.bindings literal.text) source
      target) :
    ∃ reached, (extract literal).run session = (.ok (), reached) ∧
      reached.commands = session.commands ++ [Declaration.moveCommand source
        (Declaration.destination session.workingDirectory target)] ∧
      reached.bindings = session.bindings := by
  obtain ⟨cursor, cut⟩ := exists_run_twoParts_of_parts .spaced parts
  exact ⟨_, Procedure.run_bind_of_ok cut, rfl, rfl⟩

/-- An extract of two parts moves the first to where the second is placed: there if it has no leading
dot, and else where the working directory stands for the dot.  The command has these two operands
unless the working directory brings a space into the second.  If the dot stands alone or in front of
a slash, the place is reached through the same directories as the target from the working directory,
and has the same normal path but for slashes in front; any other dotted target leads elsewhere from
some directory. -/
theorem extract_lands_iff {session : Session} {literal : Token} {source target : String}
    (parts : Declaration.Parts ' ' (Reference.resolve session.bindings literal.text) source
      target) :
    ∃ place reached, (extract literal).run session = (.ok (), reached) ∧
      reached.commands = session.commands ++ ["mv " ++ source ++ " " ++ place] ∧
      reached.bindings = session.bindings ∧
      Declaration.Placed session.workingDirectory target place ∧
      (Text.stringFields ' ' ("mv " ++ source ++ " " ++ place) = ["mv", source, place] ↔
        target.toList.head? ≠ some '.' ∨ ' ' ∉ session.workingDirectory.toList) ∧
      (Path.Here target →
        Path.parts place = Path.parts (session.workingDirectory ++ "/" ++ target) ∧
        (Path.Absolute session.workingDirectory →
          (Path.normal place = Path.normal (session.workingDirectory ++ "/" ++ target) ↔
            ¬ Path.Slashed session.workingDirectory target))) ∧
      (target.toList.head? = some '.' → ¬ Path.Here target → ∃ directory,
        Path.Absolute directory ∧ Path.place (Declaration.destination directory target) ≠
          Path.place (directory ++ "/" ++ target)) := by
  obtain ⟨reached, returned, commands, bindings⟩ := exists_run_extract parts
  have placed := Declaration.placed_destination session.workingDirectory target
  refine ⟨_, reached, returned, commands, bindings, placed, ?_, fun here => ?_,
    fun dotted notHere => ?_⟩
  · exact (Declaration.operands_moveCommand_iff parts.2.1).trans (placed.space_mem_iff parts.2.2)
  · obtain ⟨rest, rfl⟩ := here.exists_eq
    rw [← (Declaration.Placed.dotted rest).eq_destination]
    exact ⟨Path.parts_append_of_here here _, fun absolute =>
      Path.normal_append_eq_iff absolute here⟩
  · obtain ⟨rest, rfl⟩ : ∃ rest, target = "." ++ rest := by
      obtain ⟨rest, spelled⟩ := List.head?_eq_some_iff.1 dotted
      exact ⟨String.ofList rest, by simp [← String.toList_inj, spelled]⟩
    obtain ⟨directory, absolute, different⟩ := Path.exists_place_ne notHere
    rw [(Declaration.Placed.dotted rest).eq_destination] at different
    exact ⟨directory, absolute, different⟩

theorem extract_lands_iff_slash :
    ∃ reached, (extract ⟨.string, "a ./x", ⟨1, 9⟩⟩).run
        (start "f" (Scanner.ofString "") (.standard "/tmp") .empty "/w" fun _ => 0) =
          (.ok (), reached) ∧
      reached.commands = ["mv a /w/x"] ∧
      Text.stringFields ' ' "mv a /w/x" = ["mv", "a", "/w/x"] ∧
      Path.normal "/w/x" = Path.normal "/w/./x" := by
  have parts : Declaration.Parts ' ' (Reference.resolve Bindings.empty "a ./x") "a" "./x" := by
    with_unfolding_all exact ⟨rfl, by decide, by decide⟩
  obtain ⟨place, reached, returned, commands, _, placed, operands, seen, _⟩ :=
    @extract_lands_iff (start "f" (Scanner.ofString "") (.standard "/tmp") .empty "/w" fun _ => 0)
      ⟨.string, "a ./x", ⟨1, 9⟩⟩ "a" "./x" parts
  obtain rfl : place = "/w/x" := placed.eq_destination
  refine ⟨reached, returned, commands, operands.2 (Or.inr (by decide)), ?_⟩
  refine ((seen (Or.inr ⟨"x", rfl⟩)).2 (by decide)).2 ?_
  rintro (⟨one, _⟩ | ⟨two, _⟩)
  · exact absurd one (by decide)
  · exact absurd two (by decide)

/-- Two dots are not read as the directory above, and a space in the working directory makes three
operands. -/
theorem extract_astray :
    (Script.compile "extract \"a ../x\"" "f" ⟨.standard "/tmp", .empty, "/w", fun _ => 0⟩).1 =
      .ok ⟨"f", ["mv a /w./x"], .empty⟩ ∧
    Path.normal "/w./x" ≠ Path.normal ("/w" ++ "/" ++ "../x") ∧
    (Script.compile "extract \"a ./x\"" "f" ⟨.standard "/tmp", .empty, "/my dir", fun _ => 0⟩).1 =
      .ok ⟨"f", ["mv a /my dir/x"], .empty⟩ ∧
    Text.stringFields ' ' "mv a /my dir/x" = ["mv", "a", "/my", "dir/x"] := by
  exact ⟨by with_unfolding_all rfl, by decide +kernel, by with_unfolding_all rfl,
    by decide +kernel⟩

end Session

end SetupScript
