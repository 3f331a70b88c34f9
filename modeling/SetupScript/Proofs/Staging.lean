import Mathlib.Data.List.DropRight
import SetupScript.Proofs.Handling

/-!
# Staging

Where a clone lands.  Its command changes to the staging root before it clones, while the name bound
to its path is read from the directory in which every command starts.  Both lead to one place below
the staging root, whatever the directory, exactly if the stem does not start with a slash and the
root is absolute or climbs as far as it descends (`Session.clone_lands_iff`).
-/

namespace SetupScript

/-! ## Numbers in names -/

namespace Text

theorem isDigit_of_mem_toString {number : Nat} {character : Char}
    (member : character ∈ (toString number).toList) : character.isDigit := by
  rw [Nat.toString_eq_ofList_toDigits, String.toList_ofList] at member
  exact Nat.isDigit_of_mem_toDigits (by decide) (by decide) member

theorem exists_isDigit_mem_toString (number : Nat) :
    ∃ character ∈ (toString number).toList, character.isDigit := by
  have nonempty : (toString number).toList ≠ [] := by
    rw [Nat.toString_eq_ofList_toDigits, String.toList_ofList]
    exact Nat.toDigits_ne_nil
  obtain ⟨character, member⟩ := List.exists_mem_of_ne_nil _ nonempty
  exact ⟨character, member, isDigit_of_mem_toString member⟩

/-- What does not hold the separator lengthens the last field. -/
theorem exists_fields_append {separator : Char} {more : List Char} (absent : separator ∉ more)
    (text : List Char) :
    ∃ front last, fields separator text = front ++ [last] ∧
      fields separator (text ++ more) = front ++ [last ++ more] := by
  induction text with
  | nil => exact ⟨[], [], rfl, fields_of_notMem absent⟩
  | cons character rest ih =>
    obtain ⟨front, last, short, long⟩ := ih
    rw [List.cons_append, fields, fields, short, long]
    split
    · exact ⟨[] :: front, last, rfl, rfl⟩
    · cases front with
      | nil => exact ⟨[], character :: last, rfl, rfl⟩
      | cons field others => exact ⟨(character :: field) :: others, last, rfl, rfl⟩

end Text

/-! ## Places -/

namespace Path

/-- An absolute path starts with a slash. -/
def Absolute (path : String) : Prop :=
  path.toList.head? = some '/'

instance (path : String) : Decidable (Absolute path) :=
  inferInstanceAs (Decidable (_ = _))

/-- The place one step further: two dots lead up, and a name leads down. -/
def enter (place : List String) (part : String) : List String :=
  if part = ".." then place.dropLast else place ++ [part]

/-- The place that the parts of a path lead to. -/
def descend (place parts : List String) : List String :=
  parts.foldl enter place

/-- The place that an absolute path names: the directories on the way to it. -/
def place (path : String) : List String :=
  descend [] (parts path)

theorem descend_append (start first second : List String) :
    descend start (first ++ second) = descend (descend start first) second :=
  List.foldl_append

/-- Names alone lead down. -/
theorem descend_eq_append {parts : List String} (named : ".." ∉ parts) (start : List String) :
    descend start parts = start ++ parts := by
  induction parts generalizing start with
  | nil => exact (List.append_nil start).symm
  | cons part rest ih =>
    rw [List.mem_cons, not_or] at named
    have down : enter start part = start ++ [part] := if_neg (Ne.symm named.1)
    show descend (enter start part) rest = _
    rw [ih named.2, down, List.append_assoc, List.singleton_append]

/-! ## Joined paths -/

/-- A slash comes between the parts in front of it and those behind it. -/
theorem parts_append_slash (first second : String) :
    parts (first ++ "/" ++ second) = parts first ++ parts second := by
  have cut : (first ++ "/" ++ second).toList = first.toList ++ '/' :: second.toList := by
    rw [String.toList_append, String.toList_append, List.append_assoc]
    rfl
  simp only [parts, Text.stringFields, cut, Text.fields_append_separator, List.map_append,
    List.filter_append]

/-- A last slash makes no difference. -/
theorem parts_append_lastSlash (front : String) : parts (front ++ "/") = parts front := by
  have nothing : parts "" = [] := by decide +kernel
  rw [← String.append_empty (s := front ++ "/"), parts_append_slash, nothing, List.append_nil]

theorem exists_eq_append_slash {path : String} (ends : path.toList.getLast? = some '/') :
    ∃ front, path = front ++ "/" := by
  obtain ⟨front, spelled⟩ := List.getLast?_eq_some_iff.1 ends
  refine ⟨String.ofList front, ?_⟩
  rw [← String.ofList_toList (s := path), spelled, String.ofList_append]

theorem join_of_absolute {path : String} (absolute : Absolute path) (base : String) :
    join base path = path :=
  if_pos absolute

theorem join_empty (path : String) : join "" path = path := by
  unfold join
  split
  · rfl
  · rw [if_pos (Or.inr rfl), String.empty_append]

/-- What is joined is the base, a slash that may be its last character, and the path. -/
theorem join_of_not_absolute (base : String) {path : String} (relative : ¬ Absolute path) :
    join base path = base ++ "/" ++ path ∨
      (base.toList.getLast? = some '/' ∨ base = "") ∧ join base path = base ++ path := by
  rw [join, if_neg (show ¬ path.toList.head? = some '/' from relative)]
  split
  · rename_i ends
    exact Or.inr ⟨ends, rfl⟩
  · exact Or.inl rfl

/-- The parts of a relative path come behind those of what it is joined to. -/
theorem parts_join {base path : String} (relative : ¬ Absolute path) :
    parts (join base path) = parts base ++ parts path := by
  rcases join_of_not_absolute base relative with joined | ⟨slash | rfl, joined⟩
  · rw [joined, parts_append_slash]
  · obtain ⟨front, rfl⟩ := exists_eq_append_slash slash
    rw [joined, parts_append_slash, parts_append_lastSlash]
  · rw [joined, String.empty_append]
    rfl

theorem place_join {base path : String} (relative : ¬ Absolute path) :
    place (join base path) = descend (place base) (parts path) := by
  rw [place, parts_join relative, descend_append, place]

/-- What is joined to a path is absolute exactly if that path is. -/
theorem absolute_join_iff {base path : String} (relative : ¬ Absolute path) (nonempty : base ≠ "") :
    Absolute (join base path) ↔ Absolute base := by
  have extended : ∀ more, Absolute (base ++ more) ↔ Absolute base := by
    intro more
    rw [Absolute, Absolute, String.toList_append, List.head?_append]
    cases written : base.toList with
    | nil => exact absurd (String.toList_eq_nil_iff.1 written) nonempty
    | cons first rest => rfl
  rcases join_of_not_absolute base relative with joined | ⟨_, joined⟩
  · rw [joined, String.append_assoc]
    exact extended _
  · rw [joined]
    exact extended path

/-- A relative path joined behind another leads on from where that one leads. -/
theorem place_join_join {root name : String} (relative : ¬ Absolute name) (nonempty : root ≠ "")
    (directory : String) :
    place (join directory (join root name)) =
      descend (place (join directory root)) (parts name) := by
  have rooted := absolute_join_iff relative nonempty
  by_cases absolute : Absolute root
  · rw [join_of_absolute (rooted.2 absolute), join_of_absolute absolute, place_join relative]
  · rw [place_join (mt rooted.1 absolute), place_join absolute, parts_join relative, descend_append]

/-- There are absolute paths to places of every depth. -/
theorem exists_length_place (depth : Nat) :
    ∃ directory, Absolute directory ∧ (place directory).length = depth := by
  induction depth with
  | zero => exact ⟨"/", by decide, by decide +kernel⟩
  | succ depth ih =>
    obtain ⟨directory, absolute, length⟩ := ih
    have relative : ¬ Absolute "a" := by decide
    have one : parts "a" = ["a"] := by decide +kernel
    have down : descend (place directory) ["a"] = place directory ++ ["a"] :=
      descend_eq_append (by decide) _
    have nonempty : directory ≠ "" := by
      rintro rfl
      cases absolute
    refine ⟨join directory "a", (absolute_join_iff relative nonempty).2 absolute, ?_⟩
    rw [place_join relative, one, down, List.length_append, List.length_singleton, length]

/-- A number behind a stem makes the last part longer, so that it leads down. -/
theorem exists_parts_append_number (stem : String) (number : Nat) :
    ∃ front last, parts (stem ++ toString number) = front ++ [last] ∧ last ≠ ".." ∧
      ∀ part ∈ front, part ∈ parts stem := by
  have absent : '/' ∉ (toString number).toList :=
    fun member => absurd (Text.isDigit_of_mem_toString member) (by decide)
  obtain ⟨digit, member, isDigit⟩ := Text.exists_isDigit_mem_toString number
  obtain ⟨front, last, short, long⟩ := Text.exists_fields_append absent stem.toList
  have apart : ∀ name : String, name.toList.all (fun character => !character.isDigit) = true →
      String.ofList (last ++ (toString number).toList) ≠ name := by
    rintro name clear rfl
    have digitless := List.all_eq_true.1 clear digit (by
      rw [String.toList_ofList]
      exact List.mem_append_right last member)
    rw [isDigit] at digitless
    cases digitless
  have matters : (String.ofList (last ++ (toString number).toList) != "" &&
      String.ofList (last ++ (toString number).toList) != ".") = true := by
    rw [Bool.and_eq_true, bne_iff_ne, bne_iff_ne]
    exact ⟨apart "" rfl, apart "." (by decide)⟩
  refine ⟨(front.map String.ofList).filter fun part => part != "" && part != ".",
    String.ofList (last ++ (toString number).toList), ?_, apart ".." (by decide), ?_⟩
  · rw [parts, Text.stringFields, String.toList_append, long, List.map_append, List.filter_append]
    congr 1
    rw [List.map_singleton, List.filter_singleton, matters]
    rfl
  · intro part member
    rw [parts, Text.stringFields, short, List.map_append, List.filter_append]
    exact List.mem_append_left _ member

end Path

/-! ## Courses -/

/-- Where the parts of a path lead: so many directories up, and then down along the names. -/
structure Course where
  climbs : Nat
  names : List String

namespace Course

/-- The course that goes one step further: what was entered last is left before one climbs. -/
def enter (course : Course) (part : String) : Course :=
  if part = ".." then
    match course.names with
    | [] => ⟨course.climbs + 1, []⟩
    | _ :: _ => ⟨course.climbs, course.names.dropLast⟩
  else ⟨course.climbs, course.names ++ [part]⟩

/-- The course of the parts of a path. -/
def ofParts (parts : List String) : Course :=
  parts.foldl enter ⟨0, []⟩

/-- Where a course leads from a place. -/
def lead (course : Course) (place : List String) : List String :=
  place.rdrop course.climbs ++ course.names

/-- A course that climbs as far as it descends. -/
def Level (course : Course) : Prop :=
  course.climbs = course.names.length

instance (course : Course) : Decidable course.Level :=
  inferInstanceAs (Decidable (_ = _))

theorem lead_enter (course : Course) (part : String) (place : List String) :
    (course.enter part).lead place = Path.enter (course.lead place) part := by
  unfold enter Path.enter
  split
  · split
    · rename_i nothing
      rw [lead, lead, nothing, List.append_nil, List.append_nil, ← List.rdrop_add,
        List.dropLast_eq_take]
      rfl
    · rename_i first more entered
      have nonempty : course.names ≠ [] := by
        rw [entered]
        exact List.cons_ne_nil first more
      exact (List.dropLast_append_of_ne_nil nonempty).symm
  · rw [lead, lead, List.append_assoc]

/-- The parts of a path lead where their course does, whatever the place one starts from. -/
theorem descend_eq_lead (parts place : List String) :
    Path.descend place parts = (ofParts parts).lead place := by
  induction parts using List.reverseRecOn with
  | nil =>
    show place = place.rdrop 0 ++ []
    rw [List.rdrop_zero, List.append_nil]
  | append_singleton front part ih =>
    have last : ofParts (front ++ [part]) = (ofParts front).enter part := by
      rw [ofParts, List.foldl_append]
      rfl
    rw [last, lead_enter, Path.descend_append, ih]
    rfl

theorem length_lead (course : Course) (place : List String) :
    (course.lead place).length = place.length - course.climbs + course.names.length := by
  rw [lead, List.length_append, List.rdrop, List.length_take]
  omega

/-- A level course leads nowhere else when it is followed once more. -/
theorem Level.lead_lead {course : Course} (level : course.Level) (place : List String) :
    course.lead (course.lead place) = course.lead place := by
  have back : (place.rdrop course.climbs ++ course.names).rdrop course.climbs =
      place.rdrop course.climbs := by
    rw [show course.climbs = course.names.length from level, List.rdrop_append_length]
  rw [lead, lead, back]

/-- Up once and down once. -/
example : (ofParts ["..", "x"]).Level := by
  decide

/-- A course that is followed once more leads elsewhere, unless it is level. -/
theorem level_of_lead_lead {course other : Course} {place : List String}
    (deep : 2 * course.climbs + other.climbs ≤ place.length)
    (same : other.lead (course.lead (course.lead place)) = other.lead (course.lead place)) :
    course.Level := by
  have lengths := congrArg List.length same
  simp only [length_lead] at lengths
  show course.climbs = course.names.length
  omega

end Course

/-! ## Staging paths -/

namespace Settings

/-- The name of a clone: the stem and the drawn number. -/
def stagingName (settings : Settings) (draw : Nat) : String :=
  settings.stagingStem ++ toString (draw % stagingRange)

/-- A path is written as the staging root, a slash, and the name of a clone; the slash may be the
last character of the root. -/
def Stages (settings : Settings) (draw : Nat) (path : String) : Prop :=
  path = settings.stagingRoot ++ "/" ++ settings.stagingName draw ∨
    settings.stagingRoot.toList.getLast? = some '/' ∧
      path = settings.stagingRoot ++ settings.stagingName draw

/-- From the staging root, below the directory in which the commands start, a path leads to the same
place as from that directory itself. -/
def Meets (settings : Settings) (directory path : String) : Prop :=
  Path.place (Path.join (Path.join directory settings.stagingRoot) path) =
    Path.place (Path.join directory path)

/-- Settings under which every clone lands below the staging root, where the bound name points. -/
structure Sound (settings : Settings) : Prop where
  stem_relative : ¬ Path.Absolute settings.stagingStem
  root_ne_empty : settings.stagingRoot ≠ ""
  root_level : Path.Absolute settings.stagingRoot ∨
    (Course.ofParts (Path.parts settings.stagingRoot)).Level

variable {settings : Settings}

/-- A name starts with a slash only if its stem does. -/
theorem absolute_stagingName_iff (draw : Nat) :
    Path.Absolute (settings.stagingName draw) ↔ Path.Absolute settings.stagingStem := by
  rw [Path.Absolute, Path.Absolute, stagingName, String.toList_append, List.head?_append]
  cases settings.stagingStem.toList.head? with
  | none =>
    refine iff_of_false (fun slash => ?_) nofun
    exact absurd (Text.isDigit_of_mem_toString (List.mem_of_head? slash)) (by decide)
  | some first => rfl

/-- A staging path is written as it should unless the root is empty or the stem starts with a
slash. -/
theorem stages_stagingPath_iff (draw : Nat) :
    settings.Stages draw (settings.stagingPath draw) ↔
      ¬ Path.Absolute settings.stagingStem ∧ settings.stagingRoot ≠ "" := by
  constructor
  · intro staged
    have longer : settings.stagingPath draw ≠ settings.stagingName draw := by
      intro same
      rw [same] at staged
      rcases staged with written | ⟨slash, written⟩
      · have counted := congrArg String.length written
        rw [String.length_append, String.length_append] at counted
        have one : "/".length = 1 := rfl
        omega
      · have counted := congrArg String.length written
        rw [String.length_append] at counted
        have nothing : settings.stagingRoot = "" := String.length_eq_zero_iff.1 (by omega)
        rw [nothing] at slash
        cases slash
    constructor
    · intro absolute
      exact longer (Path.join_of_absolute ((absolute_stagingName_iff draw).2 absolute) _)
    · intro empty
      refine longer ?_
      rw [stagingPath, empty]
      exact Path.join_empty (settings.stagingName draw)
  · rintro ⟨relative, nonempty⟩
    rw [← absolute_stagingName_iff draw] at relative
    rcases Path.join_of_not_absolute settings.stagingRoot relative with
      joined | ⟨slash | empty, joined⟩
    · exact Or.inl joined
    · exact Or.inr ⟨slash, joined⟩
    · exact absurd empty nonempty

/-- A clone and its name meet in every directory exactly if the root is absolute or level. -/
theorem meets_stagingPath_iff (relative : ¬ Path.Absolute settings.stagingStem)
    (nonempty : settings.stagingRoot ≠ "") (draw : Nat) :
    (∀ directory, Path.Absolute directory →
        settings.Meets directory (settings.stagingPath draw)) ↔
      Path.Absolute settings.stagingRoot ∨
        (Course.ofParts (Path.parts settings.stagingRoot)).Level := by
  rw [← absolute_stagingName_iff draw] at relative
  have walked : ∀ directory, settings.Meets directory (settings.stagingPath draw) ↔
      Path.descend (Path.place (Path.join (Path.join directory settings.stagingRoot)
          settings.stagingRoot)) (Path.parts (settings.stagingName draw)) =
        Path.descend (Path.place (Path.join directory settings.stagingRoot))
          (Path.parts (settings.stagingName draw)) := by
    intro directory
    have behind := Path.place_join_join relative nonempty
    rw [← behind directory, ← behind (Path.join directory settings.stagingRoot)]
    rfl
  by_cases absolute : Path.Absolute settings.stagingRoot
  · refine iff_of_true (fun directory _ => ?_) (Or.inl absolute)
    rw [walked, Path.join_of_absolute absolute, Path.join_of_absolute absolute]
  · rw [or_iff_right absolute]
    simp only [walked, Path.place_join absolute, Course.descend_eq_lead]
    constructor
    · intro meets
      obtain ⟨directory, starts, deep⟩ := Path.exists_length_place
        (2 * (Course.ofParts (Path.parts settings.stagingRoot)).climbs +
          (Course.ofParts (Path.parts (settings.stagingName draw))).climbs)
      exact Course.level_of_lead_lead deep.ge (meets directory starts)
    · intro level directory _
      rw [level.lead_lead]

/-- The bound path leads below the staging root, unless the stem climbs. -/
theorem Sound.exists_below (sound : settings.Sound) (draw : Nat)
    (named : ".." ∉ Path.parts settings.stagingStem) (directory : String) :
    ∃ below, below ≠ [] ∧ Path.place (Path.join directory (settings.stagingPath draw)) =
      Path.place (Path.join directory settings.stagingRoot) ++ below := by
  have relative := mt (absolute_stagingName_iff draw).1 sound.stem_relative
  obtain ⟨front, last, written, lastNamed, inStem⟩ :=
    Path.exists_parts_append_number settings.stagingStem (draw % stagingRange)
  have down : ".." ∉ front ++ [last] := by
    rw [List.mem_append, List.mem_singleton, not_or]
    exact ⟨fun member => named (inStem _ member), Ne.symm lastNamed⟩
  refine ⟨front ++ [last], List.append_ne_nil_of_right_ne_nil front (List.cons_ne_nil last []), ?_⟩
  rw [← Path.descend_eq_append down, ← written]
  exact Path.place_join_join relative sound.root_ne_empty directory

end Settings

/-! ## Clones -/

namespace Session

/-- A clone fetches what its argument stands for to a path, and a name is bound to that path if any
is bound. -/
structure Clones (session : Session) (argument path : String) (reached : Session) : Prop where
  emitted : ∃ fetched, Declaration.Fetched argument fetched ∧
    reached.commands = session.commands ++
      [Declaration.fetchCommand session.settings fetched path]
  bound : reached.bindings = session.bindings ∨
    ∃ name, reached.bindings = session.bindings.insert name path

theorem clones_of_clone {session reached : Session} {literal : Token}
    (step : (clone literal).run session = (.ok (), reached)) :
    session.Clones literal.text
      (session.settings.stagingPath (session.draws session.drawn)) reached := by
  obtain ⟨path, middle, drawn, rest⟩ := Procedure.run_bind_eq_ok_iff.1 step
  cases drawn
  obtain ⟨_, after, bound, emitted⟩ := Procedure.run_bind_eq_ok_iff.1 rest
  obtain ⟨fetched, location, command⟩ := cloneCommand_eq_fetchCommand session.settings literal.text
    (session.settings.stagingPath (session.draws session.drawn))
  rcases reads_of_bindClone bound with ⟨cursor, _, rfl, _⟩ | ⟨_, name, cursor, _, _, _, rfl⟩
  · cases emitted
    exact ⟨⟨fetched, location, by rw [← command]; rfl⟩, Or.inl rfl⟩
  · cases emitted
    exact ⟨⟨fetched, location, by rw [← command]; rfl⟩, Or.inr ⟨name.text, rfl⟩⟩

/-- A clone fetches to the path that its name is bound to.  That path is written as the staging root
and a name, and leads to the same place below the root and from where the commands start, whatever
the number and the directory, exactly under sound settings; then it leads below the root, unless the
stem climbs. -/
theorem clone_lands_iff (settings : Settings) :
    (∀ (session reached : Session) (literal : Token), session.settings = settings →
      (clone literal).run session = (.ok (), reached) →
        session.Clones literal.text
          (settings.stagingPath (session.draws session.drawn)) reached) ∧
    ((∀ draw directory, Path.Absolute directory →
        settings.Stages draw (settings.stagingPath draw) ∧
          settings.Meets directory (settings.stagingPath draw)) ↔ settings.Sound) ∧
    (settings.Sound → ".." ∉ Path.parts settings.stagingStem → ∀ draw directory,
      ∃ below, below ≠ [] ∧ Path.place (Path.join directory (settings.stagingPath draw)) =
        Path.place (Path.join directory settings.stagingRoot) ++ below) := by
  refine ⟨?_, ⟨?_, ?_⟩, ?_⟩
  · rintro session reached literal rfl step
    exact clones_of_clone step
  · intro lands
    have absolute : Path.Absolute "/" := by decide
    obtain ⟨relative, nonempty⟩ := (Settings.stages_stagingPath_iff 0).1 (lands 0 "/" absolute).1
    exact ⟨relative, nonempty, (Settings.meets_stagingPath_iff relative nonempty 0).1
      fun directory starts => (lands 0 directory starts).2⟩
  · intro sound draw directory starts
    exact ⟨(Settings.stages_stagingPath_iff draw).2 ⟨sound.stem_relative, sound.root_ne_empty⟩,
      (Settings.meets_stagingPath_iff sound.stem_relative sound.root_ne_empty draw).2
        sound.root_level directory starts⟩
  · intro sound named draw directory
    exact sound.exists_below draw named directory

/-- The default settings are sound; a clone under them, with an `as` at hand. -/
theorem clone_lands_iff_default :
    (∀ draw directory, Path.Absolute directory →
      Settings.Stages (.standard "/tmp") draw (Settings.stagingPath (.standard "/tmp") draw) ∧
        Settings.Meets (.standard "/tmp") directory
          (Settings.stagingPath (.standard "/tmp") draw)) ∧
    ∃ session reached : Session, session.settings = .standard "/tmp" ∧
      session.Clones "h/r" (Settings.stagingPath (.standard "/tmp") 7) reached ∧
      reached.bindings = Bindings.empty.insert "r" "/tmp/depscript-7" := by
  have sound : Settings.Sound (.standard "/tmp") := ⟨by decide, by decide, Or.inl (by decide)⟩
  obtain ⟨session, reached, same, draws, step, bound⟩ : ∃ session reached : Session,
      session.settings = .standard "/tmp" ∧ session.draws session.drawn = 7 ∧
      (clone ⟨.string, "h/r", ⟨1, 1⟩⟩).run session = (.ok (), reached) ∧
      reached.bindings = Bindings.empty.insert "r" "/tmp/depscript-7" := by
    refine ⟨(prime.run (start "f" (Scanner.ofString "as \"r\"") (.standard "/tmp") .empty "/w"
        fun _ => 7)).2,
      ((clone ⟨.string, "h/r", ⟨1, 1⟩⟩).run _).2, ?_, ?_, Prod.ext ?_ rfl, ?_⟩
    all_goals with_unfolding_all rfl
  have clones := (clone_lands_iff (.standard "/tmp")).1 session reached _ same step
  rw [draws] at clones
  exact ⟨(clone_lands_iff (.standard "/tmp")).2.1.2 sound, session, reached, same, clones, bound⟩

/-- A stem that starts with a slash leaves the root out, and a relative root is counted twice. -/
theorem clone_astray :
    (Script.compile "clone \"h/r\" as \"r\"" "f"
        ⟨{ stagingRoot := "/tmp", stagingStem := "/x" }, .empty, "/w", fun _ => 5⟩).1 =
      .ok ⟨"f", ["cd /tmp && git clone --depth=1 https://h/r /x5"],
        Bindings.empty.insert "r" "/x5"⟩ ∧
    ¬ Settings.Stages { stagingRoot := "/tmp", stagingStem := "/x" } 5 "/x5" ∧
    (Script.compile "clone \"h/r\" as \"r\"" "f"
        ⟨{ stagingRoot := "stage" }, .empty, "/w", fun _ => 5⟩).1 =
      .ok ⟨"f", ["cd stage && git clone --depth=1 https://h/r stage/depscript-5"],
        Bindings.empty.insert "r" "stage/depscript-5"⟩ ∧
    ¬ Settings.Meets { stagingRoot := "stage" } "/w" "stage/depscript-5" := by
  refine ⟨by with_unfolding_all rfl, ?_, by with_unfolding_all rfl, ?_⟩
  · rintro (written | ⟨slash, _⟩)
    · exact absurd written (by decide +kernel)
    · exact absurd slash (by decide +kernel)
  · intro same
    unfold Settings.Meets at same
    exact absurd same (by decide +kernel)

end Session

end SetupScript
