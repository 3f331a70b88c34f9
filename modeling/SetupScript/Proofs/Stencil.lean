import Mathlib.Data.List.Chain
import SetupScript.Proofs.Abreast
import SetupScript.Proofs.Overriding
import SetupScript.Proofs.Staging
import SetupScript.Proofs.Substitution

/-!
# Stencils

How a plan depends on the staging numbers.  A stencil is a text with holes for them.  What a
compilation does with texts, substitution, cutting at a space or an equals sign, the leading dot of
a destination, commutes with filling the holes, since no digit decides any of it; so the commands
and the values of a plan are stencils, filled with whatever was drawn (`Script.compile_stencils`).
Only names have to be the same for all draws: what stands in front of the equals sign of a set must
hold no reference.
-/

namespace SetupScript

/-! ## Stencils -/

/-- A character, or a hole for the decimal digits of a staging number. -/
inductive Stencil.Cell
  | plain (character : Char)
  | number (index : Nat)
deriving DecidableEq

/-- A text with holes. -/
abbrev Stencil := List Stencil.Cell

namespace Stencil

/-- What a cell comes to when the numbers are drawn. -/
def Cell.fill (draws : Nat → Nat) : Cell → List Char
  | plain character => [character]
  | number index => (toString (draws index % Settings.stagingRange)).toList

/-- The text of a stencil with its holes filled. -/
def fill (draws : Nat → Nat) (stencil : Stencil) : String :=
  String.ofList (stencil.flatMap (Cell.fill draws))

/-- A text without holes. -/
def ofText (text : String) : Stencil :=
  text.toList.map .plain

variable {draws : Nat → Nat} {separator : Char} {stencil : Stencil}

@[simp]
theorem toList_fill (draws : Nat → Nat) (stencil : Stencil) :
    (stencil.fill draws).toList = stencil.flatMap (Cell.fill draws) :=
  String.toList_ofList

@[simp]
theorem fill_append (draws : Nat → Nat) (first second : Stencil) :
    fill draws (first ++ second) = first.fill draws ++ second.fill draws := by
  rw [fill, List.flatMap_append, String.ofList_append, fill, fill]

@[simp]
theorem fill_ofText (draws : Nat → Nat) (text : String) : (ofText text).fill draws = text := by
  rw [fill, ofText, List.flatMap_map]
  show String.ofList (text.toList.flatMap fun character => [character]) = text
  rw [List.flatMap_singleton', String.ofList_toList]

/-! ## Cutting -/

theorem isDigit_of_mem_number {index : Nat} {character : Char}
    (member : character ∈ (Cell.number index).fill draws) : character.isDigit = true :=
  Text.isDigit_of_mem_toString member

/-- No hole is filled with a separator. -/
theorem count_fill (notDigit : separator.isDigit = false) (stencil : Stencil) :
    (stencil.fill draws).toList.count separator = stencil.count (.plain separator) := by
  rw [toList_fill]
  induction stencil with
  | nil => rfl
  | cons cell rest ih =>
    rw [List.flatMap_cons, List.count_append, ih]
    cases cell with
    | plain character =>
      by_cases same : character = separator
      · subst same
        rw [List.count_cons_self, Nat.add_comm]
        simp [Cell.fill]
      · rw [List.count_cons_of_ne (by simpa using same)]
        simp [Cell.fill, same]
    | number index =>
      have absent : separator ∉ (Cell.number index).fill draws := fun member => by
        rw [isDigit_of_mem_number member] at notDigit
        cases notDigit
      have different : Cell.number index ≠ .plain separator := nofun
      rw [List.count_eq_zero.2 absent, Nat.zero_add, List.count_cons_of_ne different]

theorem mem_fill_iff (notDigit : separator.isDigit = false) (stencil : Stencil) :
    separator ∈ (stencil.fill draws).toList ↔ .plain separator ∈ stencil := by
  rw [← List.count_pos_iff, count_fill notDigit, List.count_pos_iff]

/-- Where a stencil can be cut in two with some numbers, it can be cut with all. -/
theorem exists_parts_fill (notDigit : separator.isDigit = false) {first second : String}
    (parts : Declaration.Parts separator (stencil.fill draws) first second) :
    ∃ front behind : Stencil, ∀ draws,
      Declaration.Parts separator (stencil.fill draws) (front.fill draws) (behind.fill draws) := by
  have one : stencil.count (.plain separator) = 1 := by
    rw [← count_fill notDigit, parts.count_eq_one]
  have present : .plain separator ∈ stencil := List.count_pos_iff.1 (by omega)
  obtain ⟨front, behind, rfl, absent⟩ := List.eq_append_cons_of_mem present
  rw [List.count_append, List.count_eq_zero.2 absent, List.count_cons_self] at one
  have absentBehind : .plain separator ∉ behind := List.count_eq_zero.1 (by omega)
  refine ⟨front, behind, fun draws => ⟨?_, ?_, ?_⟩⟩
  · simp [Cell.fill]
  · rwa [mem_fill_iff notDigit]
  · rwa [mem_fill_iff notDigit]

/-! ## Substitution -/

/-- The stencil that takes the place of a piece of a text. -/
def ofPiece (values : String → Option Stencil) : Reference.Piece → Stencil
  | .plain character => [.plain character]
  | .reference name =>
    match values (String.ofList name) with
    | some stencil => stencil
    | none => (Reference.Piece.reference name).source.map .plain

/-- A text with its bound references replaced by stencils. -/
def resolve (values : String → Option Stencil) (text : String) : Stencil :=
  (Reference.pieces text.toList).flatMap (ofPiece values)

/-- To substitute stencils and fill their holes is to substitute the filled stencils. -/
theorem fill_resolve {values : String → Option Stencil} {bindings : Bindings}
    (shown : ∀ name, bindings.get? name = (values name).map (fill draws)) (text : String) :
    (resolve values text).fill draws = Reference.resolve bindings text := by
  rw [Reference.resolve_eq_substitute, fill, resolve, List.flatMap_assoc, Reference.substitute]
  refine congrArg String.ofList (List.flatMap_congr fun piece _ => ?_)
  cases piece with
  | plain character => rfl
  | reference name =>
    rw [ofPiece, Reference.Piece.value, shown]
    cases values (String.ofList name) with
    | some stencil => exact (toList_fill draws stencil).symm
    | none =>
      show (List.map Cell.plain _).flatMap (Cell.fill draws) = _
      rw [List.flatMap_map]
      exact List.flatMap_singleton' _

/-! ## Destinations and staging paths -/

/-- Where the files of a stencil are moved to: a leading dot is the working directory. -/
def destination (workingDirectory : String) : Stencil → Stencil
  | .plain '.' :: rest => ofText workingDirectory ++ rest
  | stencil => stencil

/-- No hole in front is filled with a dot. -/
theorem placed_fill (workingDirectory : String) (stencil : Stencil) :
    Declaration.Placed workingDirectory (stencil.fill draws)
      ((stencil.destination workingDirectory).fill draws) := by
  unfold destination
  split
  · rename_i rest
    have whole : fill draws (.plain '.' :: rest) = "." ++ fill draws rest := by
      simp [← String.toList_inj, Cell.fill]
    rw [whole, fill_append, fill_ofText]
    exact .dotted _
  · rename_i undotted
    refine .plain fun dotted => ?_
    cases stencil with
    | nil => cases dotted
    | cons cell rest =>
      rw [toList_fill, List.flatMap_cons] at dotted
      cases cell with
      | plain character =>
        cases dotted
        exact undotted rest rfl
      | number index =>
        obtain ⟨digit, member, _⟩ :=
          Text.exists_isDigit_mem_toString (draws index % Settings.stagingRange)
        have filled : (Cell.number index).fill draws ≠ [] := List.ne_nil_of_mem member
        rw [List.head?_append_of_ne_nil _ filled] at dotted
        exact absurd (isDigit_of_mem_number (List.mem_of_head? dotted)) (by decide)

/-- What stands in front of the number in a staging path depends on the settings alone. -/
theorem exists_stagingPath (settings : Settings) :
    ∃ lead : String, ∀ draw, settings.stagingPath draw =
      lead ++ toString (draw % Settings.stagingRange) := by
  by_cases absolute : Path.Absolute settings.stagingStem
  · exact ⟨settings.stagingStem, fun draw =>
      Path.join_of_absolute ((Settings.absolute_stagingName_iff draw).2 absolute) _⟩
  · have relative (draw : Nat) := mt (Settings.absolute_stagingName_iff draw).1 absolute
    by_cases ends : settings.stagingRoot.toList.getLast? = some '/' ∨ settings.stagingRoot = ""
    · refine ⟨settings.stagingRoot ++ settings.stagingStem, fun draw => ?_⟩
      rw [String.append_assoc]
      exact (if_neg (relative draw)).trans (if_pos ends)
    · refine ⟨settings.stagingRoot ++ "/" ++ settings.stagingStem, fun draw => ?_⟩
      rw [String.append_assoc]
      exact (if_neg (relative draw)).trans (if_neg ends)

/-- The path of a clone, with a hole for its number. -/
theorem exists_fill_eq_stagingPath (settings : Settings) (index : Nat) :
    ∃ path : Stencil, ∀ draws, path.fill draws = settings.stagingPath (draws index) := by
  obtain ⟨lead, numbered⟩ := exists_stagingPath settings
  refine ⟨ofText lead ++ [.number index], fun draws => ?_⟩
  rw [numbered, fill_append, fill_ofText, fill, List.flatMap_singleton]
  exact congrArg (lead ++ ·) String.ofList_toList

end Stencil

/-! ## Sketches -/

/-- What a ledger comes to, whatever is drawn: the commands, the bound names and their values, and how
many clones there were. -/
structure Sketch where
  commands : List Stencil
  names : List String
  values : String → Option Stencil
  clones : Nat

namespace Sketch

/-- A ledger is a sketch with its holes filled. -/
structure Shows (draws : Nat → Nat) (sketch : Sketch) (ledger : Ledger) : Prop where
  commands : ledger.commands = sketch.commands.map (Stencil.fill draws)
  names : ledger.bindings.names = sketch.names
  values : ∀ name, ledger.bindings.get? name = (sketch.values name).map (Stencil.fill draws)
  clones : ledger.clones = sketch.clones

/-- The sketch with one more command. -/
def emit (sketch : Sketch) (command : Stencil) : Sketch :=
  { sketch with commands := sketch.commands ++ [command] }

/-- The sketch with a name bound. -/
def bind (sketch : Sketch) (name : String) (value : Stencil) : Sketch :=
  { sketch with
    names := if name ∈ sketch.names then sketch.names else sketch.names ++ [name]
    values := fun wanted => if wanted = name then some value else sketch.values wanted }

/-- The sketch with one more clone, which is fetched by a command. -/
def fetch (sketch : Sketch) (command : Stencil) : Sketch :=
  { sketch with commands := sketch.commands ++ [command], clones := sketch.clones + 1 }

/-- The sketch of the initial ledger, which has no holes. -/
def initial (around : Script.Surroundings) : Sketch where
  commands := []
  names := (Ledger.initial around).bindings.names
  values name := ((Ledger.initial around).bindings.get? name).map Stencil.ofText
  clones := 0

variable {draws : Nat → Nat} {sketch : Sketch} {ledger : Ledger}

theorem Shows.emit (shown : sketch.Shows draws ledger) (command : Stencil) :
    (sketch.emit command).Shows draws (ledger.emit (command.fill draws)) := by
  refine ⟨?_, shown.names, shown.values, shown.clones⟩
  simp [Ledger.emit, Sketch.emit, shown.commands]

theorem Shows.fetch (shown : sketch.Shows draws ledger) (command : Stencil) :
    (sketch.fetch command).Shows draws (ledger.fetch (command.fill draws)) := by
  refine ⟨?_, shown.names, shown.values, congrArg (· + 1) shown.clones⟩
  simp [Ledger.fetch, Sketch.fetch, shown.commands]

theorem Shows.bind (shown : sketch.Shows draws ledger) (name : String) (value : Stencil) :
    (sketch.bind name value).Shows draws (ledger.bind name (value.fill draws)) := by
  refine ⟨shown.commands, ?_, fun wanted => ?_, shown.clones⟩
  · rw [Ledger.bind, Bindings.names_insert, shown.names]
    rfl
  · rw [Ledger.bind, Bindings.get?_insert, shown.values]
    show _ = (if _ then _ else _ : Option Stencil).map _
    split <;> rfl

theorem shows_initial (around : Script.Surroundings) (draws : Nat → Nat) :
    (initial around).Shows draws (Ledger.initial { around with draws := draws }) := by
  refine ⟨rfl, rfl, fun name => ?_, rfl⟩
  have same : Stencil.fill draws ∘ Stencil.ofText = id := funext (Stencil.fill_ofText draws)
  show _ = Option.map _ (Option.map _ _)
  rw [Option.map_map, same, Option.map_id]
  rfl

/-- The table of a ledger is that of the sketch with its holes filled. -/
theorem Shows.entries (shown : sketch.Shows draws ledger) :
    ledger.bindings.entries = (sketch.names.map fun name =>
      (name, (sketch.values name).getD [])).map fun entry =>
        (entry.1, entry.2.fill draws) := by
  rw [Bindings.entries_eq_map_names, shown.names, List.map_map]
  refine List.map_congr_left fun name _ => ?_
  show (name, ((ledger.bindings.get? name).getD "")) =
    (name, ((sketch.values name).getD []).fill draws)
  rw [shown.values]
  cases sketch.values name <;> rfl

end Sketch

/-- However the holes are filled, a sketch puts as many separators into an argument. -/
theorem Sketch.Shows.cutAlike {draws otherDraws : Nat → Nat} {sketch : Sketch}
    {ledger other : Ledger} (shown : sketch.Shows draws ledger)
    (otherShown : sketch.Shows otherDraws other) (declaration : Declaration) :
    declaration.CutAlike ledger.bindings other.bindings := by
  have counts {separator : Char} (notDigit : separator.isDigit = false) (argument : String) :
      (Reference.resolve ledger.bindings argument).toList.count separator =
        (Reference.resolve other.bindings argument).toList.count separator := by
    rw [← Stencil.fill_resolve shown.values, ← Stencil.fill_resolve otherShown.values,
      Stencil.count_fill notDigit, Stencil.count_fill notDigit]
  cases declaration with
  | extract argument => exact counts (by decide) argument
  | set argument => exact counts (by decide) argument
  | _ => trivial

/-! ## Plain names -/

/-- What stands in front of the first equals sign of a set, or the whole argument if there is none,
holds no opening of a reference. -/
def Declaration.NamesPlainly : Declaration → Prop
  | set argument => Reference.hasOpening (argument.toList.takeWhile (· != '=')) = false
  | run _ | extract _ | clone _ _ => True

/-- The literals behind the keywords of sets name plainly. -/
def Script.NamesPlainly (tokens : List Token) : Prop :=
  tokens.IsChain fun keyword literal =>
    keyword.kind = .set → (Declaration.set literal.text).NamesPlainly

instance (declaration : Declaration) : Decidable declaration.NamesPlainly :=
  match declaration with
  | .set _ => inferInstanceAs (Decidable (_ = false))
  | .run _ | .extract _ | .clone _ _ => inferInstanceAs (Decidable True)

instance (tokens : List Token) : Decidable (Script.NamesPlainly tokens) :=
  inferInstanceAs (Decidable (List.IsChain _ tokens))

theorem Script.Declares.namesPlainly {declarations : List Declaration} {tokens rest : List Token}
    (declares : Declares declarations tokens rest) (plain : NamesPlainly tokens) :
    ∀ declaration ∈ declarations, declaration.NamesPlainly := by
  obtain ⟨front, body, rfl⟩ := declares
  replace plain := (List.isChain_append.1 plain).1
  induction body with
  | nil => exact nofun
  | cons spelled separated others ih =>
    obtain ⟨first, behind, _⟩ := List.isChain_append.1 plain
    have later := ih (List.isChain_append.1 behind).2.1
    rintro declaration (_ | ⟨_, member⟩)
    · cases spelled with
      | set opens _ => exact (List.isChain_cons_cons.1 first).1 opens
      | _ => trivial
    · exact later declaration member

/-! ## Meanings -/

section Meanings

variable {around : Script.Surroundings} {draws : Nat → Nat} {sketch : Sketch}
  {ledger last : Ledger}

/-- The name that a set binds is what stands in front of its first equals sign. -/
theorem Declaration.Parts.name_eq {bindings : Bindings} {argument name value : String}
    (parts : Parts '=' (Reference.resolve bindings argument) name value)
    (plain : (Declaration.set argument).NamesPlainly) :
    name = String.ofList (argument.toList.takeWhile (· != '=')) := by
  have first := Text.takeWhile_append_separator parts.2.1 value.toList
  rw [← Reference.takeWhile_resolve ⟨by decide, by decide⟩ plain, parts.1, first,
    String.ofList_toList]

theorem Declaration.fetchCommand_eq (settings : Settings) (fetched path : String) :
    fetchCommand settings fetched path = fetchCommand settings fetched "" ++ path := by
  simp [fetchCommand]

/-- The command of a clone into the path of a stencil. -/
theorem Sketch.Shows.fetch_path (shown : sketch.Shows draws ledger) (settings : Settings)
    (fetched : String) (path : Stencil) :
    (sketch.fetch (.ofText (Declaration.fetchCommand settings fetched "") ++ path)).Shows draws
      (ledger.fetch (Declaration.fetchCommand settings fetched (path.fill draws))) := by
  have fetches := shown.fetch (.ofText (Declaration.fetchCommand settings fetched "") ++ path)
  rwa [Stencil.fill_append, Stencil.fill_ofText, ← Declaration.fetchCommand_eq] at fetches

/-- What a declaration does to a sketch with some numbers, it does with all. -/
theorem Declaration.Means.exists_sketch {declaration : Declaration}
    (means : declaration.Means { around with draws := draws } ledger last)
    (shown : sketch.Shows draws ledger) (plain : declaration.NamesPlainly) :
    ∃ next : Sketch, ∀ draws ledger, sketch.Shows draws ledger →
      ∃ last, declaration.Means { around with draws := draws } ledger last ∧
        next.Shows draws last := by
  cases means with
  | run argument =>
    refine ⟨sketch.emit (Stencil.resolve sketch.values argument), fun draws ledger shown =>
      ⟨_, .run argument ledger, ?_⟩⟩
    rw [← Stencil.fill_resolve shown.values]
    exact shown.emit _
  | @extract argument _ _ _ _ parts _ =>
    rw [← Stencil.fill_resolve shown.values] at parts
    obtain ⟨front, behind, cut⟩ := Stencil.exists_parts_fill (by decide) parts
    refine ⟨sketch.emit (.ofText "mv " ++ front ++ .ofText " " ++
      behind.destination around.workingDirectory), fun draws ledger shown => ?_⟩
    have parts := cut draws
    rw [Stencil.fill_resolve shown.values] at parts
    refine ⟨_, .extract parts (Stencil.placed_fill around.workingDirectory behind), ?_⟩
    have emitted := shown.emit (.ofText "mv " ++ front ++ .ofText " " ++
      behind.destination around.workingDirectory)
    simp only [Stencil.fill_append, Stencil.fill_ofText] at emitted
    exact emitted
  | @set argument _ _ _ parts =>
    rw [← Stencil.fill_resolve shown.values] at parts
    obtain ⟨front, behind, cut⟩ := Stencil.exists_parts_fill (by decide) parts
    refine ⟨sketch.bind (String.ofList (argument.toList.takeWhile (· != '='))) behind,
      fun draws ledger shown => ?_⟩
    have parts := cut draws
    rw [Stencil.fill_resolve shown.values] at parts
    rw [← parts.name_eq plain]
    exact ⟨_, .set parts, shown.bind _ _⟩
  | @clone argument fetched _ _ location _ =>
    obtain ⟨path, staged⟩ := Stencil.exists_fill_eq_stagingPath around.settings sketch.clones
    refine ⟨sketch.fetch (.ofText (fetchCommand around.settings fetched "") ++ path),
      fun draws ledger shown => ⟨_, .clone location rfl, ?_⟩⟩
    rw [shown.clones, ← staged draws]
    exact shown.fetch_path around.settings fetched path
  | @cloneAs argument name fetched _ _ location _ =>
    obtain ⟨path, staged⟩ := Stencil.exists_fill_eq_stagingPath around.settings sketch.clones
    refine ⟨(sketch.bind name path).fetch
      (.ofText (fetchCommand around.settings fetched "") ++ path),
      fun draws ledger shown => ⟨_, .cloneAs location rfl, ?_⟩⟩
    rw [shown.clones, ← staged draws]
    exact (shown.bind name path).fetch_path around.settings fetched path

/-- What declarations do to a sketch with some numbers, they do with all. -/
theorem Script.Means.exists_sketch {declarations : List Declaration}
    (means : Script.Means { around with draws := draws } declarations ledger last)
    (shown : sketch.Shows draws ledger)
    (plain : ∀ declaration ∈ declarations, declaration.NamesPlainly) :
    ∃ final : Sketch, ∀ draws ledger, sketch.Shows draws ledger →
      ∃ last, Script.Means { around with draws := draws } declarations ledger last ∧
        final.Shows draws last := by
  induction means generalizing sketch with
  | nil _ => exact ⟨sketch, fun draws ledger shown => ⟨ledger, .nil ledger, shown⟩⟩
  | @cons declaration declarations ledger middle last first others ih =>
    obtain ⟨next, uniform⟩ := first.exists_sketch shown (plain declaration List.mem_cons_self)
    obtain ⟨reached, again, nextShown⟩ := uniform draws ledger shown
    obtain rfl := first.unique again
    obtain ⟨final, rest⟩ :=
      ih nextShown fun other member => plain other (List.mem_cons_of_mem _ member)
    refine ⟨final, fun draws ledger shown => ?_⟩
    obtain ⟨middle, firstMeans, middleShown⟩ := uniform draws ledger shown
    obtain ⟨last, otherMeans, lastShown⟩ := rest draws middle middleShown
    exact ⟨last, .cons firstMeans otherMeans, lastShown⟩

/-- Where names hold no references, what is drawn has no influence on how arguments are cut. -/
theorem Script.cutAlike_of_plain {tokens : List Token}
    (plain : ∀ declarations rest, Declares declarations tokens rest →
      ∀ declaration ∈ declarations, declaration.NamesPlainly) (draws others : Nat → Nat) :
    CutAlike { around with draws := draws } { around with draws := others } tokens := by
  intro declarations declaration taken rest declares _ ledger other means otherMeans
  obtain ⟨sketch, uniform⟩ := means.exists_sketch (Sketch.shows_initial around draws)
    (plain declarations _ declares)
  obtain ⟨reached, again, shown⟩ := uniform draws _ (Sketch.shows_initial around draws)
  obtain ⟨otherReached, otherAgain, otherShown⟩ :=
    uniform others _ (Sketch.shows_initial around others)
  obtain rfl := means.unique again
  obtain rfl := otherMeans.unique otherAgain
  exact shown.cutAlike otherShown declaration

end Meanings

namespace Script

/-- A script whose sets name what they bind without references depends on the staging numbers in
nothing but their digits: whatever is drawn, it fails with the same diagnostic, or its commands and
its variables are the same stencils, filled with what was drawn. -/
theorem compile_stencils (text filename : String) (around : Surroundings)
    (plain : ∀ declarations rest, Declares declarations (tokensOf text) rest →
      ∀ declaration ∈ declarations, declaration.NamesPlainly) :
    (∃ diagnostic, ∀ draws,
        (compile text filename { around with draws := draws }).1 = .error diagnostic) ∨
      ∃ (commands : List Stencil) (table : List (String × Stencil)), ∀ draws, ∃ plan,
        (compile text filename { around with draws := draws }).1 = .ok plan ∧
          plan.commands = commands.map (Stencil.fill draws) ∧
          plan.bindings.entries =
            table.map fun entry => (entry.1, entry.2.fill draws) := by
  rcases ran : (compile text filename { around with draws := id }).1 with diagnostic | plan
  · refine Or.inl ⟨diagnostic, fun draws => ?_⟩
    rcases @compile_abreast text filename _ _ (cutAlike_of_plain plain id draws) with
      ⟨same, failed, alsoFailed⟩ | ⟨_, _, compiled, _⟩
    · rw [ran] at failed
      cases failed
      exact alsoFailed
    · rw [ran] at compiled
      cases compiled
  · obtain ⟨tokens, declarations, ledger, tokenized, spells, means, _⟩ := compile_eq_ok_iff.1 ran
    obtain ⟨rest, declares⟩ := spells.exists_declares
    rw [← tokensOf_of_tokenize tokenized] at declares
    obtain ⟨sketch, uniform⟩ := means.exists_sketch (Sketch.shows_initial around id)
      (plain declarations rest declares)
    refine Or.inr ⟨sketch.commands, sketch.names.map fun name =>
      (name, (sketch.values name).getD []), fun draws => ?_⟩
    obtain ⟨last, means, shown⟩ := uniform draws _ (Sketch.shows_initial around draws)
    exact ⟨⟨filename, last.commands, last.bindings⟩,
      compile_eq_ok_iff.2 ⟨tokens, declarations, last, tokenized, spells, means, rfl⟩,
      shown.commands, shown.entries⟩

/-- A named clone whose path is a part of a value, and the value a destination. -/
theorem compile_stencils_clone :
    (∀ declarations rest, Declares declarations (tokensOf
          "clone \"h\" as \"X\"; set \"D=$[X]/b\"; extract \"a $[D]\"") rest →
        ∀ declaration ∈ declarations, declaration.NamesPlainly) ∧
      ∃ (commands : List Stencil) (table : List (String × Stencil)), ∀ draws, ∃ plan,
        (compile "clone \"h\" as \"X\"; set \"D=$[X]/b\"; extract \"a $[D]\"" "f"
            { (⟨.standard "/tmp", .empty, "/w", id⟩ : Surroundings) with draws := draws }).1 =
          .ok plan ∧
          plan.commands = commands.map (Stencil.fill draws) ∧
          plan.bindings.entries = table.map fun entry => (entry.1, entry.2.fill draws) := by
  have named : NamesPlainly (tokensOf
      "clone \"h\" as \"X\"; set \"D=$[X]/b\"; extract \"a $[D]\"") := by
    with_unfolding_all decide
  have plain := fun declarations rest declares =>
    @Declares.namesPlainly declarations _ rest declares named
  refine ⟨plain, ?_⟩
  rcases compile_stencils _ "f" ⟨.standard "/tmp", .empty, "/w", id⟩ plain with
    ⟨_, failed⟩ | stencils
  · have compiled : (compile "clone \"h\" as \"X\"; set \"D=$[X]/b\"; extract \"a $[D]\"" "f"
        ⟨.standard "/tmp", .empty, "/w", id⟩).1.isOk = true := by
      with_unfolding_all rfl
    rw [failed id] at compiled
    cases compiled
  · exact stencils

/-- A name that holds a staging number is a name of its own for every draw. -/
example :
    (compile "clone \"h\" as \"X\"; set \"$[X]=v\"" "f"
        ⟨.standard "/tmp", .empty, "/w", fun _ => 1⟩).1.map (·.bindings.names) =
          .ok ["X", "/tmp/depscript-1"] ∧
      (compile "clone \"h\" as \"X\"; set \"$[X]=v\"" "f"
        ⟨.standard "/tmp", .empty, "/w", fun _ => 2⟩).1.map (·.bindings.names) =
          .ok ["X", "/tmp/depscript-2"] := by
  with_unfolding_all exact ⟨rfl, rfl⟩

end Script

end SetupScript
