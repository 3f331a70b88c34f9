import Mathlib.Data.List.Infix
import SetupScript.Proofs.LineEnds

/-!
# Plain templates

A text without opening delimiters is a template of itself.  With every renderer that puts such texts
out as they are (`Renderer.KeepsPlain`), data make no difference to a script that has no tags
(`Script.load_of_isPlain`); the renderer at hand does (`Renderer.keepsPlain_standard`).
-/

namespace SetupScript

/-! ## Procedures that return -/

namespace Procedure

variable {State Error Result Next Item : Type}

/-- From any state, a procedure returns a result of the expected kind. -/
def Returns (expected : Result → Prop) (procedure : Procedure State Error Result) : Prop :=
  ∀ state, ∃ result reached, procedure.run state = (.ok result, reached) ∧ expected result

/-- A procedure never fails. -/
abbrev Succeeds (procedure : Procedure State Error Result) : Prop :=
  Returns (fun _ => True) procedure

theorem returns_pure {expected : Result → Prop} {result : Result} (holds : expected result) :
    Returns expected (pure result : Procedure State Error Result) :=
  fun state => ⟨result, state, rfl, holds⟩

theorem Returns.bind {expected : Result → Prop} {wanted : Next → Prop}
    {first : Procedure State Error Result} {second : Result → Procedure State Error Next}
    (returns : Returns expected first)
    (others : ∀ result, expected result → Returns wanted (second result)) :
    Returns wanted (first >>= second) := by
  intro state
  obtain ⟨result, reached, ran, holds⟩ := returns state
  rw [run_bind_of_ok ran]
  exact others result holds reached

theorem succeeds_pure (result : Result) :
    Succeeds (pure result : Procedure State Error Result) :=
  returns_pure trivial

theorem Succeeds.bind {wanted : Next → Prop} {first : Procedure State Error Result}
    {second : Result → Procedure State Error Next} (succeeds : Succeeds first)
    (others : ∀ result, Returns wanted (second result)) : Returns wanted (first >>= second) :=
  Returns.bind succeeds fun result _ => others result

theorem succeeds_change (update : State → State) :
    Succeeds (change update : Procedure State Error Unit) :=
  fun state => ⟨(), update state, rfl, trivial⟩

/-- A step that never fails can be taken for all items of a list. -/
theorem succeeds_mapM {step : Item → Procedure State Error Result}
    (succeeds : ∀ item, Succeeds (step item)) (items : List Item) :
    Succeeds (items.mapM step) := by
  show Succeeds (List.mapM.loop step items [])
  generalize ([] : List Result) = results
  induction items generalizing results with
  | nil => exact succeeds_pure _
  | cons item items ih => exact (succeeds item).bind fun result => ih (result :: results)

end Procedure

namespace Template

open Procedure (Succeeds Returns succeeds_pure succeeds_mapM succeeds_change)

/-! ## Data -/

namespace Work

theorem succeeds_add (object : Object) : Succeeds (add object) :=
  fun _ => ⟨_, _, rfl, trivial⟩

theorem succeeds_object (cell : Cell) : Succeeds (object cell) :=
  fun _ => ⟨_, _, rfl, trivial⟩

theorem succeeds_keep (value : Value) : Succeeds (keep value) := by
  unfold keep
  split
  · exact fun _ => ⟨_, _, rfl, trivial⟩
  · exact succeeds_pure _

theorem succeeds_newList (values : List Value) : Succeeds (newList values) :=
  (succeeds_mapM succeeds_keep values).bind fun _ =>
    (succeeds_add _).bind fun _ => succeeds_pure _

theorem succeeds_newMapping (entries : List (Value × Value)) : Succeeds (newMapping entries) := by
  refine (succeeds_mapM (fun entry => ?_) entries).bind fun _ =>
    (succeeds_add _).bind fun _ => succeeds_pure _
  exact (succeeds_keep entry.1).bind fun _ => (succeeds_keep entry.2).bind fun _ => succeeds_pure _

end Work

/-- Every datum stands for a value. -/
theorem succeeds_valueOf (datum : Datum) : Succeeds (valueOf datum) := by
  refine @Datum.rec (fun datum => Succeeds (valueOf datum))
    (fun items => Succeeds (valuesOf items)) (fun entries => Succeeds (entriesOf entries))
    (fun entry => Succeeds (valueOf entry.2)) ?none ?boolean ?integer ?decimal ?text ?list ?mapping
    ?noItems ?items ?noEntries ?entries ?entry datum
  case none => exact succeeds_pure _
  case boolean => exact fun _ => succeeds_pure _
  case integer => exact fun _ => succeeds_pure _
  case decimal => exact fun _ => succeeds_pure _
  case text => exact fun _ => succeeds_pure _
  case list => exact fun _ succeeds => succeeds.bind Work.succeeds_newList
  case mapping => exact fun _ succeeds => succeeds.bind Work.succeeds_newMapping
  case noItems => exact succeeds_pure _
  case items =>
    exact fun _ _ first others => first.bind fun _ => others.bind fun _ => succeeds_pure _
  case noEntries => exact succeeds_pure _
  case entries =>
    exact fun _ _ first others => first.bind fun _ => others.bind fun _ => succeeds_pure _
  case entry => exact fun _ _ succeeds => succeeds

/-- Whatever a template is given, its names get their values. -/
theorem succeeds_contextOf (context : List (String × Datum)) : Succeeds (contextOf context) :=
  succeeds_mapM (fun entry => (succeeds_valueOf entry.2).bind fun value =>
    (Work.succeeds_keep value).bind fun _ => succeeds_pure _) context

/-! ## Frames -/

theorem succeeds_contextAt (cell : Cell) : Succeeds (contextAt cell) := by
  refine (Work.succeeds_object cell).bind fun object => ?_
  split <;> exact succeeds_pure _

namespace Frame

theorem succeeds_state (cell : Cell) : Succeeds (state cell) := by
  refine (Work.succeeds_object cell).bind fun object => ?_
  split <;> exact succeeds_pure _

/-- A frame in which no name is looked up can be opened. -/
theorem succeeds_openApart (context : Cell) (given : List (String × Value)) :
    Succeeds (openApart context {} given) := by
  refine Succeeds.bind ?_ fun _ => Work.succeeds_add _
  refine (succeeds_contextAt context).bind fun _ => ?_
  refine (succeeds_mapM (fun entry => ?_) given).bind fun _ => ?_
  · exact (Work.succeeds_keep entry.2).bind fun _ => succeeds_pure _
  · exact (succeeds_pure _).bind fun _ => succeeds_pure _

end Frame

/-! ## Plain texts -/

/-- No opening delimiter stands in a text. -/
def IsPlain (text : List Char) : Prop :=
  ∀ mark ∈ ['\x7b', '%', '#'], ¬ ['\x7b', mark] <:+: text

instance decidableIsPlain (text : List Char) : Decidable (IsPlain text) :=
  List.decidableBAll (fun mark => ¬ ['\x7b', mark] <:+: text) _

theorem exists_mark_of_opening? {text inside : List Char} {opening : Opening}
    (found : opening? text = some (opening, inside)) :
    ∃ mark ∈ ['\x7b', '%', '#'], text = '\x7b' :: mark :: inside := by
  unfold opening? at found
  split at found
  · cases found
    exact ⟨'\x7b', by decide, rfl⟩
  · cases found
    exact ⟨'%', by decide, rfl⟩
  · cases found
    exact ⟨'#', by decide, rfl⟩
  · cases found

theorem IsPlain.noDelimiter {text : List Char} (plain : IsPlain text) : NoDelimiter text := by
  intro rest suffix
  cases found : opening? rest with
  | none => rfl
  | some split =>
    obtain ⟨mark, member, rfl⟩ := exists_mark_of_opening? found
    have opens : ['\x7b', mark] <+: '\x7b' :: mark :: split.2 := ⟨split.2, rfl⟩
    exact absurd (opens.isInfix.trans suffix.isInfix) (plain mark member)

theorem isPlain_cons_iff {character : Char} {text : List Char} :
    IsPlain (character :: text) ↔
      (∀ mark ∈ ['\x7b', '%', '#'], '\x7b' = character → ¬ [mark] <+: text) ∧ IsPlain text := by
  simp only [IsPlain, List.infix_cons_iff, List.cons_prefix_cons, not_or, not_and, forall_and]

/-- A character that is no line feed begins a text with line feeds only if it began the text before. -/
theorem prefix_of_prefix_normalizeLineEnds {mark : Char} {text : List Char}
    (different : mark ≠ '\n') (opens : [mark] <+: Text.normalizeLineEnds text) :
    [mark] <+: text := by
  unfold Text.normalizeLineEnds at opens
  split at opens
  · exact opens
  · exact absurd (List.cons_prefix_cons.1 opens).1 different
  · exact absurd (List.cons_prefix_cons.1 opens).1 different
  · exact List.cons_prefix_cons.2 ⟨(List.cons_prefix_cons.1 opens).1, List.nil_prefix⟩

/-- Line ends make no difference to whether a text is plain. -/
theorem IsPlain.normalizeLineEnds {text : List Char} (plain : IsPlain text) :
    IsPlain (Text.normalizeLineEnds text) := by
  fun_induction Text.normalizeLineEnds text with
  | case1 => exact plain
  | case2 rest ih =>
    rw [isPlain_cons_iff, isPlain_cons_iff] at plain
    exact isPlain_cons_iff.2 ⟨fun _ _ opens => absurd opens (by decide), ih plain.2.2⟩
  | case3 rest _ ih =>
    rw [isPlain_cons_iff] at plain
    exact isPlain_cons_iff.2 ⟨fun _ _ opens => absurd opens (by decide), ih plain.2⟩
  | case4 character rest _ _ ih =>
    rw [isPlain_cons_iff] at plain
    refine isPlain_cons_iff.2 ⟨fun mark member opens next => ?_, ih plain.2⟩
    have different : mark ≠ '\n' := by
      rintro rfl
      exact absurd member (by decide)
    exact plain.1 mark member opens (prefix_of_prefix_normalizeLineEnds different next)

theorem IsPlain.of_prefix {text front : List Char} (plain : IsPlain text) (first : front <+: text) :
    IsPlain front :=
  fun mark member inside => plain mark member (inside.trans first.isInfix)

/-- A plain text is one node, unless it is empty. -/
theorem parse_of_isPlain {text : List Char} (plain : IsPlain text) (absent : '\r' ∉ text) :
    parse text = .ok (if text.isEmpty then [] else [.plain text]) := by
  rw [parse, Text.normalizeLineEnds_eq_self absent, pieces?_of_noDelimiter plain.noDelimiter,
    plainPiece]
  cases text.isEmpty <;> rfl

/-- A plain text is made ready as it is; it needs no names and has no blocks. -/
theorem ofNodes_plain (engine : Engine) (text : List Char) :
    Prepared.ofNodes engine (if text.isEmpty then [] else [.plain text]) =
      .ok ⟨{}, if text.isEmpty then [] else [.plain (String.ofList text)], []⟩ := by
  cases text.isEmpty <;> rfl

/-- What is made ready of a plain text puts that text out. -/
theorem returns_renderAll (scene : Scene) (text : List Char) :
    Returns (· = some (String.ofList text))
      (renderAll scene .empty
        (if text.isEmpty then [] else [.plain (String.ofList text)])) := by
  cases text with
  | nil => exact Procedure.returns_pure rfl
  | cons character rest =>
    exact fun state => ⟨_, state, rfl, congrArg some String.empty_append⟩

/-- A template without names is rendered, whatever it is given, if its body puts something out. -/
theorem returns_render {engine : Engine} {body : List Step} {blocks : List (String × BlockOutline)}
    {text : String} (puts : ∀ scene, Returns (· = some text) (renderAll scene .empty body))
    (given : List (String × Value)) :
    Returns (· = text) (Prepared.render engine ⟨{}, body, blocks⟩ given) := by
  refine (succeeds_change _).bind fun _ => ?_
  refine (Work.succeeds_add _).bind fun context => ?_
  refine (Frame.succeeds_openApart context _).bind fun frame => ?_
  refine (Frame.succeeds_state frame).bind fun _ => ?_
  refine (succeeds_change _).bind fun _ => ?_
  refine (puts _).bind fun output put => ?_
  subst put
  exact Procedure.returns_pure rfl

/-- Whatever a plain text is given as a template, it is rendered to itself. -/
theorem renderText_of_isPlain {text : String} (plain : IsPlain text.toList)
    (absent : '\r' ∉ text.toList) (data : List (String × Datum)) :
    renderText text data = .ok text := by
  have returns := (succeeds_contextOf data).bind fun given =>
    @returns_render (Engine.ofDepth callLimit) _ [] _
      (fun scene => returns_renderAll scene text.toList) given
  obtain ⟨result, reached, ran, same⟩ := returns {}
  rw [String.ofList_toList] at same
  subst same
  rw [renderText, parse_of_isPlain plain absent]
  show (Prepared.ofNodes _ _ >>= _) = _
  rw [ofNodes_plain]
  exact congrArg Prod.fst ran

end Template

/-! ## Renderers -/

namespace Renderer

/-- A renderer puts a text without opening delimiters out as it is, up to its line ends and the line
feed at its end, whatever data there are. -/
def KeepsPlain (renderer : Renderer) : Prop :=
  ∀ options text data, Template.IsPlain text.toList →
    renderer.render options text data = .ok (String.ofList (options.plainText text.toList))

theorem Options.plainText_prefix (options : Options) (text : List Char) :
    options.plainText text <+: Text.normalizeLineEnds text := by
  unfold plainText
  dsimp only
  split
  · exact List.prefix_rfl
  · exact List.dropLast_prefix _

/-- The renderer at hand keeps plain texts. -/
theorem keepsPlain_standard : Renderer.standard.KeepsPlain := by
  intro options text data plain
  have front := options.plainText_prefix text.toList
  have kept : Template.IsPlain (options.plainText text.toList) :=
    plain.normalizeLineEnds.of_prefix front
  have absent : '\r' ∉ options.plainText text.toList :=
    fun member => Text.not_mem_normalizeLineEnds _ (front.mem member)
  refine Attempt.mapError_eq_ok_iff.2 (Template.renderText_of_isPlain ?_ ?_ data)
  · rwa [String.toList_ofList]
  · rwa [String.toList_ofList]

end Renderer

namespace Script

variable {renderer : Renderer} {look : String → Entry} {file text : String}

/-- Where scripts are rendered, a text without carriage returns stays as it is. -/
theorem plainText_rendering {text : List Char} (absent : '\r' ∉ text) :
    rendering.plainText text = text :=
  Text.normalizeLineEnds_eq_self absent

/-- A script without opening delimiters is not changed by rendering, whatever data there are for it, if
the renderer keeps plain texts: the file comes to the same plan with them as without, or to the same
diagnostic. -/
theorem load_of_isPlain (keeps : renderer.KeepsPlain) (holds : (look (Path.tidy file)).Holds text)
    (plain : Template.IsPlain text.toList) (data : List (String × Datum)) (around : Surroundings) :
    render renderer text data (Path.tidy file) = .ok text ∧
      load renderer look file (some data) around = load renderer look file none around := by
  have rendered : render renderer text data (Path.tidy file) = .ok text := by
    rw [render, keeps rendering text data plain, plainText_rendering holds.carriageReturn_notMem,
      String.ofList_toList]
    rfl
  refine ⟨rendered, ?_⟩
  have given : textOf renderer text (some data) (Path.tidy file) = .ok text := rendered
  simp only [load, Entry.text_eq_ok_iff.2 holds, given, textOf_none]

/-- Stray delimiters, a reference and carriage returns in a file, with data for a name in it. -/
theorem load_of_isPlain_stray :
    Renderer.standard.KeepsPlain ∧
      ((Directory.addFile {} "s.ds" (encoded (Text.endLines .both
        "// %\x7d\nrun \"\x7b $[x] \x7d\x7d\"\n".toList))).look (Path.tidy "s.ds")).Holds
          "// %\x7d\nrun \"\x7b $[x] \x7d\x7d\"\n" ∧
      Template.IsPlain "// %\x7d\nrun \"\x7b $[x] \x7d\x7d\"\n".toList ∧
      (load .standard (Directory.addFile {} "s.ds" (encoded (Text.endLines .both
          "// %\x7d\nrun \"\x7b $[x] \x7d\x7d\"\n".toList))).look "s.ds"
          (some [("x", .list [.none])]) ⟨.standard "/tmp", .empty, "/w", id⟩).1 =
        .ok ⟨"s.ds", ["\x7b $[x] \x7d\x7d"], .empty⟩ := by
  have found : (Directory.addFile {} "s.ds" (encoded (Text.endLines .both
        "// %\x7d\nrun \"\x7b $[x] \x7d\x7d\"\n".toList))).look (Path.tidy "s.ds") =
      .file (encoded (Text.endLines .both
        "// %\x7d\nrun \"\x7b $[x] \x7d\x7d\"\n".toList)) := by
    decide +kernel
  have plain : Template.IsPlain "// %\x7d\nrun \"\x7b $[x] \x7d\x7d\"\n".toList := by
    decide +kernel
  have holds := found ▸ Entry.holds_endLines (by decide +kernel) .both
  refine ⟨Renderer.keepsPlain_standard, holds, plain, ?_⟩
  rw [(load_of_isPlain Renderer.keepsPlain_standard holds plain _ _).2, load_none holds]
  with_unfolding_all rfl

end Script

end SetupScript
