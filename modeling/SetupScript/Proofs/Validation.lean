import SetupScript.Proofs.Attempt
import SetupScript.Proofs.Contents
import SetupScript.Proofs.Modes

/-!
# Validation

What becomes of settings, however documents are read.  A text gives settings whose fields are what
its document gives (`Settings.parse_eq_ok_iff`), or a fault in them, unless the variables are a list
in which something stands that is no block (`Settings.settles_iff`).
-/

namespace SetupScript

/-- A value that is no text and holds no other values. -/
inductive Datum.Bare : Datum → Prop
  | none : Bare .none
  | boolean (value : Bool) : Bare (.boolean value)
  | integer (value : Int) : Bare (.integer value)
  | decimal (value : Float) : Bare (.decimal value)

theorem Datum.bare_of_ne {datum : Datum} (notText : ∀ text, datum = .text text → False)
    (notList : ∀ items, datum = .list items → False)
    (notMapping : ∀ entries, datum = .mapping entries → False) : datum.Bare := by
  cases datum with
  | none => exact .none
  | boolean value => exact .boolean value
  | integer value => exact .integer value
  | decimal value => exact .decimal value
  | text text => exact (notText text rfl).elim
  | list items => exact (notList items rfl).elim
  | mapping entries => exact (notMapping entries rfl).elim

namespace Settings

/-! ## Blocks of variables -/

/-- An item that gives a name and a value: a list of two, the first of which can be a key, a text of
two characters or a mapping of two keys. -/
inductive IsPair : Datum → Prop
  | members {key : Datum} (single : key.key? ≠ none) (value : Datum) : IsPair (.list [key, value])
  | characters (first second : Char) : IsPair (.text (String.ofList [first, second]))
  | keys (first second : Datum.Key × Datum) : IsPair (.mapping [first, second])

/-- An item without members that could be counted, or one of two members of which the first cannot
be a key. -/
inductive IsNoItem : Datum → Prop
  | bare {item : Datum} (bare : item.Bare) : IsNoItem item
  | compoundKey {key : Datum} (compound : key.key? = none) (value : Datum) :
      IsNoItem (.list [key, value])

/-- A block that gives variables: a mapping, a list of pairs or an empty text. -/
inductive IsBlock : Datum → Prop
  | mapping (entries : List (Datum.Key × Datum)) : IsBlock (.mapping entries)
  | list {items : List Datum} (pairs : ∀ item ∈ items, IsPair item) : IsBlock (.list items)
  | emptyText : IsBlock (.text "")

/-- A block without items, or one of which the first item that is no pair is no item. -/
inductive IsNoBlock : Datum → Prop
  | bare {block : Datum} (bare : block.Bare) : IsNoBlock block
  | list {items : List Datum} (broken : Attempt.FirstBad IsPair IsNoItem items) : IsNoBlock (.list items)

theorem exists_pairOfItem_iff (item : Datum) :
    (∃ pair, pairOfItem item = .ok pair) ↔ IsPair item := by
  constructor
  · rintro ⟨pair, read⟩
    cases item using pairOfItem.fun_cases with
    | case1 key value found isKey => exact .members (by rw [isKey]; exact nofun) value
    | case2 key value compound => simp only [pairOfItem, compound, reduceCtorEq] at read
    | case3 items notTwo => simp only [pairOfItem, reduceCtorEq] at read
    | case4 text first second written =>
      rw [← String.ofList_toList (s := text), written]
      exact .characters first second
    | case5 text notTwo => simp only [pairOfItem, reduceCtorEq] at read
    | case6 => exact .keys _ _
    | case7 entries notTwo => simp only [pairOfItem, reduceCtorEq] at read
    | case8 item => simp only [pairOfItem, reduceCtorEq] at read
  · intro isPair
    cases isPair with
    | @members key single value =>
      obtain ⟨found, isKey⟩ := Option.ne_none_iff_exists'.1 single
      exact ⟨(found, value), by simp only [pairOfItem, isKey]⟩
    | characters first second =>
      refine ⟨(.text first.toString, .text second.toString), ?_⟩
      simp only [pairOfItem, String.toList_ofList]
    | keys first second => exact ⟨_, rfl⟩

theorem pairOfItem_notBlock_iff (item : Datum) :
    pairOfItem item = .error .notBlock ↔ IsNoItem item := by
  constructor
  · intro read
    cases item using pairOfItem.fun_cases with
    | case1 key value found isKey => simp only [pairOfItem, isKey, reduceCtorEq] at read
    | case2 key value compound => exact .compoundKey compound value
    | case3 items notTwo =>
      simp only [pairOfItem] at read
      cases read
    | case4 text first second written => simp only [pairOfItem, written, reduceCtorEq] at read
    | case5 text notTwo =>
      simp only [pairOfItem] at read
      cases read
    | case6 => simp only [pairOfItem, reduceCtorEq] at read
    | case7 entries notTwo =>
      simp only [pairOfItem] at read
      cases read
    | case8 item _ notList notText _ notMapping =>
      exact .bare (Datum.bare_of_ne notText notList notMapping)
  · intro isNoItem
    cases isNoItem with
    | bare bare => cases bare <;> rfl
    | @compoundKey key compound value => simp only [pairOfItem, compound]

theorem exists_pairsOfBlock_iff (block : Datum) :
    (∃ pairs, pairsOfBlock block = .ok pairs) ↔ IsBlock block := by
  constructor
  · rintro ⟨pairs, read⟩
    cases block using pairsOfBlock.fun_cases with
    | case1 entries => exact .mapping entries
    | case2 items => exact .list ((Attempt.exists_mapM_eq_ok_iff exists_pairOfItem_iff items).1 ⟨pairs, read⟩)
    | case3 => exact .emptyText
    | case4 text nonempty => simp only [pairsOfBlock, nonempty, if_false, reduceCtorEq] at read
    | case5 block => simp only [pairsOfBlock, reduceCtorEq] at read
  · intro isBlock
    cases isBlock with
    | mapping entries => exact ⟨entries, rfl⟩
    | list pairs => exact (Attempt.exists_mapM_eq_ok_iff exists_pairOfItem_iff _).2 pairs
    | emptyText => exact ⟨[], rfl⟩

theorem pairsOfBlock_notBlock_iff (block : Datum) :
    pairsOfBlock block = .error .notBlock ↔ IsNoBlock block := by
  constructor
  · intro read
    cases block using pairsOfBlock.fun_cases with
    | case1 entries => cases read
    | case2 items =>
      exact .list ((Attempt.mapM_eq_error_iff exists_pairOfItem_iff pairOfItem_notBlock_iff items).1 read)
    | case3 => cases read
    | case4 text nonempty =>
      simp only [pairsOfBlock, nonempty, if_false] at read
      cases read
    | case5 block notMapping notList notText =>
      exact .bare (Datum.bare_of_ne notText notList notMapping)
  · intro isNoBlock
    cases isNoBlock with
    | bare bare => cases bare <;> rfl
    | list broken =>
      exact (Attempt.mapM_eq_error_iff exists_pairOfItem_iff pairOfItem_notBlock_iff _).2 broken

/-! ## Variables -/

/-- Variables among which something stands that is no block, all in front of it being blocks. -/
def BrokenBlocks (blocks : List Datum) : Prop :=
  Attempt.FirstBad IsBlock IsNoBlock blocks

theorem mergeBlocks_notBlock_iff (blocks : List Datum) :
    mergeBlocks blocks = .error .notBlock ↔ BrokenBlocks blocks := by
  rw [mergeBlocks, Attempt.bind_pure_eq_error_iff]
  exact Attempt.mapM_eq_error_iff exists_pairsOfBlock_iff pairsOfBlock_notBlock_iff blocks

theorem readVariables_notBlocks_iff (datum : Datum) :
    readVariables datum = .error .notBlocks ↔
      ∃ blocks, datum = .list blocks ∧ BrokenBlocks blocks := by
  constructor
  · intro failed
    cases datum using readVariables.fun_cases with
    | case1 entries => cases failed
    | case2 blocks pairs merged => simp only [readVariables, merged, reduceCtorEq] at failed
    | case3 blocks notPairs =>
      simp only [readVariables, notPairs] at failed
      cases failed
    | case4 blocks notBlock => exact ⟨blocks, rfl, (mergeBlocks_notBlock_iff blocks).1 notBlock⟩
    | case5 datum notMapping notList =>
      simp only [readVariables] at failed
      cases failed
  · rintro ⟨blocks, rfl, broken⟩
    simp only [readVariables, (mergeBlocks_notBlock_iff blocks).2 broken]

/-- Reading the variables breaks off only where they are not blocks. -/
theorem readVariablesField_eq_error_iff {entries : List (String × Datum)} {rejection : Rejection} :
    readVariablesField entries = .error rejection ↔ rejection = .notBlocks ∧
      ∃ blocks, entries.lookup "variables" = some (.list blocks) ∧ BrokenBlocks blocks := by
  constructor
  · intro failed
    unfold readVariablesField at failed
    split at failed
    · cases failed
    · rename_i datum given
      split at failed
      · cases failed
      · cases failed
      · rename_i notBlocks
        cases failed
        obtain ⟨blocks, rfl, broken⟩ := (readVariables_notBlocks_iff datum).1 notBlocks
        exact ⟨rfl, blocks, given, broken⟩
  · rintro ⟨rfl, blocks, given, broken⟩
    have notBlocks := (readVariables_notBlocks_iff (.list blocks)).2 ⟨blocks, rfl, broken⟩
    simp only [readVariablesField, given, notBlocks]

variable {reader : Reader}

/-- All problems are reported, unless reading the variables breaks off. -/
theorem ofEntries_notBlocks_iff (entries : List (Datum.Key × Datum)) :
    ofEntries reader entries = .error .notBlocks ↔ ∃ blocks,
      (Datum.fields entries).lookup "variables" = some (.list blocks) ∧ BrokenBlocks blocks := by
  rw [ofEntries, Attempt.bind_eq_error_iff, readVariablesField_eq_error_iff, or_iff_left]
  · rw [eq_self_iff_true, true_and]
  · rintro ⟨bindings, _, failed⟩
    dsimp only at failed
    split at failed
    · cases failed
    · cases failed

/-! ## Fields -/

/-- What holds of the value of a field, or without it. -/
def Given (entries : List (String × Datum)) (name : String) (present : Datum → Prop)
    (absent : Prop) : Prop :=
  match entries.lookup name with
  | some datum => present datum
  | none => absent

/-- Settings that are what the entries of a mapping give, and the defaults for the fields that are
missing.  There are no entries for anything else. -/
structure Validated (reader : Reader) (entries : List (Datum.Key × Datum)) (settings : Settings) :
    Prop where
  known : ∀ entry ∈ entries, ∃ name ∈ fieldNames, entry.1 = .text name
  root : Given (Datum.fields entries) "staging_root" (reader.text · = .ok settings.stagingRoot)
    (settings.stagingRoot = reader.temporaryDirectory)
  stem : Given (Datum.fields entries) "staging_prefix" (reader.text · = .ok settings.stagingStem)
    (settings.stagingStem = "depscript-")
  depth : Given (Datum.fields entries) "clone_depth" (reader.integer · = .ok settings.cloneDepth)
    (settings.cloneDepth = 1)
  shell : Given (Datum.fields entries) "shell" (reader.text · = .ok settings.shell)
    (settings.shell = "/bin/sh")
  bindings : Given (Datum.fields entries) "variables" (readVariables · = .ok settings.bindings)
    (settings.bindings = .empty)

theorem readField_eq_ok_iff {Value : Type} {entries : List (String × Datum)} {name : String}
    {read : Datum → Except Problem Value} {default value : Value} :
    readField entries name read default = .ok value ↔
      Given entries name (read · = .ok value) (value = default) := by
  unfold readField Given
  cases entries.lookup name with
  | none => exact ⟨fun same => (Except.ok.inj same).symm, fun same => same ▸ rfl⟩
  | some datum => exact Attempt.mapError_eq_ok_iff

theorem readText_eq_ok_iff {datum : Datum} {value : String} :
    readText reader datum = .ok value ↔ reader.text datum = .ok value :=
  Attempt.mapError_eq_ok_iff

theorem readDepth_eq_ok_iff {datum : Datum} {depth : Nat} (positive : 0 < depth) :
    readDepth reader datum = .ok ⟨depth, positive⟩ ↔ reader.integer datum = .ok depth := by
  rw [readDepth, Attempt.bind_eq_ok_iff]
  constructor
  · rintro ⟨number, found, read⟩
    rw [Attempt.mapError_eq_ok_iff] at found
    split at read
    · rename_i isPositive
      cases read
      have whole : ((number.toNat : Nat) : Int) = number := Int.toNat_of_nonneg (by omega)
      rw [found, whole]
    · cases read
  · intro found
    exact ⟨depth, Attempt.mapError_eq_ok_iff.2 found, dif_pos positive⟩

theorem readTextField_eq_ok_iff {entries : List (String × Datum)} {name default value : String} :
    readField entries name (readText reader) default = .ok value ↔
      Given entries name (reader.text · = .ok value) (value = default) := by
  simp only [readField_eq_ok_iff, readText_eq_ok_iff]

theorem readDepthField_eq_ok_iff {entries : List (String × Datum)} {name : String} {depth : Nat}
    (positive : 0 < depth) :
    readField entries name (readDepth reader) ⟨1, Nat.zero_lt_one⟩ = .ok ⟨depth, positive⟩ ↔
      Given entries name (reader.integer · = .ok depth) (depth = 1) := by
  simp only [readField_eq_ok_iff, readDepth_eq_ok_iff, Subtype.mk.injEq]

theorem readVariablesField_eq_ok_iff {entries : List (String × Datum)} {bindings : Bindings} :
    readVariablesField entries = .ok (.ok bindings) ↔
      Given entries "variables" (readVariables · = .ok bindings) (bindings = .empty) := by
  unfold readVariablesField Given
  cases entries.lookup "variables" with
  | none =>
    constructor
    · intro read
      cases read
      rfl
    · rintro rfl
      rfl
  | some datum =>
    cases found : readVariables datum with
    | ok table =>
      simp only [found, Except.ok.injEq]
    | error fault =>
      cases fault with
      | problem problem =>
        simp only [found]
        exact iff_of_false nofun nofun
      | notBlocks =>
        simp only [found]
        exact iff_of_false nofun nofun

theorem unknownField?_eq_none_iff {key : Datum.Key} :
    unknownField? key = none ↔ ∃ name ∈ fieldNames, key = .text name := by
  cases key with
  | text name =>
    simp only [unknownField?, ite_eq_left_iff, reduceCtorEq, imp_false, Classical.not_not,
      List.contains_iff_mem, Datum.Key.text.injEq, exists_eq_right']
  | _ => exact iff_of_false nofun nofun

theorem unknownFields_eq_nil_iff {entries : List (Datum.Key × Datum)} :
    unknownFields entries = [] ↔ ∀ entry ∈ entries, ∃ name ∈ fieldNames, entry.1 = .text name := by
  simp only [unknownFields, List.filterMap_eq_nil_iff, unknownField?_eq_none_iff]

/-- Entries give settings exactly if each of them is right. -/
theorem ofEntries_eq_ok_iff {entries : List (Datum.Key × Datum)} {settings : Settings} :
    ofEntries reader entries = .ok settings ↔ Validated reader entries settings := by
  constructor
  · intro read
    obtain ⟨table, bindings, read⟩ := Attempt.bind_eq_ok_iff.1 read
    dsimp only at read
    split at read
    · rename_i _ _ depth _ _ root stem found shell unknown
      cases read
      exact {
        known := unknownFields_eq_nil_iff.1 unknown
        root := readTextField_eq_ok_iff.1 root
        stem := readTextField_eq_ok_iff.1 stem
        depth := (readDepthField_eq_ok_iff depth.property).1 found
        shell := readTextField_eq_ok_iff.1 shell
        bindings := readVariablesField_eq_ok_iff.1 bindings }
    · cases read
  · intro validated
    have root := readTextField_eq_ok_iff.2 validated.root
    have stem := readTextField_eq_ok_iff.2 validated.stem
    have depth := (readDepthField_eq_ok_iff settings.cloneDepth_pos).2 validated.depth
    have shell := readTextField_eq_ok_iff.2 validated.shell
    have bindings := readVariablesField_eq_ok_iff.2 validated.bindings
    have unknown := unknownFields_eq_nil_iff.2 validated.known
    simp only [ofEntries, root, stem, depth, shell, bindings, unknown, bind, Except.bind]
    rfl

/-! ## Documents -/

theorem ofDatum_eq_ok_iff {datum : Datum} {settings : Settings} :
    ofDatum reader datum = .ok settings ↔
      ∃ entries, datum = .mapping entries ∧ Validated reader entries settings := by
  constructor
  · intro read
    cases datum with
    | mapping entries => exact ⟨entries, rfl, ofEntries_eq_ok_iff.1 read⟩
    | _ => cases read
  · rintro ⟨entries, rfl, validated⟩
    exact ofEntries_eq_ok_iff.2 validated

theorem ofDatum_notBlocks_iff {datum : Datum} :
    ofDatum reader datum = .error .notBlocks ↔ ∃ entries blocks, datum = .mapping entries ∧
      (Datum.fields entries).lookup "variables" = some (.list blocks) ∧ BrokenBlocks blocks := by
  constructor
  · intro broken
    cases datum with
    | mapping entries =>
      obtain ⟨blocks, given, broken⟩ := (ofEntries_notBlocks_iff entries).1 broken
      exact ⟨entries, blocks, rfl, given, broken⟩
    | _ => cases broken
  · rintro ⟨entries, blocks, rfl, given, broken⟩
    exact (ofEntries_notBlocks_iff entries).2 ⟨blocks, given, broken⟩

/-- A text whose document has variables that are a list in which something stands that is no block. -/
def Unmergeable (reader : Reader) (text : String) : Prop :=
  ∃ entries blocks, reader.document text = .ok (.mapping entries) ∧
    (Datum.fields entries).lookup "variables" = some (.list blocks) ∧ BrokenBlocks blocks

/-! ## Answers -/

/-- An attempt to read settings from a source gives them, or fails with a fault in them. -/
def Answers (source : String) (attempt : Except Loading.Failure Settings) : Prop :=
  (∃ settings, attempt = .ok settings) ∨ ∃ fault, attempt = .error (.settings source fault)

theorem not_answers_escape {source : String} {escape : Loading.Escape} :
    ¬ Answers source (.error (.escape escape)) := by
  rintro (⟨_, found⟩ | ⟨_, found⟩) <;> cases found

variable {text source : String}

/-- A text gives the settings of a document without problems. -/
theorem parse_eq_ok_iff {settings : Settings} :
    parse reader text source = .ok settings ↔ ∃ entries,
      reader.document text = .ok (.mapping entries) ∧ Validated reader entries settings := by
  unfold parse
  cases reader.document text with
  | error error =>
    refine iff_of_false nofun ?_
    rintro ⟨_, found, _⟩
    cases found
  | ok datum =>
    dsimp only
    rw [Attempt.mapError_eq_ok_iff, ofDatum_eq_ok_iff]
    simp only [Except.ok.injEq]

theorem parse_of_unmergeable (unmergeable : Unmergeable reader text) :
    parse reader text source = .error (.escape .notBlocks) := by
  obtain ⟨entries, blocks, means, given, broken⟩ := unmergeable
  have rejected : ofDatum reader (.mapping entries) = .error .notBlocks :=
    ofDatum_notBlocks_iff.2 ⟨entries, blocks, rfl, given, broken⟩
  simp only [parse, means]
  exact Attempt.mapError_eq_error_iff.2 ⟨_, rejected, rfl⟩

/-- A text is answered unless its variables are no blocks. -/
theorem parse_answers_iff : Answers source (parse reader text source) ↔ ¬ Unmergeable reader text := by
  constructor
  · intro answers unmergeable
    rw [parse_of_unmergeable unmergeable] at answers
    exact not_answers_escape answers
  · intro mergeable
    unfold parse
    cases means : reader.document text with
    | error error => exact Or.inr ⟨_, rfl⟩
    | ok datum =>
      cases read : ofDatum reader datum with
      | ok settings => exact Or.inl ⟨settings, Attempt.mapError_eq_ok_iff.2 read⟩
      | error rejection =>
        cases rejection with
        | problems problems =>
          exact Or.inr ⟨_, Attempt.mapError_eq_error_iff.2 ⟨_, read, rfl⟩⟩
        | notBlocks =>
          obtain ⟨entries, blocks, rfl, given, broken⟩ := ofDatum_notBlocks_iff.1 read
          exact absurd ⟨entries, blocks, means, given, broken⟩ mergeable

/-! ## Files -/

/-- Where loading settings is broken off: at a path that is none, a file whose bytes encode no text,
and a text whose variables are no blocks. -/
inductive Escapes (reader : Reader) : Entry → Prop
  | malformedPath : Escapes reader .malformedPath
  | undecodable {content : List UInt8} (foreign : ∀ text, content ≠ encoded text) :
      Escapes reader (.file content)
  | unmergeable {entry : Entry} {text : String} (holds : entry.Holds text)
      (unmergeable : Unmergeable reader text) : Escapes reader entry

variable {look : String → Entry} {file : String}

theorem load_of_holds (holds : (look (Path.tidy file)).Holds text) :
    load reader look file = parse reader text (Path.tidy file) := by
  simp only [load, Entry.text_eq_ok_iff.2 holds]

theorem load_of_withholds {reason : Unreadable}
    (withholds : (look (Path.tidy file)).Withholds reason) :
    load reader look file = .error (failureOf (Path.tidy file) reason) := by
  simp only [load, Entry.text_eq_error_iff.2 withholds]

/-- A file gives the settings of the text that it holds. -/
theorem load_eq_ok_iff {settings : Settings} :
    load reader look file = .ok settings ↔ ∃ text entries, (look (Path.tidy file)).Holds text ∧
      reader.document text = .ok (.mapping entries) ∧ Validated reader entries settings := by
  constructor
  · intro loaded
    rcases (look (Path.tidy file)).holds_or_withholds with ⟨text, holds⟩ | ⟨reason, withholds⟩
    · rw [load_of_holds holds, parse_eq_ok_iff] at loaded
      obtain ⟨entries, means, validated⟩ := loaded
      exact ⟨text, entries, holds, means, validated⟩
    · rw [load_of_withholds withholds] at loaded
      cases loaded
  · rintro ⟨text, entries, holds, means, validated⟩
    rw [load_of_holds holds, parse_eq_ok_iff]
    exact ⟨entries, means, validated⟩

/-- A file is answered unless loading it is broken off. -/
theorem load_answers_iff :
    Answers (Path.tidy file) (load reader look file) ↔ ¬ Escapes reader (look (Path.tidy file)) := by
  rcases (look (Path.tidy file)).holds_or_withholds with ⟨text, holds⟩ | ⟨reason, withholds⟩
  · rw [load_of_holds holds, parse_answers_iff]
    refine not_congr ⟨.unmergeable holds, fun escapes => ?_⟩
    generalize look (Path.tidy file) = entry at holds escapes
    cases escapes with
    | malformedPath => exact absurd holds (Entry.Withholds.malformedPath.not_holds text)
    | undecodable foreign => exact absurd holds ((Entry.Withholds.undecodable foreign).not_holds text)
    | unmergeable other unmergeable => exact other.unique holds ▸ unmergeable
  · rw [load_of_withholds withholds]
    have unheld := withholds.not_holds
    generalize look (Path.tidy file) = entry at withholds unheld
    cases withholds with
    | malformedPath => exact iff_of_false not_answers_escape (not_not_intro .malformedPath)
    | undecodable foreign =>
      exact iff_of_false not_answers_escape (not_not_intro (.undecodable foreign))
    | _ =>
      refine iff_of_true (Or.inr ⟨_, rfl⟩) fun escapes => ?_
      cases escapes with
      | unmergeable holds _ => exact unheld _ holds

end Settings

/-! ## The command line -/

/-- Without a log a failure is said in one message. -/
theorem Outcome.messages_failed {failure : Loading.Failure} {message : String}
    (said : failure.message? = some message) : (failed failure []).messages = line message := by
  simp [messages, log, complaint?, said]

namespace Invocation

/-- A failure to load the settings that were asked for is what is said, whatever the script. -/
theorem outcome_of_unset {asked : Invocation} {world : World} {config : String}
    {failure : Loading.Failure} {presets definitions : Bindings}
    (files : (asked.script :: asked.config.toList).all fun file => (world.look file).isFile)
    (given : definitions? asked.presets = some presets)
    (defined : definitions? asked.definitions = some definitions)
    (configured : asked.config = some config)
    (failed : Settings.load world.reader world.look config = .error failure) :
    asked.outcome world = .failed failure [] := by
  have unset : asked.settings world = .error failure := by
    rw [settings, configured]
    exact failed
  rw [outcome_of_defined given defined, if_pos files]
  exact perform_of_unset unset

end Invocation

namespace Settings

/-- A text and a file give settings, those of a document without problems, or a fault in them, unless
reading breaks off: in a text at variables that are no blocks, in a file also where its path is none
or its bytes encode no text.  On the command line a fault is said in one message, nothing is started
and the status is one. -/
theorem settles_iff (reader : Reader) (look : String → Entry) (file text source : String) :
    (Answers source (parse reader text source) ↔ ¬ Unmergeable reader text) ∧
    (Answers (Path.tidy file) (load reader look file) ↔
      ¬ Escapes reader (look (Path.tidy file))) ∧
    (∀ settings, parse reader text source = .ok settings ↔ ∃ entries,
      reader.document text = .ok (.mapping entries) ∧ Validated reader entries settings) ∧
    (∀ settings, load reader look file = .ok settings ↔ ∃ text entries,
      (look (Path.tidy file)).Holds text ∧ reader.document text = .ok (.mapping entries) ∧
        Validated reader entries settings) ∧
    (∀ (asked : Invocation) (world : World) (fault : Fault) (presets definitions : Bindings),
      world.reader = reader → world.look = look → asked.config = some file →
      ((asked.script :: asked.config.toList).all fun path => (look path).isFile) →
      definitions? asked.presets = some presets →
      definitions? asked.definitions = some definitions →
      load reader look file = .error (.settings (Path.tidy file) fault) →
        (asked.outcome world).status = 1 ∧ (asked.outcome world).starts = [] ∧
          (asked.outcome world).output = "" ∧ (asked.outcome world).messages =
            Outcome.line (Path.tidy file ++ ": " ++ fault.message (Path.tidy file))) := by
  refine ⟨parse_answers_iff, load_answers_iff, fun _ => parse_eq_ok_iff, fun _ => load_eq_ok_iff, ?_⟩
  rintro asked world fault presets definitions rfl rfl configured files given defined failed
  rw [Invocation.outcome_of_unset files given defined configured failed]
  exact ⟨rfl, rfl, rfl, Outcome.messages_failed rfl⟩

/-- A directory in the place of settings, and settings with a stray character. -/
theorem settles_iff_stray :
    Answers "s.hcl" (load (.standard "/tmp") (fun _ => .directory) "s.hcl") ∧
    load (.standard "/tmp") (fun _ => .file (encoded ['?'])) "c" =
      .error (.settings "c" (.illFormed ⟨"syntax", "ill-formed document"⟩)) ∧
    (Invocation.outcome ⟨.compile, "s", some "c", [], [], false, false, false⟩
      ⟨fun _ => .file (encoded ['?']), "/w", id, [], .standard "/tmp", .standard, 0⟩).messages =
        Outcome.line "c: ill-formed document" := by
  refine ⟨?_, ?_⟩
  · refine (settles_iff (.standard "/tmp") (fun _ => .directory) "s.hcl" "" "").2.1.2 fun escapes => ?_
    cases escapes with
    | unmergeable holds _ => cases holds
  · have illFormed : (Reader.standard "/tmp").document "?" =
        .error ⟨"syntax", "ill-formed document"⟩ := by
      decide +kernel
    have failed : load (.standard "/tmp") (fun _ => .file (encoded ['?'])) "c" =
        .error (.settings "c" (.illFormed ⟨"syntax", "ill-formed document"⟩)) := by
      rw [load_of_holds (.file ['?'])]
      show parse (.standard "/tmp") "?" "c" = _
      rw [parse, illFormed]
    have said := (settles_iff (.standard "/tmp") (fun _ => .file (encoded ['?'])) "c" "" "").2.2.2.2
      ⟨.compile, "s", some "c", [], [], false, false, false⟩
      ⟨fun _ => .file (encoded ['?']), "/w", id, [], .standard "/tmp", .standard, 0⟩ _ .empty .empty
      rfl rfl rfl rfl rfl rfl failed
    exact ⟨failed, said.2.2.2⟩

/-- A file that is no text, and a list that holds a number. -/
theorem exists_not_settled :
    load (.standard "/tmp") (fun _ => .file [0xff]) "s.hcl" =
      .error (.escape (.undecodable [0xff])) ∧
    ¬ Answers "s.hcl" (load (.standard "/tmp") (fun _ => .file [0xff]) "s.hcl") ∧
    parse (.standard "/tmp") "variables = [1]" "<settings>" = .error (.escape .notBlocks) ∧
    ¬ Answers "<settings>" (parse (.standard "/tmp") "variables = [1]" "<settings>") := by
  have unreadable : load (.standard "/tmp") (fun _ => .file [0xff]) "s.hcl" =
      .error (.escape (.undecodable [0xff])) := by
    rfl
  have rejected : parse (.standard "/tmp") "variables = [1]" "<settings>" =
      .error (.escape .notBlocks) := by
    decide +kernel
  refine ⟨unreadable, ?_, rejected, ?_⟩
  · rw [unreadable]
    exact not_answers_escape
  · rw [rejected]
    exact not_answers_escape

end Settings

end SetupScript
