import Mathlib.Logic.Relation
import SetupScript.Proofs.Diagnosis
import SetupScript.Proofs.Overriding
import SetupScript.Proofs.Staging
import SetupScript.Proofs.Steps
import SetupScript.Proofs.Substitution

/-!
# Assignments

No value of a table comes to hold an equals sign if none does at the start and no staging path
brings one in.  A session changes by elementary changes (`Session.Moves`), each of which keeps the
values clear of the sign (`Session.Moves.clear`), and whatever is asked of a session, it changes in
no other way (`Session.proceeds_compile`).  Hence the literal of a set that has one sign, outside of
its references, is cut in two whatever the references are bound to
(`Declaration.Assigns.exists_parts`), and no script halts at it (`Script.Halts.not_assigns`).
-/

namespace SetupScript

/-! ## Clear values -/

/-- No value of the table holds an equals sign. -/
def Bindings.Clear (bindings : Bindings) : Prop :=
  ∀ name value, bindings.get? name = some value → '=' ∉ value.toList

theorem Bindings.Clear.insert {bindings : Bindings} (clear : bindings.Clear) (name : String)
    {value : String} (absent : '=' ∉ value.toList) : (bindings.insert name value).Clear := by
  intro wanted found bound
  rw [get?_insert] at bound
  split at bound
  · cases bound
    exact absent
  · exact clear wanted found bound

theorem Bindings.Clear.overriddenBy {first second : Bindings} (clear : first.Clear)
    (otherClear : second.Clear) : (first.overriddenBy second).Clear := by
  intro name value bound
  rw [get?_overriddenBy, Option.or_eq_some_iff] at bound
  rcases bound with bound | ⟨_, bound⟩
  · exact otherClear name value bound
  · exact clear name value bound

/-- What staging paths are made of holds no equals sign. -/
structure Settings.ClearPaths (settings : Settings) : Prop where
  root : '=' ∉ settings.stagingRoot.toList
  stem : '=' ∉ settings.stagingStem.toList

/-- Neither the values bound from the start nor what staging paths are made of hold an equals
sign. -/
structure Script.Surroundings.Clear (around : Surroundings) : Prop where
  bindings : around.settings.bindings.Clear
  presets : around.presets.Clear
  paths : around.settings.ClearPaths

theorem Path.equalsSign_notMem_join {base path : String} (absent : '=' ∉ base.toList)
    (alsoAbsent : '=' ∉ path.toList) : '=' ∉ (join base path).toList := by
  unfold join
  split
  · exact alsoAbsent
  · split
    · simp [absent, alsoAbsent]
    · simp [absent, alsoAbsent]

theorem Settings.ClearPaths.equalsSign_notMem {settings : Settings} (paths : settings.ClearPaths)
    (draw : Nat) : '=' ∉ (settings.stagingPath draw).toList := by
  refine Path.equalsSign_notMem_join paths.root fun member => ?_
  rw [String.toList_append, List.mem_append] at member
  rcases member with inStem | inNumber
  · exact paths.stem inStem
  · exact absurd (Text.isDigit_of_mem_toString inNumber) (by decide)

/-! ## Literals that are cut in two -/

/-- A text with one equals sign, which stands outside of its references. -/
def Declaration.Assigns (text : String) : Prop :=
  text.toList.count '=' = 1 ∧ .plain '=' ∈ Reference.pieces text.toList

instance Declaration.decidableAssigns (text : String) : Decidable (Assigns text) :=
  inferInstanceAs (Decidable (_ ∧ _))

section Literals

variable {bindings : Bindings}

/-- Where clear values are put in place of references, no sign comes in. -/
theorem Reference.equalsSign_notMem_value (clear : bindings.Clear) {pieces : List Piece}
    (absent : '=' ∉ pieces.flatMap Piece.source) :
    '=' ∉ pieces.flatMap (Piece.value bindings) := by
  rw [List.mem_flatMap] at absent ⊢
  rintro ⟨piece, member, inValue⟩
  refine absent ⟨piece, member, ?_⟩
  cases piece with
  | plain character => exact inValue
  | reference name =>
    rw [Piece.value] at inValue
    split at inValue
    · rename_i value bound
      exact absurd inValue (clear _ value bound)
    · exact inValue

/-- A text with one sign outside of its references keeps that one when it is resolved. -/
theorem Declaration.Assigns.count_resolve {text : String} (assigns : Assigns text)
    (clear : bindings.Clear) : (Reference.resolve bindings text).toList.count '=' = 1 := by
  obtain ⟨one, outside⟩ := assigns
  obtain ⟨front, behind, whole⟩ := List.append_of_mem outside
  have spelled : text.toList = front.flatMap Reference.Piece.source ++
      '=' :: behind.flatMap Reference.Piece.source := by
    rw [← Reference.flatMap_source_pieces text.toList, whole, List.flatMap_append,
      List.flatMap_cons]
    rfl
  rw [spelled, List.count_append, List.count_cons_self] at one
  have inFront := Reference.equalsSign_notMem_value clear
    (List.count_eq_zero.1 (show (front.flatMap _).count '=' = 0 by omega))
  have alsoBehind := Reference.equalsSign_notMem_value clear
    (List.count_eq_zero.1 (show (behind.flatMap _).count '=' = 0 by omega))
  have resolved : (Reference.resolve bindings text).toList =
      front.flatMap (Reference.Piece.value bindings) ++
        '=' :: behind.flatMap (Reference.Piece.value bindings) := by
    rw [Reference.resolve_eq_substitute, String.toList_ofList, Reference.substitute, whole,
      List.flatMap_append, List.flatMap_cons]
    rfl
  rw [resolved, List.count_append, List.count_cons_self, List.count_eq_zero.2 inFront,
    List.count_eq_zero.2 alsoBehind]

/-- Where values are clear, a text with one sign outside of its references is cut in two. -/
theorem Declaration.Assigns.exists_parts {text : String} (assigns : Assigns text)
    (clear : bindings.Clear) :
    ∃ name value, Parts '=' (Reference.resolve bindings text) name value :=
  exists_parts_of_count (assigns.count_resolve clear)

end Literals

/-! ## Scripts -/

section Scripts

variable {around : Script.Surroundings} {ledger : Ledger}

/-- Values stay clear behind a declaration. -/
theorem Declaration.Means.clear {declaration : Declaration} {last : Ledger}
    (means : declaration.Means around ledger last) (paths : around.settings.ClearPaths)
    (clear : ledger.bindings.Clear) : last.bindings.Clear := by
  cases means with
  | run | extract | clone => exact clear
  | set parts => exact clear.insert _ parts.2.2
  | cloneAs location staged =>
    subst staged
    exact clear.insert _ (paths.equalsSign_notMem _)

/-- A script that halts for the parts of an assignment halts at the literal of a set, and this is
not one with a single sign outside of its references. -/
theorem Script.Halts.not_assigns {tokens : List Token} {index : Nat} {fault : Diagnostic.Fault}
    {count : Nat} (halts : Script.Halts around ledger tokens index fault)
    (counted : fault = .argumentCount .assignment count) (paths : around.settings.ClearPaths)
    (clear : ledger.bindings.Clear) :
    ∃ before keyword literal after, tokens = before ++ keyword :: literal :: after ∧
      index = before.length + 1 ∧ keyword.kind = .set ∧ literal.kind = .string ∧
      ¬ Declaration.Assigns literal.text := by
  induction halts with
  | here blocks =>
    cases blocks with
    | @parts keyword literal rest _ form cuts isString uncut =>
      cases counted
      refine ⟨[], keyword, literal, rest, rfl, rfl, cuts, isString, fun assigns => ?_⟩
      obtain ⟨name, value, parts⟩ := assigns.exists_parts clear
      exact Declaration.not_parts_of_error uncut parts
    | _ => cases counted
  | @later declaration _ _ taken separator _ _ _ leads means others ih =>
    obtain ⟨before, keyword, literal, after, rfl, rfl, rest⟩ := ih counted (means.clear paths clear)
    refine ⟨taken ++ (separator ++ before), keyword, literal, after, ?_, ?_, rest⟩
    · rw [List.append_assoc, List.append_assoc]
    · rw [List.length_append, List.length_append, List.length_append]
      omega

end Scripts

namespace Session

/-! ## Elementary changes -/

/-- An elementary change of a session: another cursor, a number that is drawn, a command more, a
name that is bound to the path of a number, or one that is bound as a resolved text says. -/
inductive Moves (session : Session) : Session → Prop
  | turn (cursor : Cursor) : Moves session (session.withCursor cursor)
  | draw : Moves session { session with drawn := session.drawn + 1 }
  | emit (command : String) :
      Moves session { session with commands := session.commands ++ [command] }
  | stage (name : String) (index : Nat) :
      Moves session { session with
        bindings := session.bindings.insert name
          (session.settings.stagingPath (session.draws index)) }
  | assign {argument name value : String}
      (parts : Declaration.Parts '=' (Reference.resolve session.bindings argument) name value) :
      Moves session { session with bindings := session.bindings.insert name value }

/-- A session comes to another one by elementary changes.  No text leads to all of these sessions: a
cursor may be any, and so may a command. -/
def Reaches : Session → Session → Prop :=
  Relation.ReflTransGen Moves

/-- A session whose values are clear and whose staging paths will be. -/
structure Clear (session : Session) : Prop where
  bindings : session.bindings.Clear
  paths : session.settings.ClearPaths

variable {session next : Session}

/-- Values stay clear in every elementary change. -/
theorem Moves.clear (moves : session.Moves next) (clear : session.Clear) : next.Clear := by
  obtain ⟨bindings, paths⟩ := clear
  cases moves with
  | turn | draw | emit => exact ⟨bindings, paths⟩
  | stage name index => exact ⟨bindings.insert name (paths.equalsSign_notMem _), paths⟩
  | assign parts => exact ⟨bindings.insert _ parts.2.2, paths⟩

theorem Reaches.clear (reaches : session.Reaches next) (clear : session.Clear) : next.Clear := by
  induction reaches with
  | refl => exact clear
  | tail _ moves ih => exact moves.clear ih

theorem clear_ofText {text filename : String} {around : Script.Surroundings}
    (clear : around.Clear) : (ofText text filename around).Clear :=
  ⟨clear.bindings.overriddenBy clear.presets, clear.paths⟩

/-! ## Sets -/

/-- Where values are clear, a literal with one sign outside of its references is set. -/
theorem exists_run_set {literal : Token} (assigns : Declaration.Assigns literal.text)
    (clear : session.bindings.Clear) :
    ∃ reached, (set literal).run session = (.ok (), reached) := by
  obtain ⟨name, value, parts⟩ := assigns.exists_parts clear
  obtain ⟨cursor, cut⟩ := exists_run_twoParts_of_parts .assignment parts
  exact ⟨_, Procedure.run_bind_of_ok cut⟩

/-! ## Steps -/

/-- A step changes the session by elementary changes alone. -/
def Proceeds {Result : Type} (step : Step Result) (session : Session) : Prop :=
  session.Reaches (step.run session).2

section Steps

variable {Result Next : Type}

theorem Proceeds.bind {first : Step Result} {second : Result → Step Next}
    (proceeds : Proceeds first session)
    (others : ∀ result reached, first.run session = (.ok result, reached) →
      Proceeds (second result) reached) : Proceeds (first >>= second) session := by
  rw [Proceeds] at proceeds ⊢
  rcases first.run_cases session with ⟨result, middle, ran⟩ | ⟨diagnostic, reached, ran⟩
  · rw [ran] at proceeds
    rw [Procedure.run_bind_of_ok ran]
    exact proceeds.trans (others result middle ran)
  · rw [ran] at proceeds
    rw [Procedure.run_bind_of_error ran]
    exact proceeds

theorem proceeds_pure (result : Result) (session : Session) : Proceeds (pure result) session :=
  .refl

theorem proceeds_look (session : Session) : Proceeds Procedure.look session :=
  .refl

theorem proceeds_reading (procedure : Procedure Cursor Diagnostic Result) (session : Session) :
    Proceeds (reading procedure) session :=
  .single (.turn _)

theorem proceeds_note (notice : Notice) (session : Session) : Proceeds (note notice) session :=
  .single (.turn _)

theorem proceeds_emit (command : String) (session : Session) : Proceeds (emit command) session :=
  .single (.emit command)

/-! ## Declarations -/

theorem proceeds_bindClone (index : Nat) (session : Session) :
    Proceeds (bindClone (session.settings.stagingPath (session.draws index))) session := by
  refine (proceeds_reading _ session).bind fun named reached asked => ?_
  obtain ⟨cursor, _, rfl⟩ := run_reading_eq_iff.1 asked
  split
  · refine (proceeds_reading _ _).bind fun name after expected => ?_
    obtain ⟨last, _, rfl⟩ := run_reading_eq_iff.1 expected
    refine (proceeds_note _ _).bind fun _ noted step => ?_
    cases step
    exact .single (.stage name.text index)
  · exact proceeds_pure _ _

theorem proceeds_clone (literal : Token) (session : Session) :
    Proceeds (clone literal) session := by
  have drawing : Proceeds drawStagingPath session := .single .draw
  refine drawing.bind fun path reached drawn => ?_
  cases drawn
  refine (proceeds_bindClone session.drawn { session with drawn := session.drawn + 1 }).bind
    fun _ bound _ => ?_
  refine (proceeds_note _ bound).bind fun _ noted _ => ?_
  exact (proceeds_look noted).bind fun _ last _ => proceeds_emit _ last

theorem proceeds_substitute (text : String) (session : Session) :
    Proceeds (substitute text) session :=
  .single (.turn _)

theorem proceeds_twoParts (form : Diagnostic.Form) (literal : Token) (session : Session) :
    Proceeds (twoParts form literal) session := by
  refine (proceeds_substitute literal.text session).bind fun text reached _ => ?_
  split
  · exact proceeds_pure _ reached
  · exact (proceeds_look reached).bind fun _ _ step => by
      cases step
      exact .refl

theorem proceeds_run (literal : Token) (session : Session) : Proceeds (run literal) session :=
  (proceeds_substitute literal.text session).bind fun command reached _ =>
    (proceeds_note _ reached).bind fun _ noted _ => proceeds_emit command noted

theorem proceeds_extract (literal : Token) (session : Session) :
    Proceeds (extract literal) session :=
  (proceeds_twoParts .spaced literal session).bind fun _ reached _ =>
    (proceeds_look reached).bind fun _ looked _ =>
      (proceeds_note _ looked).bind fun _ noted _ => proceeds_emit _ noted

theorem proceeds_set (literal : Token) (session : Session) : Proceeds (set literal) session := by
  refine (proceeds_twoParts .assignment literal session).bind fun parts reached cut => ?_
  obtain ⟨cuts, cursor, _, rfl⟩ := parts_of_twoParts cut
  refine (proceeds_note _ _).bind fun _ noted step => ?_
  cases step
  exact .single (.assign cuts)

theorem proceeds_declaration (kind : Token.Kind) (session : Session) :
    Proceeds (declaration kind) session := by
  refine (proceeds_reading argumentToken session).bind fun literal reached _ => ?_
  cases kind with
  | clone => exact proceeds_clone literal reached
  | run => exact proceeds_run literal reached
  | extract => exact proceeds_extract literal reached
  | set => exact proceeds_set literal reached
  | _ => exact proceeds_pure () reached

/-! ## Runs -/

theorem proceeds_separator (session : Session) : Proceeds separator session :=
  (proceeds_reading _ session).bind fun _ reached _ => proceeds_pure () reached

theorem proceeds_declaration? (session : Session) : Proceeds declaration? session := by
  refine (proceeds_reading Cursor.peekKind session).bind fun kind reached _ => ?_
  split
  · exact (proceeds_declaration kind reached).bind fun _ after _ =>
      (proceeds_separator after).bind fun _ last _ => proceeds_pure true last
  · exact proceeds_pure false reached

theorem proceeds_declarations (session : Session) : Proceeds ⟨declarations⟩ session := by
  generalize measured : session.pending = measure
  induction measure using Nat.strong_induction_on generalizing session with
  | _ measure ih =>
    subst measured
    rw [declarations_eq]
    refine (proceeds_declaration? session).bind fun again reached step => ?_
    cases again with
    | true => exact ih _ (pending_lt_of_declaration? step) reached rfl
    | false => exact proceeds_pure () reached

theorem proceeds_prime (session : Session) : Proceeds prime session := by
  have unpriming := proceeds_reading (.change fun cursor =>
    .unprimed cursor.filename cursor.scanner cursor.notices) session
  exact unpriming.bind fun _ unprimed _ =>
    (proceeds_reading _ unprimed).bind fun _ reached _ => proceeds_pure () reached

/-- A whole compilation changes the session by elementary changes alone. -/
theorem proceeds_compile (session : Session) : Proceeds compile session := by
  refine (proceeds_prime session).bind fun _ primed _ => ?_
  refine (proceeds_declarations primed).bind fun _ done _ => ?_
  refine (proceeds_separator done).bind fun _ separated _ => ?_
  refine (proceeds_reading _ separated).bind fun _ ended _ => ?_
  refine (proceeds_look ended).bind fun _ looked _ => ?_
  exact (proceeds_note _ looked).bind fun _ noted _ => proceeds_pure _ noted

end Steps

/-! ## Reachable sessions -/

/-- In surroundings without equals signs, no session that is reached from a text has a value with
one, whatever was asked of it and however that ended.  What a set binds holds none either, neither
the name nor the value; a set whose literal has one sign, outside of its references, is carried out;
and where a call fails for the parts of an assignment, it stands at the literal of a set that is not
such a one. -/
theorem values_clear {text filename : String} {around : Script.Surroundings} (clear : around.Clear)
    {session : Session} (reached : (ofText text filename around).Reaches session) :
    ((ofText text filename around).Reaches (prime.run session).2 ∧
      (ofText text filename around).Reaches (declaration?.run session).2 ∧
      (ofText text filename around).Reaches (compile.run session).2) ∧
    (∀ name value, session.bindings.get? name = some value → '=' ∉ value.toList) ∧
    (∀ literal after, (set literal).run session = (.ok (), after) →
      ∃ name value, after.bindings = session.bindings.insert name value ∧
        '=' ∉ name.toList ∧ '=' ∉ value.toList) ∧
    (∀ literal middle, argument.run session = (.ok literal, middle) →
      Declaration.Assigns literal.text →
        ∃ after, (declaration .set).run session = (.ok (), after)) ∧
    ∀ diagnostic count, (compile.run session).1 = .error diagnostic →
      diagnostic.fault = .argumentCount .assignment count →
        ∃ before keyword literal after,
          Token.significant session.cursor.scanner.run.1 =
            before ++ keyword :: literal :: after ∧
          keyword.kind = .set ∧ literal.kind = .string ∧
          diagnostic.position = literal.position ∧ ¬ Declaration.Assigns literal.text := by
  obtain ⟨bindings, paths⟩ := reached.clear (clear_ofText clear)
  refine ⟨⟨reached.trans (proceeds_prime session), reached.trans (proceeds_declaration? session),
    reached.trans (proceeds_compile session)⟩, bindings, fun literal after step => ?_,
    fun literal middle taken assigns => ?_, fun diagnostic count failed counted => ?_⟩
  · obtain ⟨name, value, cursor, parts, _, rfl⟩ := reads_of_set step
    exact ⟨name, value, rfl, parts.2.1, parts.2.2⟩
  · obtain ⟨cursor, _, rfl⟩ := run_reading_eq_iff.1 taken
    rw [declaration, Procedure.run_bind_of_ok taken]
    exact exists_run_set assigns bindings
  · have within : session.Within
        ⟨session.settings, .empty, session.workingDirectory, session.draws⟩ := ⟨rfl, rfl, rfl⟩
    rcases explains_of_compile within failed with
      ⟨error, _, rfl⟩ | ⟨index, token, fault, halts, found, rfl⟩
    · cases counted
    · obtain ⟨before, keyword, literal, after, whole, rfl, isSet, isString, notAssigns⟩ :=
        halts.not_assigns counted paths bindings
      rw [whole, List.getElem?_append_right (Nat.le_add_right _ _),
        Nat.add_sub_cancel_left] at found
      obtain rfl : literal = token := Option.some.inj found
      exact ⟨before, keyword, literal, after, whole, isSet, isString, rfl, notAssigns⟩

/-- A value with a staging path in it, and a literal that brings in a second sign. -/
theorem values_clear_refused :
    ∃ session, (ofText "clone \"h\" as \"P\"; set \"X=$[P]$[Q]\"; set \"A=$[X]=\"" "f"
        ⟨.standard "/tmp", Bindings.empty.insert "Q" "/q", "/w", id⟩).Reaches session ∧
      (compile.run (ofText "clone \"h\" as \"P\"; set \"X=$[P]$[Q]\"; set \"A=$[X]=\"" "f"
        ⟨.standard "/tmp", Bindings.empty.insert "Q" "/q", "/w", id⟩)).1 =
          .error ⟨"f", ⟨1, 41⟩, .argumentCount .assignment 3⟩ ∧
      session.bindings.entries =
        [("Q", "/q"), ("P", "/tmp/depscript-0"), ("X", "/tmp/depscript-0/q")] ∧
      (∀ name value, session.bindings.get? name = some value → '=' ∉ value.toList) ∧
      Declaration.Assigns "X=$[P]$[Q]" ∧ ¬ Declaration.Assigns "A=$[X]=" := by
  have clear : (⟨.standard "/tmp", Bindings.empty.insert "Q" "/q", "/w", id⟩ :
      Script.Surroundings).Clear := by
    have nothing : Bindings.empty.Clear := fun _ _ bound => by cases bound
    exact ⟨nothing, nothing.insert "Q" (by decide), by decide, by decide⟩
  refine ⟨_, proceeds_compile _, ?_, ?_,
    (values_clear clear (proceeds_compile _)).2.1, by decide +kernel, by decide +kernel⟩
  · with_unfolding_all rfl
  · with_unfolding_all rfl

end Session

end SetupScript
