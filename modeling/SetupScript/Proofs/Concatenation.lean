import SetupScript.Proofs.Continuation
import SetupScript.Proofs.Overriding
import SetupScript.Proofs.Relocation

/-!
# Concatenation

Scripts one behind the other.  The tokens of two texts with a line feed between them are those of
the first without its final one, and those of the second moved to another place
(`exists_tokenize_append`).  If all semicolons of the first script stand behind declarations, the
second is compiled as if it started from the table and the draws that the first one leaves
(`Script.compile_append`).
-/

namespace SetupScript

/-! ## Layouts one behind the other -/

namespace Layout

variable {alphabet : Alphabet}

theorem blank_lineFeed : ∀ character ∈ ['\n'], character ∈ gapCharacters :=
  List.forall_mem_singleton.2 (List.mem_of_getLast? rfl)

/-- A layout with a longer gap at its start. -/
def indent (gap : List Char) (blank : ∀ character ∈ gap, character ∈ gapCharacters) :
    Layout alphabet → Layout alphabet
  | closing own ownBlank => closing (gap ++ own) (List.forall_mem_append.2 ⟨blank, ownBlank⟩)
  | block own ownBlank lexeme rest =>
    block (gap ++ own) (List.forall_mem_append.2 ⟨blank, ownBlank⟩) lexeme rest

/-- A layout on the lines behind another one. -/
def append (second : Layout alphabet) : Layout alphabet → Layout alphabet
  | closing gap blank =>
    second.indent (gap ++ ['\n']) (List.forall_mem_append.2 ⟨blank, blank_lineFeed⟩)
  | block gap blank lexeme rest => block gap blank lexeme (append second rest)

/-- The tokens of a layout without their places, up to the final one. -/
def forms : Layout alphabet → List (Token.Kind × String)
  | closing _ _ => []
  | block _ _ lexeme rest => (lexeme.kind, String.ofList lexeme.text) :: rest.forms

theorem map_form_tokensBehind (layout : Layout alphabet) (passed : List Char) :
    (layout.tokensBehind passed).map Token.form = layout.forms ++ [(.endOfInput, "")] := by
  induction layout generalizing passed with
  | closing _ _ => rfl
  | block gap _ lexeme rest ih =>
    rw [tokensBehind, List.map_cons, ih]
    rfl

theorem source_indent (gap : List Char) (blank : ∀ character ∈ gap, character ∈ gapCharacters)
    (layout : Layout alphabet) : (layout.indent gap blank).source = gap ++ layout.source := by
  cases layout with
  | closing own _ => rfl
  | block own _ lexeme rest => exact List.append_assoc gap own _

theorem maximal_indent {gap : List Char} (blank : ∀ character ∈ gap, character ∈ gapCharacters)
    {layout : Layout alphabet} (maximal : layout.Maximal) : (layout.indent gap blank).Maximal := by
  cases layout with
  | closing _ _ => trivial
  | block _ _ _ _ => exact maximal

theorem forms_indent (gap : List Char) (blank : ∀ character ∈ gap, character ∈ gapCharacters)
    (layout : Layout alphabet) : (layout.indent gap blank).forms = layout.forms := by
  cases layout <;> rfl

theorem source_append (first second : Layout alphabet) :
    (second.append first).source = first.source ++ '\n' :: second.source := by
  induction first with
  | closing gap blank =>
    rw [append, source_indent, List.append_assoc]
    rfl
  | block gap blank lexeme rest ih =>
    rw [append, source, source, ih]
    simp only [List.append_assoc]

/-- A line feed ends whatever stands in front of it, so both layouts stay maximal. -/
theorem maximal_append {first second : Layout .unicode} (maximal : first.Maximal)
    (otherMaximal : second.Maximal) : (second.append first).Maximal := by
  induction first with
  | closing gap blank => exact maximal_indent _ otherMaximal
  | block gap blank lexeme rest ih =>
    obtain ⟨ends, later⟩ := maximal
    refine ⟨?_, ih later⟩
    rw [source_append]
    exact ends.append second.source

theorem forms_append (first second : Layout alphabet) :
    (second.append first).forms = first.forms ++ second.forms := by
  induction first with
  | closing gap blank => exact forms_indent _ _ second
  | block gap blank lexeme rest ih => exact congrArg (_ :: ·) ih

end Layout

/-! ## The tokens of both texts -/

/-- Whether a token matters to the grammar does not hang on its place. -/
theorem Token.map_form_significant (tokens : List Token) :
    (significant tokens).map form = (tokens.map form).filter fun pair => pair.1 ≠ .comment := by
  rw [List.filter_map]
  rfl

/-- A text behind another one has the same tokens as on its own, at other places, and the final
token of the first text is dropped. -/
theorem exists_tokenize_append {first second : String} {tokens others : List Token}
    (tokenized : (Scanner.ofString first).tokenize = .ok tokens)
    (otherTokenized : (Scanner.ofString second).tokenize = .ok others) :
    ∃ body final joined, Token.significant tokens = body ++ [final] ∧
      (Scanner.ofString (first ++ "\n" ++ second)).tokenize = .ok joined ∧
      (Token.significant joined).map Token.form =
        (body ++ Token.significant others).map Token.form := by
  obtain ⟨layout, ⟨source, maximal⟩, rfl⟩ := ((tokenize_eq_ok_iff_layout first).1 tokens).1 tokenized
  obtain ⟨other, ⟨otherSource, otherMaximal⟩, rfl⟩ :=
    ((tokenize_eq_ok_iff_layout second).1 others).1 otherTokenized
  have forms := layout.map_form_tokensBehind []
  have otherForms := other.map_form_tokensBehind []
  have joinedForms := (other.append layout).map_form_tokensBehind []
  have significantForms : (Token.significant layout.tokens).map Token.form =
      (layout.forms.filter fun pair => pair.1 ≠ .comment) ++ [(.endOfInput, "")] := by
    rw [Token.map_form_significant, Layout.tokens, forms, List.filter_append]
    rfl
  obtain ⟨body, ending, split, bodyForms, endingForms⟩ := List.map_eq_append_iff.1 significantForms
  obtain ⟨final, rfl, _⟩ := List.map_eq_singleton_iff.1 endingForms
  refine ⟨body, final, (other.append layout).tokens, split, ?_, ?_⟩
  · refine ((tokenize_eq_ok_iff_layout _).1 _).2
      ⟨other.append layout, ⟨?_, Layout.maximal_append maximal otherMaximal⟩, rfl⟩
    rw [Layout.source_append, source, otherSource, String.toList_append, String.toList_append,
      List.append_assoc]
    rfl
  · rw [List.map_append, bodyForms, Token.map_form_significant, Token.map_form_significant,
      Layout.tokens, Layout.tokens, joinedForms, otherForms, Layout.forms_append,
      List.append_assoc, List.filter_append]

/-! ## Going on from a ledger -/

/-- The ledger with everything that came before it. -/
def Ledger.behind (ledger earlier : Ledger) : Ledger :=
  ⟨earlier.commands ++ ledger.commands, ledger.bindings, earlier.clones + ledger.clones⟩

/-- The surroundings of a script that goes on with a table and with the draws that are left. -/
def Script.Surroundings.continued (around : Script.Surroundings) (bindings : Bindings)
    (drawn : Nat) : Script.Surroundings :=
  { around with
    presets := bindings
    draws := fun number => around.draws (drawn + number) }

namespace Ledger

theorem behind_emit (ledger earlier : Ledger) (command : String) :
    (ledger.emit command).behind earlier = (ledger.behind earlier).emit command := by
  simp only [behind, emit, List.append_assoc]

theorem behind_bind (ledger earlier : Ledger) (name value : String) :
    (ledger.bind name value).behind earlier = (ledger.behind earlier).bind name value := rfl

theorem behind_fetch (ledger earlier : Ledger) (command : String) :
    (ledger.fetch command).behind earlier = (ledger.behind earlier).fetch command := by
  simp only [behind, fetch, List.append_assoc, Nat.add_assoc]

end Ledger

/-- A declaration means the same behind others as on its own, if it starts from their table and from
the draws that they leave. -/
theorem Declaration.Means.behind {around : Script.Surroundings} {declaration : Declaration}
    {bindings : Bindings} {earlier ledger last : Ledger}
    (means : declaration.Means (around.continued bindings earlier.clones) ledger last) :
    declaration.Means around (ledger.behind earlier) (last.behind earlier) := by
  cases means with
  | run argument =>
    rw [Ledger.behind_emit]
    exact .run argument (ledger.behind earlier)
  | extract parts placed =>
    rw [Ledger.behind_emit]
    exact .extract parts placed
  | set parts =>
    rw [Ledger.behind_bind]
    exact .set parts
  | clone location staged =>
    rw [Ledger.behind_fetch]
    exact .clone location staged
  | cloneAs location staged =>
    rw [Ledger.behind_fetch, Ledger.behind_bind]
    exact .cloneAs location staged

/-- A declaration keeps the names that are bound in front. -/
theorem Declaration.Means.names_prefix {around : Script.Surroundings} {declaration : Declaration}
    {ledger last : Ledger} (means : declaration.Means around ledger last) :
    ledger.bindings.names <+: last.bindings.names := by
  cases means with
  | set _ => exact Bindings.names_prefix_insert _ _ _
  | cloneAs _ _ => exact Bindings.names_prefix_insert _ _ _
  | _ => exact List.prefix_refl _

namespace Script

variable {around : Surroundings}

theorem Means.behind {declarations : List Declaration} {bindings : Bindings}
    {earlier ledger last : Ledger}
    (means : Script.Means (around.continued bindings earlier.clones) declarations ledger last) :
    Script.Means around declarations (ledger.behind earlier) (last.behind earlier) := by
  induction means with
  | nil _ => exact .nil _
  | cons first _ ih => exact .cons first.behind ih

theorem Means.names_prefix {declarations : List Declaration} {ledger last : Ledger}
    (means : Script.Means around declarations ledger last) :
    ledger.bindings.names <+: last.bindings.names := by
  induction means with
  | nil _ => exact List.prefix_refl _
  | cons first _ ih => exact first.names_prefix.trans ih

/-- A script that goes on from what declarations have come to starts with just their table: the
variables of the settings are in it already. -/
theorem Means.initial_continued {declarations : List Declaration} {last : Ledger}
    (means : Script.Means around declarations (Ledger.initial around) last) :
    Ledger.initial (around.continued last.bindings last.clones) = ⟨[], last.bindings, 0⟩ := by
  have settings : around.settings.bindings.names <+: (Ledger.initial around).bindings.names := by
    rw [Ledger.initial, Bindings.names_overriddenBy]
    exact List.prefix_append _ _
  have same := Bindings.overriddenBy_eq_of_prefix (settings.trans means.names_prefix)
  show Ledger.mk [] (around.settings.bindings.overriddenBy last.bindings) 0 = _
  rw [same]

theorem Body.append_spells {first second : List Declaration} {body tokens : List Token}
    (declared : Body first body) (spells : Spells second tokens) :
    Spells (first ++ second) (body ++ tokens) := by
  obtain ⟨spelled, ended⟩ := spells
  rw [← List.append_assoc]
  refine .intro ?_ ended
  induction declared with
  | nil => exact spelled
  | cons opens separated _ ih =>
    rw [List.append_assoc, List.append_assoc]
    exact .cons opens separated ih

end Script

/-! ## Scripts one behind the other -/

open scoped Computability in
/-- The kinds of a script's tokens if every semicolon stands behind a declaration. -/
def Grammar.declared : Language Token.Kind :=
  (declaration * optional (phrase [.semicolon]))∗ * phrase [.endOfInput]

namespace Script

/-- Where every semicolon stands behind a declaration, there are only declarations in front of the
final token. -/
theorem map_kind_mem_declared_iff {tokens : List Token} :
    tokens.map Token.kind ∈ Grammar.declared ↔
      ∃ declarations body final, tokens = body ++ [final] ∧ Body declarations body ∧
        final.kind = .endOfInput := by
  constructor
  · intro member
    obtain ⟨front, frontMember, last, lastMember, whole⟩ := Language.mem_mul.1 member
    obtain ⟨body, ending, rfl, rfl, rfl⟩ := List.map_eq_append_iff.1 whole.symm
    obtain ⟨declarations, spelled⟩ := map_kind_mem_kstar_iff.1 frontMember
    obtain ⟨final, rfl, ended⟩ := List.map_eq_singleton_iff.1 (Grammar.mem_phrase.1 lastMember)
    exact ⟨declarations, body, final, rfl, spelled, ended⟩
  · rintro ⟨declarations, body, final, rfl, spelled, ended⟩
    have bodyMember := map_kind_mem_kstar_iff.2 ⟨_, spelled⟩
    rw [List.map_append]
    refine Language.append_mem_mul bodyMember ?_
    rw [Grammar.mem_phrase, List.map_singleton, ended]

/-- Behind a script and a line feed, the declarations of a second text go on from the ledger that the
script has come to. -/
theorem compile_behind {first second filename : String} {around : Surroundings}
    {tokens others : List Token} {declarations : List Declaration} {plan : Plan} {after : Session}
    {last : Ledger}
    (compiled : Session.compile.run (Session.ofText first filename around) = (.ok plan, after))
    (tokenized : (Scanner.ofString first).tokenize = .ok tokens)
    (declared : (Token.significant tokens).map Token.kind ∈ Grammar.declared)
    (otherTokenized : (Scanner.ofString second).tokenize = .ok others)
    (spells : Spells declarations (Token.significant others))
    (means : Script.Means around declarations after.ledger last) (name : String) :
    (compile (first ++ "\n" ++ second) name around).1 =
      .ok ⟨name, last.commands, last.bindings⟩ := by
  obtain ⟨_, own, _, again, ownSpells, ownMeans, _, rfl⟩ := spells_of_compile compiled
  rw [tokenized, Except.ok.injEq] at again
  subst again
  obtain ⟨body, final, joined, split, joinedTokenized, forms⟩ :=
    exists_tokenize_append tokenized otherTokenized
  obtain ⟨ownDeclarations, ownBody, ownFinal, ownSplit, spelled, ended⟩ :=
    map_kind_mem_declared_iff.1 declared
  obtain ⟨rfl, _⟩ := List.append_inj' (split.symm.trans ownSplit) rfl
  have same : Spells ownDeclarations (Token.significant tokens) := by
    rw [ownSplit]
    exact .intro spelled (.intro .missing ended)
  obtain rfl := same.unique ownSpells
  refine compile_eq_ok_iff.2 ⟨joined, ownDeclarations ++ declarations, last, joinedTokenized, ?_,
    ownMeans.append means, rfl⟩
  exact (spelled.append_spells spells).of_map_form forms

/-- A script that goes on behind a line feed, where a second script begins, is compiled to the
commands of both, and the bindings with which the second ends; the second starts from the table
with which the first ends, and from the first number that it has not drawn. -/
theorem compile_append {first second filename other : String} {around : Surroundings}
    {tokens : List Token} {plan more : Plan} {after : Session}
    (compiled : Session.compile.run (Session.ofText first filename around) = (.ok plan, after))
    (tokenized : (Scanner.ofString first).tokenize = .ok tokens)
    (declared : (Token.significant tokens).map Token.kind ∈ Grammar.declared)
    (continued : (compile second other (around.continued plan.bindings after.drawn)).1 = .ok more)
    (name : String) :
    (compile (first ++ "\n" ++ second) name around).1 =
      .ok ⟨name, plan.commands ++ more.commands, more.bindings⟩ := by
  obtain ⟨_, declarations, ledger, again, spells, means, rfl, rfl⟩ := spells_of_compile compiled
  rw [tokenized, Except.ok.injEq] at again
  subst again
  obtain ⟨others, otherDeclarations, last, otherTokenized, otherSpells, otherMeans, rfl⟩ :=
    compile_eq_ok_iff.1 continued
  obtain ⟨body, final, joined, split, joinedTokenized, forms⟩ :=
    exists_tokenize_append tokenized otherTokenized
  obtain ⟨ownDeclarations, own, ownFinal, ownSplit, spelled, ended⟩ :=
    map_kind_mem_declared_iff.1 declared
  obtain ⟨rfl, _⟩ := List.append_inj' (split.symm.trans ownSplit) rfl
  have ownSpells : Spells ownDeclarations (Token.significant tokens) := by
    rw [ownSplit]
    exact .intro spelled (.intro .missing ended)
  obtain rfl := ownSpells.unique spells
  have resumed : Script.Means around otherDeclarations after.ledger (last.behind after.ledger) := by
    have start : Ledger.initial (around.continued after.bindings after.drawn) =
        ⟨[], after.bindings, 0⟩ := means.initial_continued
    have shifted : Script.Means around otherDeclarations
        ((Ledger.initial (around.continued after.bindings after.drawn)).behind after.ledger)
        (last.behind after.ledger) := otherMeans.behind
    have same : (Ledger.mk [] after.bindings 0).behind after.ledger = after.ledger := by
      simp only [Ledger.behind, List.append_nil, Nat.add_zero]
      rfl
    rwa [start, same] at shifted
  refine compile_eq_ok_iff.2 ⟨joined, ownDeclarations ++ otherDeclarations,
    last.behind after.ledger, joinedTokenized, ?_, means.append resumed, rfl⟩
  exact (spelled.append_spells otherSpells).of_map_form forms

/-- The second script uses the name and draws the number behind those of the first, which ends in a
comment. -/
theorem compile_append_comment :
    ∃ plan more after tokens,
      Session.compile.run (Session.ofText "clone \"h\" as \"X\" // c" "f"
          ⟨.standard "/tmp", .empty, "/w", id⟩) = (.ok plan, after) ∧
        after.drawn = 1 ∧
        (Scanner.ofString "clone \"h\" as \"X\" // c").tokenize = .ok tokens ∧
        (Token.significant tokens).map Token.kind ∈ Grammar.declared ∧
        (compile "clone \"g\"; run \"ls $[X]\"" "g"
          (Surroundings.continued ⟨.standard "/tmp", .empty, "/w", id⟩ plan.bindings after.drawn)).1 =
            .ok more ∧
        more.commands = ["cd /tmp && git clone --depth=1 https://g /tmp/depscript-1",
          "ls /tmp/depscript-0"] ∧
        (compile ("clone \"h\" as \"X\" // c" ++ "\n" ++ "clone \"g\"; run \"ls $[X]\"") "f"
          ⟨.standard "/tmp", .empty, "/w", id⟩).1 =
            .ok ⟨"f", plan.commands ++ more.commands, more.bindings⟩ := by
  obtain ⟨after, compiled, drawn⟩ : ∃ after,
      Session.compile.run (Session.ofText "clone \"h\" as \"X\" // c" "f"
          ⟨.standard "/tmp", .empty, "/w", id⟩) =
        (.ok ⟨"f", ["cd /tmp && git clone --depth=1 https://h /tmp/depscript-0"],
          Bindings.empty.insert "X" "/tmp/depscript-0"⟩, after) ∧ after.drawn = 1 := by
    refine ⟨_, Prod.ext ?_ rfl, ?_⟩
    · with_unfolding_all rfl
    · with_unfolding_all rfl
  have tokenized : (Scanner.ofString "clone \"h\" as \"X\" // c").tokenize =
      .ok [⟨.clone, "clone", ⟨1, 1⟩⟩, ⟨.string, "h", ⟨1, 7⟩⟩, ⟨.as, "as", ⟨1, 11⟩⟩,
        ⟨.string, "X", ⟨1, 14⟩⟩, ⟨.comment, "c", ⟨1, 18⟩⟩, .final ⟨1, 22⟩] := by
    with_unfolding_all rfl
  obtain ⟨declarations, body⟩ : ∃ declarations, Body declarations
      ([⟨.clone, "clone", ⟨1, 1⟩⟩, ⟨.string, "h", ⟨1, 7⟩⟩, ⟨.as, "as", ⟨1, 11⟩⟩,
        ⟨.string, "X", ⟨1, 14⟩⟩] ++ ([] ++ [])) :=
    ⟨_, .cons (.cloneAs rfl rfl rfl rfl) .missing .nil⟩
  have declared : [Token.Kind.clone, .string, .as, .string, .endOfInput] ∈ Grammar.declared :=
    map_kind_mem_declared_iff.2 ⟨_, _, .final ⟨1, 22⟩, rfl, body, rfl⟩
  have continued : (compile "clone \"g\"; run \"ls $[X]\"" "g"
      (Surroundings.continued ⟨.standard "/tmp", .empty, "/w", id⟩
        (Bindings.empty.insert "X" "/tmp/depscript-0") after.drawn)).1 =
          .ok ⟨"g", ["cd /tmp && git clone --depth=1 https://g /tmp/depscript-1",
            "ls /tmp/depscript-0"], Bindings.empty.insert "X" "/tmp/depscript-0"⟩ := by
    rw [drawn]
    with_unfolding_all rfl
  exact ⟨_, _, after, _, compiled, drawn, tokenized, declared, continued, rfl,
    compile_append compiled tokenized declared continued "f"⟩

end Script

end SetupScript
