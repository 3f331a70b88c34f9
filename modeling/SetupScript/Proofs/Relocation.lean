import SetupScript.Proofs.Diagnosis

/-!
# Relocation

Where the tokens of a script stand makes no difference.  Texts whose tokens agree in kind and text,
comments apart, are compiled to the same commands and bindings, or fail at the same token and for
the same reason (`Script.compile_relocated`).  The places of a text's tokens increase
(`Token.significant_pairwise`), so the place of a diagnostic is the place of one token only.
-/

namespace SetupScript

/-! ## Places -/

namespace Position

/-- One place comes before another: on an earlier line, or further to the left on the same one. -/
def Before (first second : Position) : Prop :=
  first.line < second.line ∨ first.line = second.line ∧ first.column < second.column

theorem Before.trans {first second third : Position} (before : first.Before second)
    (later : second.Before third) : first.Before third := by
  unfold Before at *
  omega

theorem not_before_self (position : Position) : ¬ position.Before position := by
  unfold Before
  omega

/-- A place comes before the one behind a character. -/
theorem before_after (position : Position) (character : Char) :
    position.Before (position.after character) := by
  unfold after
  split
  · exact Or.inl (Nat.lt_succ_self _)
  · exact Or.inr ⟨rfl, Nat.lt_succ_self _⟩

/-- A place comes before the one behind a run of characters that is not empty. -/
theorem before_advance (position : Position) {passed : List Char} (nonempty : passed ≠ []) :
    position.Before (position.advance passed) := by
  induction passed generalizing position with
  | nil => exact absurd rfl nonempty
  | cons character rest ih =>
    rw [advance_cons]
    by_cases ended : rest = []
    · subst ended
      exact position.before_after character
    · exact (position.before_after character).trans (ih (position.after character) ended)

/-- The place behind a text comes before the one behind a longer text. -/
theorem behind_before (passed : List Char) {more : List Char} (nonempty : more ≠ []) :
    (behind passed).Before (behind (passed ++ more)) := by
  rw [← advance_behind]
  exact (behind passed).before_advance nonempty

end Position

theorem Lexeme.source_ne_nil {alphabet : Alphabet} (lexeme : Lexeme alphabet) :
    lexeme.source ≠ [] := by
  cases lexeme <;> exact List.cons_ne_nil _ _

namespace Layout

variable {alphabet : Alphabet}

/-- The tokens behind a text stand behind it. -/
theorem exists_position_of_mem_tokensBehind {layout : Layout alphabet} {passed : List Char}
    {token : Token} (member : token ∈ layout.tokensBehind passed) :
    ∃ more, token.position = .behind (passed ++ more) := by
  induction layout generalizing passed with
  | closing gap _ =>
    rw [tokensBehind, List.mem_singleton] at member
    exact ⟨gap, by rw [member]⟩
  | block gap _ lexeme rest ih =>
    rw [tokensBehind, List.mem_cons] at member
    rcases member with first | later
    · exact ⟨gap, by rw [first]⟩
    · obtain ⟨more, place⟩ := ih later
      rw [List.append_assoc] at place
      exact ⟨_, place⟩

/-- The places of a text's tokens increase. -/
theorem tokensBehind_pairwise (layout : Layout alphabet) (passed : List Char) :
    (layout.tokensBehind passed).Pairwise fun first second =>
      first.position.Before second.position := by
  induction layout generalizing passed with
  | closing gap _ => exact List.pairwise_singleton _ _
  | block gap _ lexeme rest ih =>
    rw [tokensBehind, List.pairwise_cons]
    refine ⟨fun later member => ?_, ih _⟩
    obtain ⟨more, place⟩ := exists_position_of_mem_tokensBehind member
    have nonempty : lexeme.source ++ more ≠ [] := List.append_ne_nil_of_left_ne_nil
      lexeme.source_ne_nil more
    have before := Position.behind_before (passed ++ gap) nonempty
    rw [place]
    simpa only [List.append_assoc] using before

end Layout

/-- The places of the tokens of a text increase, those that matter to the grammar among them. -/
theorem Token.significant_pairwise {text : String} {tokens : List Token}
    (tokenized : (Scanner.ofString text).tokenize = .ok tokens) :
    (significant tokens).Pairwise fun first second => first.position.Before second.position := by
  obtain ⟨layout, _, rfl⟩ := ((tokenize_eq_ok_iff_layout text).1 tokens).1 tokenized
  exact (layout.tokensBehind_pairwise []).filter _

/-! ## Forms -/

namespace Token

/-- What a token is, apart from its place. -/
def form (token : Token) : Kind × String :=
  (token.kind, token.text)

theorem kind_eq_of_form {token other : Token} (same : other.form = token.form) :
    other.kind = token.kind :=
  congrArg Prod.fst same

theorem text_eq_of_form {token other : Token} (same : other.form = token.form) :
    other.text = token.text :=
  congrArg Prod.snd same

end Token

/-- A token of a kind is matched by one of that kind and with the same text. -/
theorem exists_cons_of_map_form {token : Token} {rest others : List Token}
    (same : others.map Token.form = (token :: rest).map Token.form) :
    ∃ other more, others = other :: more ∧ other.kind = token.kind ∧ other.text = token.text ∧
      more.map Token.form = rest.map Token.form := by
  obtain ⟨other, more, rfl, first, later⟩ := List.map_eq_cons_iff.1 same
  exact ⟨other, more, rfl, Token.kind_eq_of_form first, Token.text_eq_of_form first, later⟩

theorem eq_nil_of_map_form {others : List Token}
    (same : others.map Token.form = ([] : List Token).map Token.form) : others = [] :=
  List.map_eq_nil_iff.1 same

theorem exists_append_of_map_form {first second others : List Token}
    (same : others.map Token.form = (first ++ second).map Token.form) :
    ∃ one two, others = one ++ two ∧ one.map Token.form = first.map Token.form ∧
      two.map Token.form = second.map Token.form := by
  rw [List.map_append] at same
  exact List.map_eq_append_iff.1 same

/-- A condition on the kind of the first token, if there is one, depends on the forms. -/
theorem head?_kind_ne_of_map_form {tokens others : List Token} {kind : Token.Kind}
    (same : others.map Token.form = tokens.map Token.form)
    (different : ∀ next ∈ tokens.head?, next.kind ≠ kind) :
    ∀ next ∈ others.head?, next.kind ≠ kind := by
  cases tokens with
  | nil =>
    rw [eq_nil_of_map_form same]
    exact nofun
  | cons token rest =>
    obtain ⟨other, more, rfl, sameKind, _, _⟩ := exists_cons_of_map_form same
    intro next first
    cases first
    rw [sameKind]
    exact different token rfl

/-! ## Grammar and meaning -/

/-- The spelling of a declaration does not depend on places. -/
theorem Declaration.Spells.of_map_form {declaration : Declaration} {tokens others : List Token}
    (spells : declaration.Spells tokens) (same : others.map Token.form = tokens.map Token.form) :
    declaration.Spells others := by
  obtain ⟨keyword, literal, rest, rfl, _⟩ := spells.exists_argument
  obtain ⟨otherKeyword, behind, rfl, keywordKind, _, same⟩ := exists_cons_of_map_form same
  obtain ⟨otherLiteral, behind, rfl, literalKind, literalText, same⟩ := exists_cons_of_map_form same
  cases spells with
  | clone opens argument =>
    obtain rfl := eq_nil_of_map_form same
    rw [← literalText]
    exact .clone (keywordKind.trans opens) (literalKind.trans argument)
  | cloneAs opens argument names named =>
    obtain ⟨otherAs, behind, rfl, asKind, _, same⟩ := exists_cons_of_map_form same
    obtain ⟨otherName, behind, rfl, nameKind, nameText, same⟩ := exists_cons_of_map_form same
    obtain rfl := eq_nil_of_map_form same
    rw [← literalText, ← nameText]
    exact .cloneAs (keywordKind.trans opens) (literalKind.trans argument) (asKind.trans names)
      (nameKind.trans named)
  | run opens argument =>
    obtain rfl := eq_nil_of_map_form same
    rw [← literalText]
    exact .run (keywordKind.trans opens) (literalKind.trans argument)
  | extract opens argument =>
    obtain rfl := eq_nil_of_map_form same
    rw [← literalText]
    exact .extract (keywordKind.trans opens) (literalKind.trans argument)
  | set opens argument =>
    obtain rfl := eq_nil_of_map_form same
    rw [← literalText]
    exact .set (keywordKind.trans opens) (literalKind.trans argument)

namespace Script

theorem Separator.of_map_form {tokens others : List Token} (separated : Separator tokens)
    (same : others.map Token.form = tokens.map Token.form) : Separator others := by
  cases separated with
  | missing =>
    rw [eq_nil_of_map_form same]
    exact .missing
  | semicolon separates =>
    obtain ⟨other, more, rfl, kind, _, same⟩ := exists_cons_of_map_form same
    rw [eq_nil_of_map_form same]
    exact .semicolon (kind.trans separates)

theorem Body.of_map_form {declarations : List Declaration} {tokens others : List Token}
    (body : Body declarations tokens) (same : others.map Token.form = tokens.map Token.form) :
    Body declarations others := by
  induction body generalizing others with
  | nil =>
    rw [eq_nil_of_map_form same]
    exact .nil
  | cons first separated _ ih =>
    obtain ⟨taken, behind, rfl, takenSame, same⟩ := exists_append_of_map_form same
    obtain ⟨separator, rest, rfl, separatorSame, same⟩ := exists_append_of_map_form same
    exact .cons (first.of_map_form takenSame) (separated.of_map_form separatorSame) (ih same)

/-- The declarations of a script do not depend on places. -/
theorem Spells.of_map_form {declarations : List Declaration} {tokens others : List Token}
    (spells : Spells declarations tokens) (same : others.map Token.form = tokens.map Token.form) :
    Spells declarations others := by
  obtain ⟨spelled, separated, ended⟩ := spells
  obtain ⟨body, ending, rfl, bodySame, same⟩ := exists_append_of_map_form same
  obtain ⟨separator, behind, rfl, separatorSame, same⟩ := exists_append_of_map_form same
  obtain ⟨final, more, rfl, kind, _, same⟩ := exists_cons_of_map_form same
  rw [eq_nil_of_map_form same]
  exact .intro (spelled.of_map_form bodySame)
    (.intro (separated.of_map_form separatorSame) (kind.trans ended))

theorem Leads.of_map_form {declaration : Declaration}
    {taken separator rest otherTaken otherSeparator otherRest : List Token}
    (leads : Leads declaration taken separator rest)
    (takenSame : otherTaken.map Token.form = taken.map Token.form)
    (separatorSame : otherSeparator.map Token.form = separator.map Token.form)
    (restSame : otherRest.map Token.form = rest.map Token.form) :
    Leads declaration otherTaken otherSeparator otherRest where
  spells := leads.spells.of_map_form takenSame
  separated := leads.separated.of_map_form separatorSame
  unnamed argument clone := by
    refine head?_kind_ne_of_map_form ?_ (leads.unnamed argument clone)
    rw [List.map_append, List.map_append, separatorSame, restSame]
  greedy missing := by
    subst missing
    obtain rfl := eq_nil_of_map_form separatorSame.symm
    exact head?_kind_ne_of_map_form restSame (leads.greedy rfl)

/-! ## Halting -/

/-- What blocks tokens does not depend on places. -/
theorem Blocks.of_map_form {bindings : Bindings} {tokens others : List Token} {index : Nat}
    {fault : Diagnostic.Fault} (blocks : Blocks bindings tokens index fault)
    (same : others.map Token.form = tokens.map Token.form) :
    Blocks bindings others index fault := by
  cases blocks with
  | argument opens different =>
    obtain ⟨keyword, behind, rfl, keywordKind, _, same⟩ := exists_cons_of_map_form same
    obtain ⟨found, behind, rfl, foundKind, _, same⟩ := exists_cons_of_map_form same
    rw [← keywordKind] at opens
    rw [← foundKind] at different ⊢
    exact .argument opens different
  | name clones isString names different =>
    obtain ⟨keyword, behind, rfl, keywordKind, _, same⟩ := exists_cons_of_map_form same
    obtain ⟨literal, behind, rfl, literalKind, _, same⟩ := exists_cons_of_map_form same
    obtain ⟨as, behind, rfl, asKind, _, same⟩ := exists_cons_of_map_form same
    obtain ⟨found, behind, rfl, foundKind, _, same⟩ := exists_cons_of_map_form same
    rw [← foundKind] at different ⊢
    exact .name (keywordKind.trans clones) (literalKind.trans isString) (asKind.trans names)
      different
  | parts form cuts isString uncut =>
    obtain ⟨keyword, behind, rfl, keywordKind, _, same⟩ := exists_cons_of_map_form same
    obtain ⟨literal, behind, rfl, literalKind, literalText, same⟩ := exists_cons_of_map_form same
    rw [← literalText] at uncut
    exact .parts form (keywordKind.trans cuts) (literalKind.trans isString) uncut
  | ending closes notSemicolon notFinal =>
    obtain ⟨found, behind, rfl, foundKind, _, same⟩ := exists_cons_of_map_form same
    rw [← foundKind] at closes notSemicolon notFinal ⊢
    exact .ending closes notSemicolon notFinal
  | beyond separates notFinal =>
    obtain ⟨semicolon, behind, rfl, semicolonKind, _, same⟩ := exists_cons_of_map_form same
    obtain ⟨found, behind, rfl, foundKind, _, same⟩ := exists_cons_of_map_form same
    rw [← foundKind] at notFinal ⊢
    exact .beyond (semicolonKind.trans separates) notFinal

/-- Where and why a script halts does not depend on places. -/
theorem Halts.of_map_form {around : Surroundings} {ledger : Ledger} {tokens others : List Token}
    {index : Nat} {fault : Diagnostic.Fault} (halts : Halts around ledger tokens index fault)
    (same : others.map Token.form = tokens.map Token.form) :
    Halts around ledger others index fault := by
  induction halts generalizing others with
  | here blocks => exact .here (blocks.of_map_form same)
  | @later declaration ledger middle taken separator rest index fault leads means _ ih =>
    obtain ⟨otherTaken, behind, rfl, takenSame, same⟩ := exists_append_of_map_form same
    obtain ⟨otherSeparator, otherRest, rfl, separatorSame, same⟩ := exists_append_of_map_form same
    have lengths : (taken ++ separator).length = (otherTaken ++ otherSeparator).length := by
      have takenLength := congrArg List.length takenSame
      have separatorLength := congrArg List.length separatorSame
      simp only [List.length_map] at takenLength separatorLength
      rw [List.length_append, List.length_append, takenLength, separatorLength]
    rw [lengths]
    exact .later (leads.of_map_form takenSame separatorSame same) means (ih same)

end Script

/-! ## Compilation -/

/-- Among these tokens, the one with this index stands where the diagnostic does, and no other. -/
def Diagnostic.StandsAt (diagnostic : Diagnostic) (tokens : List Token) (index : Nat) : Prop :=
  ∀ other, tokens[other]?.map Token.position = some diagnostic.position ↔ other = index

/-- A diagnostic at the place of a token stands at that token only. -/
theorem Diagnostic.standsAt_of_pairwise {diagnostic : Diagnostic} {tokens : List Token}
    {index : Nat} {token : Token} (found : tokens[index]? = some token)
    (place : diagnostic.position = token.position)
    (increasing : tokens.Pairwise fun first second => first.position.Before second.position) :
    diagnostic.StandsAt tokens index := by
  intro other
  constructor
  · intro same
    obtain ⟨otherToken, otherFound, otherPlace⟩ := Option.map_eq_some_iff.1 same
    rw [place] at otherPlace
    rw [List.pairwise_iff_getElem] at increasing
    obtain ⟨bound, rfl⟩ := List.getElem?_eq_some_iff.1 found
    obtain ⟨otherBound, rfl⟩ := List.getElem?_eq_some_iff.1 otherFound
    rcases Nat.lt_trichotomy other index with less | equal | more
    · have before := increasing other index otherBound bound less
      rw [otherPlace] at before
      exact absurd before (Position.not_before_self _)
    · exact equal
    · have before := increasing index other bound otherBound more
      rw [otherPlace] at before
      exact absurd before (Position.not_before_self _)
  · rintro rfl
    rw [found, place, Option.map_some]

namespace Script

/-- Two compilations agree: in the commands and the bindings of their plans, or in what is wrong and
in the index of the token at which it is found. -/
inductive Agree (tokens others : List Token) :
    Except Diagnostic Plan → Except Diagnostic Plan → Prop
  | plans {plan other : Plan} (commands : plan.commands = other.commands)
      (bindings : plan.bindings = other.bindings) : Agree tokens others (.ok plan) (.ok other)
  | faults {diagnostic other : Diagnostic} {index : Nat} (fault : diagnostic.fault = other.fault)
      (here : diagnostic.StandsAt tokens index) (there : other.StandsAt others index) :
      Agree tokens others (.error diagnostic) (.error other)

section Relocation

variable {text other filename : String} {around : Surroundings} {tokens others : List Token}

/-- A text with the tokens of one that is compiled to a plan, wherever they stand, is compiled to
the same commands and bindings. -/
theorem compile_eq_ok_of_map_form {plan : Plan} (otherName : String)
    (compiled : (compile text filename around).1 = .ok plan)
    (tokenized : (Scanner.ofString text).tokenize = .ok tokens)
    (otherTokenized : (Scanner.ofString other).tokenize = .ok others)
    (same : (Token.significant others).map Token.form =
      (Token.significant tokens).map Token.form) :
    (compile other otherName around).1 = .ok { plan with filename := otherName } := by
  obtain ⟨_, declarations, ledger, again, spells, means, rfl⟩ := compile_eq_ok_iff.1 compiled
  rw [tokenized, Except.ok.injEq] at again
  subst again
  exact compile_eq_ok_iff.2
    ⟨others, declarations, ledger, otherTokenized, spells.of_map_form same, means, rfl⟩

/-- A text that has tokens fails at one of them. -/
theorem exists_halts_of_compile {diagnostic : Diagnostic}
    (failed : (compile text filename around).1 = .error diagnostic)
    (tokenized : (Scanner.ofString text).tokenize = .ok tokens) :
    ∃ index, Halts around (Ledger.initial around) (Token.significant tokens) index
        diagnostic.fault ∧
      diagnostic.StandsAt (Token.significant tokens) index := by
  have ran := Scanner.tokenize_eq_ok_iff.1 tokenized
  rcases explains_of_compile failed with ⟨error, unread, _⟩ | ⟨index, token, fault, halts, found, rfl⟩
  · rw [ran] at unread
    cases unread
  · rw [ran] at halts found
    exact ⟨index, halts,
      Diagnostic.standsAt_of_pairwise found rfl (Token.significant_pairwise tokenized)⟩

/-- The places of tokens, and with them gaps and comments, make no difference: texts with the same
tokens, comments apart, are compiled to the same commands and bindings, or fail for the same reason
at the same token. -/
theorem compile_relocated (filename otherName : String) (around : Surroundings)
    (tokenized : (Scanner.ofString text).tokenize = .ok tokens)
    (otherTokenized : (Scanner.ofString other).tokenize = .ok others)
    (same : (Token.significant tokens).map Token.form =
      (Token.significant others).map Token.form) :
    Agree (Token.significant tokens) (Token.significant others)
      (compile text filename around).1 (compile other otherName around).1 := by
  cases compiled : (compile text filename around).1 with
  | ok plan =>
    rw [compile_eq_ok_of_map_form otherName compiled tokenized otherTokenized same.symm]
    exact .plans rfl rfl
  | error diagnostic =>
    cases otherCompiled : (compile other otherName around).1 with
    | ok plan =>
      have both := compile_eq_ok_of_map_form filename otherCompiled otherTokenized tokenized same
      rw [compiled] at both
      cases both
    | error otherDiagnostic =>
      obtain ⟨index, halts, here⟩ := exists_halts_of_compile compiled tokenized
      obtain ⟨otherIndex, otherHalts, there⟩ :=
        exists_halts_of_compile otherCompiled otherTokenized
      obtain ⟨rfl, fault⟩ := (halts.of_map_form same.symm).unique otherHalts
      exact .faults fault here there

/-- A clone whose argument is missing, on one line and on three of them with comments. -/
theorem compile_relocated_clone :
    ∃ tokens others,
      (Scanner.ofString "run \"a\" clone ;").tokenize = .ok tokens ∧
      (Scanner.ofString "run\n\"a\" clone // c\n// d\n;").tokenize = .ok others ∧
      (Token.significant tokens).map Token.form = (Token.significant others).map Token.form ∧
      Agree (Token.significant tokens) (Token.significant others)
        (compile "run \"a\" clone ;" "f" ⟨.standard "/tmp", .empty, "/w", id⟩).1
        (compile "run\n\"a\" clone // c\n// d\n;" "g" ⟨.standard "/tmp", .empty, "/w", id⟩).1 := by
  have tokenized : (Scanner.ofString "run \"a\" clone ;").tokenize =
      .ok [⟨.run, "run", ⟨1, 1⟩⟩, ⟨.string, "a", ⟨1, 5⟩⟩, ⟨.clone, "clone", ⟨1, 9⟩⟩,
        ⟨.semicolon, ";", ⟨1, 15⟩⟩, .final ⟨1, 16⟩] := by
    with_unfolding_all rfl
  have otherTokenized : (Scanner.ofString "run\n\"a\" clone // c\n// d\n;").tokenize =
      .ok [⟨.run, "run", ⟨1, 1⟩⟩, ⟨.string, "a", ⟨2, 1⟩⟩, ⟨.clone, "clone", ⟨2, 5⟩⟩,
        ⟨.comment, "c", ⟨2, 11⟩⟩, ⟨.comment, "d", ⟨3, 1⟩⟩, ⟨.semicolon, ";", ⟨4, 1⟩⟩,
        .final ⟨4, 2⟩] := by
    with_unfolding_all rfl
  exact ⟨_, _, tokenized, otherTokenized, rfl,
    compile_relocated "f" "g" _ tokenized otherTokenized rfl⟩

end Relocation

end Script

end SetupScript
