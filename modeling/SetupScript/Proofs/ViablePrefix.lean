import Mathlib.Order.Bounds.Defs
import SetupScript.Proofs.Diagnosis

/-!
# Viable prefixes

Where a script stops to be one.  The tokens in front of a structural error can be completed to a
script, and with the token at fault they cannot (`Script.Halts.departs`), so a diagnostic about a
token that is there stands at the first token that cannot be (`Script.unexpectedToken_isLeast`).
-/

namespace SetupScript

namespace Grammar

/-- The kinds of tokens that some script begins with. -/
def Viable (kinds : List Token.Kind) : Prop :=
  ∃ sentence ∈ script, kinds <+: sentence

/-- The kind that is asked for behind tokens of these kinds: a literal behind a keyword, and the end
of the input behind all others. -/
def awaited (kinds : List Token.Kind) : Token.Kind :=
  if ∃ last ∈ kinds.getLast?, last ∈ [Token.Kind.clone, .run, .extract, .set, .as] then .string
  else .endOfInput

theorem Viable.shortened {kinds front : List Token.Kind} (viable : Viable kinds)
    (begins : front <+: kinds) : Viable front := by
  obtain ⟨sentence, member, longer⟩ := viable
  exact ⟨sentence, member, begins.trans longer⟩

/-- What is asked for depends on the last kinds alone. -/
theorem awaited_append {front : List Token.Kind} (ended : awaited front = .endOfInput)
    (kinds : List Token.Kind) : awaited (front ++ kinds) = awaited kinds := by
  cases kinds with
  | nil =>
    rw [List.append_nil, ended]
    rfl
  | cons kind rest => rw [awaited, awaited, List.getLast?_append_of_ne_nil _ (List.cons_ne_nil _ _)]

end Grammar

namespace Script

/-! ## Beginnings -/

/-- A script can begin with these tokens. -/
def Begins (tokens : List Token) : Prop :=
  ∃ declarations more, Spells declarations (tokens ++ more)

/-- Whether a script can begin with some tokens is a matter of their kinds. -/
theorem begins_iff_viable {tokens : List Token} :
    Begins tokens ↔ Grammar.Viable (tokens.map Token.kind) := by
  constructor
  · rintro ⟨declarations, more, spells⟩
    refine ⟨_, map_kind_mem_script_iff.2 ⟨declarations, spells⟩, ?_⟩
    rw [List.map_append]
    exact List.prefix_append _ _
  · rintro ⟨_, member, rest, rfl⟩
    let more : List Token := rest.map fun kind => ⟨kind, "", .origin⟩
    have kinds : (tokens ++ more).map Token.kind = tokens.map Token.kind ++ rest := by
      simp [more, Function.comp_def]
    rw [← kinds] at member
    obtain ⟨declarations, spells⟩ := map_kind_mem_script_iff.1 member
    exact ⟨declarations, more, spells⟩

theorem begins_nil : Begins [] :=
  ⟨[], [.final .origin], .intro .nil (.intro .missing rfl)⟩

/-- A declaration and its separator can stand in front of a script. -/
theorem Spells.cons {declaration : Declaration} {declarations : List Declaration}
    {taken separator rest : List Token} (spells : Spells declarations rest)
    (spelled : declaration.Spells taken) (separated : Separator separator) :
    Spells (declaration :: declarations) (taken ++ (separator ++ rest)) := by
  obtain ⟨body, ended⟩ := spells
  have whole := Spells.intro (.cons spelled separated body) ended
  rwa [List.append_assoc, List.append_assoc] at whole

/-- A declaration and its separator can stand in front of what a script can begin with. -/
theorem Begins.cons {declaration : Declaration} {taken separator rest : List Token}
    (begins : Begins rest) (spelled : declaration.Spells taken) (separated : Separator separator) :
    Begins (taken ++ (separator ++ rest)) := by
  obtain ⟨declarations, more, spells⟩ := begins
  refine ⟨declaration :: declarations, more, ?_⟩
  rw [List.append_assoc, List.append_assoc]
  exact spells.cons spelled separated

/-- What is left of a beginning when its first declaration is taken off is a beginning. -/
theorem Leads.begins_rest {declaration : Declaration} {taken separator rest more : List Token}
    {next : Token} (leads : Leads declaration taken separator (next :: rest))
    (begins : Begins (taken ++ (separator ++ (next :: more)))) : Begins (next :: more) := by
  obtain ⟨declarations, behind, spells⟩ := begins
  have still : Leads declaration taken separator (next :: (more ++ behind)) := by
    refine ⟨leads.spells, leads.separated, fun argument clone => ?_, leads.greedy⟩
    have unnamed := leads.unnamed argument clone
    cases separator <;> exact unnamed
  rw [List.append_assoc, List.append_assoc] at spells
  obtain ⟨others, _, rest⟩ := spells.uncons still
  exact ⟨others, behind, rest⟩

/-! ## Tokens that cannot be -/

/-- Behind a keyword, a script has a literal. -/
theorem not_begins_argument {keyword found : Token}
    (opens : keyword.kind.opensDeclaration = true) (different : found.kind ≠ .string) :
    ¬ Begins [keyword, found] := by
  rintro ⟨declarations, more, spells⟩
  obtain ⟨declaration, others, rfl, _⟩ := spells.exists_cons_of_opens opens
  obtain ⟨first, separator, rest, whole, spelled, _, _⟩ := spells.exists_of_cons
  obtain ⟨_, literal, _, rfl, isString⟩ := spelled.exists_argument
  simp only [List.cons_append, List.cons.injEq] at whole
  obtain ⟨_, rfl, _⟩ := whole
  exact different isString

/-- Behind the `as` of a clone, a script has a literal. -/
theorem not_begins_name {keyword literal as found : Token} (clones : keyword.kind = .clone)
    (names : as.kind = .as) (different : found.kind ≠ .string) :
    ¬ Begins [keyword, literal, as, found] := by
  rintro ⟨declarations, more, spells⟩
  obtain ⟨declaration, others, rfl, opens⟩ := spells.exists_cons_of_opens (by rw [clones]; rfl)
  obtain ⟨first, separator, rest, whole, spelled, separated, remaining⟩ := spells.exists_of_cons
  cases spelled with
  | clone _ _ =>
    simp only [List.cons_append, List.nil_append, List.cons.injEq] at whole
    obtain ⟨_, _, whole⟩ := whole
    exact remaining.unnamed separated as (by rw [← whole]; rfl) names
  | cloneAs _ _ _ named =>
    simp only [List.cons_append, List.nil_append, List.cons.injEq] at whole
    obtain ⟨_, _, _, rfl, _⟩ := whole
    exact different named
  | _ =>
    rw [clones] at opens
    cases opens

/-- Where no declaration begins, a script has a semicolon or its end. -/
theorem not_begins_ending {found : Token} (closes : found.kind.opensDeclaration = false)
    (notSemicolon : found.kind ≠ .semicolon) (notFinal : found.kind ≠ .endOfInput) :
    ¬ Begins [found] := by
  rintro ⟨declarations, more, spells⟩
  obtain rfl := spells.eq_nil_of_closes closes
  obtain ⟨next, _, same, kinds⟩ := spells.ending_of_nil.exists_head
  obtain ⟨rfl, _⟩ := List.cons.inj same
  exact kinds.elim notSemicolon notFinal

/-- Behind a semicolon where no declaration begins, a script has its end. -/
theorem not_begins_beyond {semicolon found : Token} (separates : semicolon.kind = .semicolon)
    (notFinal : found.kind ≠ .endOfInput) : ¬ Begins [semicolon, found] := by
  rintro ⟨declarations, more, spells⟩
  obtain rfl := spells.eq_nil_of_closes (by rw [separates]; rfl)
  obtain ⟨final, rest, ended⟩ :=
    @Ending.rest_eq [semicolon] _ spells.ending_of_nil (.semicolon separates) nofun
  obtain ⟨rfl, _⟩ := List.cons.inj rest
  exact notFinal ended

/-! ## Tokens that can be -/

/-- A keyword and a literal make a declaration. -/
theorem exists_spells_of_opens {keyword literal : Token}
    (opens : keyword.kind.opensDeclaration = true) (isString : literal.kind = .string) :
    ∃ declaration : Declaration, declaration.Spells [keyword, literal] := by
  cases kind : keyword.kind with
  | clone => exact ⟨_, .clone kind isString⟩
  | run => exact ⟨_, .run kind isString⟩
  | extract => exact ⟨_, .extract kind isString⟩
  | set => exact ⟨_, .set kind isString⟩
  | _ =>
    rw [kind] at opens
    cases opens

theorem Begins.of_append {tokens more : List Token} (begins : Begins (tokens ++ more)) :
    Begins tokens := by
  obtain ⟨declarations, behind, spells⟩ := begins
  rw [List.append_assoc] at spells
  exact ⟨declarations, more ++ behind, spells⟩

/-- A script can begin with any part of a declaration. -/
theorem begins_of_spells {declaration : Declaration} {tokens more : List Token}
    (spelled : declaration.Spells (tokens ++ more)) : Begins tokens := by
  have whole := begins_nil.cons spelled .missing
  rw [List.append_nil, List.append_nil] at whole
  exact whole.of_append

theorem begins_keyword {keyword : Token} (opens : keyword.kind.opensDeclaration = true) :
    Begins [keyword] := by
  let literal : Token := ⟨.string, "", .origin⟩
  obtain ⟨_, spelled⟩ := exists_spells_of_opens opens (rfl : literal.kind = .string)
  exact @begins_of_spells _ [keyword] [literal] spelled

theorem begins_as {keyword literal as : Token} (clones : keyword.kind = .clone)
    (isString : literal.kind = .string) (names : as.kind = .as) :
    Begins [keyword, literal, as] := by
  let name : Token := ⟨.string, "", .origin⟩
  exact @begins_of_spells _ [keyword, literal, as] [name] (.cloneAs clones isString names rfl)

theorem begins_semicolon {semicolon : Token} (separates : semicolon.kind = .semicolon) :
    Begins [semicolon] :=
  ⟨[], [.final .origin], @Spells.intro [] [] _ .nil (.intro (.semicolon separates) rfl)⟩

/-! ## Where a script stops to be one -/

/-- At this index, tokens cease to begin a script; a token of another kind was asked for. -/
structure Departs (tokens : List Token) (index : Nat) (expected actual : Token.Kind) : Prop where
  begins : Begins (tokens.take index)
  not_begins : ¬ Begins (tokens.take (index + 1))
  expected_eq : expected = Grammar.awaited ((tokens.take index).map Token.kind)
  found : tokens[index]?.map Token.kind = some actual

theorem awaited_keyword {kind : Token.Kind} (opens : kind.opensDeclaration = true) :
    Grammar.awaited [kind] = .string := by
  cases kind with
  | clone | run | extract | set => rfl
  | _ => cases opens

/-- Tokens that are blocked by one of them depart there. -/
theorem Blocks.departs {bindings : Bindings} {tokens : List Token} {index : Nat}
    {expected actual : Token.Kind}
    (blocks : Blocks bindings tokens index (.unexpectedToken expected actual)) :
    Departs tokens index expected actual := by
  cases blocks with
  | argument opens different =>
    exact ⟨begins_keyword opens, not_begins_argument opens different, (awaited_keyword opens).symm,
      rfl⟩
  | name clones isString names different =>
    refine ⟨begins_as clones isString names, not_begins_name clones names different, ?_, rfl⟩
    simp [Grammar.awaited, names]
  | ending closes notSemicolon notFinal =>
    exact ⟨begins_nil, not_begins_ending closes notSemicolon notFinal, rfl, rfl⟩
  | beyond separates notFinal =>
    refine ⟨begins_semicolon separates, not_begins_beyond separates notFinal, ?_, rfl⟩
    simp [Grammar.awaited, separates]

/-- Behind a whole declaration and its separator, no literal is asked for. -/
theorem awaited_of_spells {declaration : Declaration} {taken separator : List Token}
    (spelled : declaration.Spells taken) (separated : Separator separator) :
    Grammar.awaited ((taken ++ separator).map Token.kind) = .endOfInput := by
  cases separated with
  | missing => cases spelled <;> simp [Grammar.awaited, *]
  | semicolon separates => simp [Grammar.awaited, separates]

/-- Tokens depart where those behind a declaration do. -/
theorem Departs.behind {declaration : Declaration} {taken separator rest : List Token}
    {index : Nat} {expected actual : Token.Kind} (departs : Departs rest index expected actual)
    (leads : Leads declaration taken separator rest) :
    Departs (taken ++ (separator ++ rest)) ((taken ++ separator).length + index) expected
      actual := by
  obtain ⟨begins, not_begins, expected_eq, found⟩ := departs
  rw [← List.append_assoc]
  have front (count : Nat) : ((taken ++ separator) ++ rest).take ((taken ++ separator).length + count) =
      (taken ++ separator) ++ rest.take count := List.take_length_add_append count
  refine ⟨?_, ?_, ?_, ?_⟩
  · rw [front, List.append_assoc]
    exact begins.cons leads.spells leads.separated
  · rw [Nat.add_assoc, front, List.append_assoc]
    intro longer
    cases rest with
    | nil => cases found
    | cons next rest => exact not_begins (leads.begins_rest longer)
  · rw [front, List.map_append,
      Grammar.awaited_append (awaited_of_spells leads.spells leads.separated)]
    exact expected_eq
  · rw [List.getElem?_append_right (Nat.le_add_right _ _), Nat.add_sub_cancel_left]
    exact found

/-- Where a script halts at a token that cannot be there, its tokens depart. -/
theorem Halts.departs {around : Surroundings} {ledger : Ledger} {tokens : List Token} {index : Nat}
    {expected actual : Token.Kind}
    (halts : Halts around ledger tokens index (.unexpectedToken expected actual)) :
    Departs tokens index expected actual := by
  generalize cause : Diagnostic.Fault.unexpectedToken expected actual = fault at halts
  induction halts with
  | here blocks =>
    subst cause
    exact blocks.departs
  | later leads _ _ ih => exact (ih cause).behind leads

/-- The index at which tokens depart is the least one up to which no script begins with them. -/
theorem Departs.isLeast {tokens : List Token} {index : Nat} {expected actual : Token.Kind}
    (departs : Departs tokens index expected actual) :
    IsLeast {index | index < tokens.length ∧
      ¬ Grammar.Viable ((tokens.map Token.kind).take (index + 1))} index := by
  have viable (count : Nat) :
      Grammar.Viable ((tokens.map Token.kind).take count) ↔ Begins (tokens.take count) := by
    rw [← List.map_take, begins_iff_viable]
  constructor
  · rw [Set.mem_ofPred_eq, viable]
    refine ⟨?_, departs.not_begins⟩
    obtain ⟨token, found, _⟩ := Option.map_eq_some_iff.1 departs.found
    exact (List.getElem?_eq_some_iff.1 found).1
  · rintro other ⟨_, notViable⟩
    by_contra less
    have shorter : (tokens.map Token.kind).take (other + 1) <+:
        (tokens.map Token.kind).take index := List.take_prefix_take_left (by omega)
    exact notViable (((viable index).2 departs.begins).shortened shorter)

/-- A diagnostic about a token stands at the first token of the text with which no script can go on;
it names the kind of that token, and asks for a literal behind a keyword and for the end of the
input elsewhere. -/
theorem unexpectedToken_isLeast {text filename source : String} {around : Surroundings}
    {place : Position} {expected actual : Token.Kind}
    (failed : (compile text filename around).1 =
      .error ⟨source, place, .unexpectedToken expected actual⟩) :
    ∃ index token, (tokensOf text)[index]? = some token ∧
      IsLeast {index | index < (tokensOf text).length ∧
        ¬ Grammar.Viable (((tokensOf text).map Token.kind).take (index + 1))} index ∧
      place = token.position ∧ actual = token.kind ∧
      expected = Grammar.awaited (((tokensOf text).map Token.kind).take index) := by
  rcases explains_of_compile failed with ⟨_, _, same⟩ | ⟨index, token, fault, halts, found, same⟩
  · cases same
  · cases same
    have departs := halts.departs
    refine ⟨index, token, found, departs.isLeast, rfl, ?_, ?_⟩
    · have kind := departs.found
      rw [found, Option.map_some, Option.some.injEq] at kind
      exact kind.symm
    · rw [← List.map_take]
      exact departs.expected_eq

/-- A clone whose name is missing, behind a declaration and a comment, and in front of what cannot be
read. -/
theorem unexpectedToken_isLeast_unnamed :
    (compile "run \"a\"; clone \"h\" as // c\n; run @" "f" ⟨.standard "/tmp", .empty, "/w", id⟩).1 =
        .error ⟨"f", ⟨2, 1⟩, .unexpectedToken .string .semicolon⟩ ∧
      ∃ index token, (tokensOf "run \"a\"; clone \"h\" as // c\n; run @")[index]? = some token ∧
        IsLeast {index |
          index < (tokensOf "run \"a\"; clone \"h\" as // c\n; run @").length ∧
          ¬ Grammar.Viable (((tokensOf "run \"a\"; clone \"h\" as // c\n; run @").map
            Token.kind).take (index + 1))} index ∧
        ⟨2, 1⟩ = token.position ∧ .semicolon = token.kind ∧
        .string = Grammar.awaited (((tokensOf "run \"a\"; clone \"h\" as // c\n; run @").map
          Token.kind).take index) := by
  have failed : (compile "run \"a\"; clone \"h\" as // c\n; run @" "f"
      ⟨.standard "/tmp", .empty, "/w", id⟩).1 =
      .error ⟨"f", ⟨2, 1⟩, .unexpectedToken .string .semicolon⟩ := by
    with_unfolding_all rfl
  exact ⟨failed, unexpectedToken_isLeast failed⟩

end Script

end SetupScript
