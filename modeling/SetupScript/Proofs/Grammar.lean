import Mathlib.Computability.Language
import SetupScript.Token

/-!
# Grammar

The grammar of scripts, in two forms.  `Grammar.script` is the language of token kinds that a script
may have; `Script.Spells` relates the tokens of a script to its declarations.  They describe the
same token lists (`Script.map_kind_mem_script_iff`).  A list of tokens begins with one declaration
at most, taken with as much of its name and its separator as there is (`Script.Leads.unique`), so a
script has one list of declarations (`Script.Spells.unique`).
-/

namespace SetupScript

/-- The tokens that matter to the grammar: all but the comments. -/
def Token.significant (tokens : List Token) : List Token :=
  tokens.filter fun token => token.kind ≠ .comment

/-! ## The language of scripts -/

namespace Grammar

open scoped Computability

/-- Tokens of exactly these kinds. -/
def phrase (kinds : List Token.Kind) : Language Token.Kind :=
  {kinds}

/-- A part that may be missing. -/
def optional (part : Language Token.Kind) : Language Token.Kind :=
  1 + part

/-- The kinds of a declaration's tokens. -/
def declaration : Language Token.Kind :=
  phrase [.clone, .string] * optional (phrase [.as, .string]) + phrase [.run, .string] +
    phrase [.extract, .string] + phrase [.set, .string]

/-- The kinds of a script's tokens: declarations, each with a semicolon that may be missing, one
more such semicolon, and the end of the input. -/
def script : Language Token.Kind :=
  (declaration * optional (phrase [.semicolon]))∗ * optional (phrase [.semicolon]) *
    phrase [.endOfInput]

theorem mem_phrase {kinds wanted : List Token.Kind} : kinds ∈ phrase wanted ↔ kinds = wanted :=
  Iff.rfl

theorem mem_optional {kinds : List Token.Kind} {part : Language Token.Kind} :
    kinds ∈ optional part ↔ kinds = [] ∨ kinds ∈ part :=
  Iff.rfl

/-- The five forms of a declaration. -/
theorem mem_declaration {kinds : List Token.Kind} :
    kinds ∈ declaration ↔ kinds = [.clone, .string] ∨ kinds = [.clone, .string, .as, .string] ∨
      kinds = [.run, .string] ∨ kinds = [.extract, .string] ∨ kinds = [.set, .string] := by
  simp only [declaration, Language.mem_add, Language.mem_mul, mem_phrase, mem_optional]
  constructor
  · rintro (((⟨_, rfl, _, rfl | rfl, rfl⟩ | rfl) | rfl) | rfl) <;> simp
  · rintro (rfl | rfl | rfl | rfl | rfl) <;> simp

end Grammar

/-! ## Declarations and their tokens -/

/-- A declaration with the texts of its literals. -/
inductive Declaration
  | clone (argument : String) (name : Option String)
  | run (argument : String)
  | extract (argument : String)
  | set (argument : String)
deriving DecidableEq

namespace Declaration

/-- The keyword that opens a declaration. -/
def keyword : Declaration → Token.Kind
  | clone _ _ => .clone
  | run _ => .run
  | extract _ => .extract
  | set _ => .set

theorem opensDeclaration_keyword (declaration : Declaration) :
    declaration.keyword.opensDeclaration = true := by
  cases declaration <;> rfl

/-- A declaration is spelled by its keyword and the literals behind it. -/
inductive Spells : Declaration → List Token → Prop
  | clone {keyword literal : Token} (opens : keyword.kind = .clone)
      (argument : literal.kind = .string) :
      Spells (.clone literal.text none) [keyword, literal]
  | cloneAs {keyword literal as name : Token} (opens : keyword.kind = .clone)
      (argument : literal.kind = .string) (names : as.kind = .as) (named : name.kind = .string) :
      Spells (.clone literal.text (some name.text)) [keyword, literal, as, name]
  | run {keyword literal : Token} (opens : keyword.kind = .run)
      (argument : literal.kind = .string) : Spells (.run literal.text) [keyword, literal]
  | extract {keyword literal : Token} (opens : keyword.kind = .extract)
      (argument : literal.kind = .string) : Spells (.extract literal.text) [keyword, literal]
  | set {keyword literal : Token} (opens : keyword.kind = .set)
      (argument : literal.kind = .string) : Spells (.set literal.text) [keyword, literal]

/-- The tokens of a declaration begin with its keyword. -/
theorem Spells.exists_keyword {declaration : Declaration} {tokens : List Token}
    (spells : declaration.Spells tokens) :
    ∃ keyword rest, tokens = keyword :: rest ∧ keyword.kind = declaration.keyword := by
  cases spells with
  | clone opens _ => exact ⟨_, _, rfl, opens⟩
  | cloneAs opens _ _ _ => exact ⟨_, _, rfl, opens⟩
  | run opens _ => exact ⟨_, _, rfl, opens⟩
  | extract opens _ => exact ⟨_, _, rfl, opens⟩
  | set opens _ => exact ⟨_, _, rfl, opens⟩

/-- Behind the keyword of a declaration there is its argument. -/
theorem Spells.exists_argument {declaration : Declaration} {tokens : List Token}
    (spells : declaration.Spells tokens) :
    ∃ keyword literal rest, tokens = keyword :: literal :: rest ∧ literal.kind = .string := by
  cases spells with
  | clone _ argument => exact ⟨_, _, _, rfl, argument⟩
  | cloneAs _ argument _ _ => exact ⟨_, _, _, rfl, argument⟩
  | run _ argument => exact ⟨_, _, _, rfl, argument⟩
  | extract _ argument => exact ⟨_, _, _, rfl, argument⟩
  | set _ argument => exact ⟨_, _, _, rfl, argument⟩

/-- Declarations that begin in the same place have the same keyword. -/
theorem Spells.keyword_eq {first second : Declaration} {tokens others rest otherRest : List Token}
    (spells : first.Spells tokens) (otherSpells : second.Spells others)
    (same : tokens ++ rest = others ++ otherRest) : first.keyword = second.keyword := by
  obtain ⟨keyword, _, rfl, opens⟩ := spells.exists_keyword
  obtain ⟨other, _, rfl, otherOpens⟩ := otherSpells.exists_keyword
  obtain ⟨rfl, _⟩ := List.cons.inj same
  exact opens.symm.trans otherOpens

/-- Tokens spell no more than one declaration. -/
theorem Spells.unique {first second : Declaration} {tokens : List Token}
    (spells : first.Spells tokens) (otherSpells : second.Spells tokens) : first = second := by
  have keywords := spells.keyword_eq otherSpells (rfl : tokens ++ [] = tokens ++ [])
  cases spells with
  | clone _ _ =>
    cases otherSpells with
    | clone _ _ => rfl
    | _ => cases keywords
  | cloneAs _ _ _ _ =>
    cases otherSpells with
    | cloneAs _ _ _ _ => rfl
  | run _ _ =>
    cases otherSpells with
    | run _ _ => rfl
    | _ => cases keywords
  | extract _ _ =>
    cases otherSpells with
    | extract _ _ => rfl
    | _ => cases keywords
  | set _ _ =>
    cases otherSpells with
    | set _ _ => rfl
    | _ => cases keywords

/-- No two declarations begin in the same place, unless one of them leaves out a name that the
tokens have. -/
theorem Spells.append_inj {first second : Declaration} {tokens others rest otherRest : List Token}
    (spells : first.Spells tokens) (otherSpells : second.Spells others)
    (same : tokens ++ rest = others ++ otherRest)
    (unnamed : ∀ argument, first = .clone argument none → ∀ next ∈ rest.head?, next.kind ≠ .as)
    (otherUnnamed : ∀ argument, second = .clone argument none →
      ∀ next ∈ otherRest.head?, next.kind ≠ .as) :
    first = second ∧ rest = otherRest := by
  by_cases lengths : tokens.length = others.length
  · obtain ⟨rfl, rests⟩ := List.append_inj same lengths
    exact ⟨spells.unique otherSpells, rests⟩
  · have keywords := spells.keyword_eq otherSpells same
    cases spells with
    | clone _ _ =>
      cases otherSpells with
      | cloneAs _ _ names _ =>
        simp only [List.cons_append, List.nil_append, List.cons.injEq] at same
        obtain ⟨rfl, rfl, rfl⟩ := same
        exact absurd names (unnamed _ rfl _ rfl)
      | _ => exact absurd rfl lengths
    | cloneAs _ _ names _ =>
      cases otherSpells with
      | clone _ _ =>
        simp only [List.cons_append, List.nil_append, List.cons.injEq] at same
        obtain ⟨rfl, rfl, rfl⟩ := same
        exact absurd names (otherUnnamed _ rfl _ rfl)
      | cloneAs _ _ _ _ => exact absurd rfl lengths
      | _ => cases keywords
    | _ =>
      cases otherSpells with
      | cloneAs _ _ _ _ => cases keywords
      | _ => exact absurd rfl lengths

/-- The tokens of a declaration are those whose kinds the grammar allows. -/
theorem map_kind_mem_declaration_iff {tokens : List Token} :
    tokens.map Token.kind ∈ Grammar.declaration ↔
      ∃ declaration : Declaration, declaration.Spells tokens := by
  simp only [Grammar.mem_declaration, List.map_eq_cons_iff, List.map_eq_nil_iff]
  constructor
  · rintro (⟨keyword, _, rfl, opens, literal, _, rfl, argument, rfl⟩ |
      ⟨keyword, _, rfl, opens, literal, _, rfl, argument, as, _, rfl, names, name, _, rfl, named,
        rfl⟩ |
      ⟨keyword, _, rfl, opens, literal, _, rfl, argument, rfl⟩ |
      ⟨keyword, _, rfl, opens, literal, _, rfl, argument, rfl⟩ |
      ⟨keyword, _, rfl, opens, literal, _, rfl, argument, rfl⟩)
    · exact ⟨_, .clone opens argument⟩
    · exact ⟨_, .cloneAs opens argument names named⟩
    · exact ⟨_, .run opens argument⟩
    · exact ⟨_, .extract opens argument⟩
    · exact ⟨_, .set opens argument⟩
  · rintro ⟨declaration, spells⟩
    cases spells <;> simp [*]

end Declaration

/-! ## Scripts and their tokens -/

namespace Script

/-- A semicolon, or nothing. -/
inductive Separator : List Token → Prop
  | missing : Separator []
  | semicolon {token : Token} (separates : token.kind = .semicolon) : Separator [token]

/-- Declarations one behind the other, each with a semicolon that may be missing. -/
inductive Body : List Declaration → List Token → Prop
  | nil : Body [] []
  | cons {declaration : Declaration} {declarations : List Declaration}
      {tokens separator rest : List Token} (first : declaration.Spells tokens)
      (separated : Separator separator) (others : Body declarations rest) :
      Body (declaration :: declarations) (tokens ++ (separator ++ rest))

/-- What stands behind the declarations of a script: a semicolon, which may be missing, and the
final token. -/
inductive Ending : List Token → Prop
  | intro {separator : List Token} {final : Token} (separated : Separator separator)
      (ended : final.kind = .endOfInput) : Ending (separator ++ [final])

/-- The tokens of a script with these declarations. -/
inductive Spells : List Declaration → List Token → Prop
  | intro {declarations : List Declaration} {body ending : List Token}
      (spelled : Body declarations body) (ended : Ending ending) :
      Spells declarations (body ++ ending)

/-- One more declaration and its separator can stand behind others. -/
theorem Body.concat {declarations : List Declaration} {declaration : Declaration}
    {body tokens separator : List Token} (declared : Body declarations body)
    (last : declaration.Spells tokens) (separated : Separator separator) :
    Body (declarations ++ [declaration]) (body ++ (tokens ++ separator)) := by
  induction declared with
  | nil =>
    have alone := Body.cons last separated .nil
    rwa [List.append_nil] at alone
  | cons first firstSeparated _ ih =>
    rw [List.append_assoc, List.append_assoc]
    exact .cons first firstSeparated ih

/-- A separator is a part of the grammar that may be missing. -/
theorem separator_iff {tokens : List Token} :
    Separator tokens ↔
      tokens.map Token.kind ∈ Grammar.optional (Grammar.phrase [.semicolon]) := by
  simp only [Grammar.mem_optional, Grammar.mem_phrase, List.map_eq_cons_iff, List.map_eq_nil_iff]
  constructor
  · rintro (_ | separates)
    · exact Or.inl rfl
    · exact Or.inr ⟨_, _, rfl, separates, rfl⟩
  · rintro (rfl | ⟨token, _, rfl, separates, rfl⟩)
    · exact .missing
    · exact .semicolon separates

/-- The kinds of a declaration and its separator. -/
theorem map_kind_mem_kstar_iff {tokens : List Token} :
    (tokens.map Token.kind ∈
        KStar.kstar (Grammar.declaration * Grammar.optional (Grammar.phrase [.semicolon]))) ↔
      ∃ declarations, Body declarations tokens := by
  constructor
  · intro member
    obtain ⟨parts, kinds, inside⟩ := Language.mem_kstar.1 member
    clear member
    induction parts generalizing tokens with
    | nil =>
      rw [List.flatten_nil, List.map_eq_nil_iff] at kinds
      exact ⟨[], kinds ▸ .nil⟩
    | cons part parts ih =>
      rw [List.flatten_cons, List.map_eq_append_iff] at kinds
      obtain ⟨tokens, rest, rfl, rfl, restKinds⟩ := kinds
      obtain ⟨others, body⟩ :=
        ih restKinds fun other member => inside other (List.mem_cons_of_mem _ member)
      obtain ⟨first, firstMember, second, secondMember, split⟩ :=
        Language.mem_mul.1 (inside _ List.mem_cons_self)
      obtain ⟨spelled, separator, rfl, rfl, rfl⟩ := List.map_eq_append_iff.1 split.symm
      obtain ⟨declaration, spells⟩ := Declaration.map_kind_mem_declaration_iff.1 firstMember
      refine ⟨declaration :: others, ?_⟩
      rw [List.append_assoc]
      exact .cons spells (separator_iff.2 secondMember) body
  · rintro ⟨declarations, body⟩
    induction body with
    | nil => exact Language.nil_mem_kstar _
    | cons first separated others ih =>
      have firstMember := Declaration.map_kind_mem_declaration_iff.2 ⟨_, first⟩
      have separatorMember := separator_iff.1 separated
      rw [← Language.one_add_self_mul_kstar_eq_kstar, ← List.append_assoc, List.map_append,
        List.map_append]
      have roundMember := Language.append_mem_mul firstMember separatorMember
      exact Or.inr (Language.append_mem_mul roundMember ih)

/-- The tokens of scripts are those whose kinds the grammar allows. -/
theorem map_kind_mem_script_iff {tokens : List Token} :
    tokens.map Token.kind ∈ Grammar.script ↔ ∃ declarations, Spells declarations tokens := by
  constructor
  · intro member
    obtain ⟨front, frontMember, last, lastMember, whole⟩ := Language.mem_mul.1 member
    obtain ⟨first, firstMember, second, secondMember, rfl⟩ := Language.mem_mul.1 frontMember
    rw [eq_comm, List.append_assoc, List.map_eq_append_iff] at whole
    obtain ⟨body, rest, rfl, rfl, restKinds⟩ := whole
    obtain ⟨separator, final, rfl, rfl, rfl⟩ := List.map_eq_append_iff.1 restKinds
    obtain ⟨declarations, spelled⟩ := map_kind_mem_kstar_iff.1 firstMember
    rw [Grammar.mem_phrase, List.map_eq_cons_iff] at lastMember
    obtain ⟨token, none, rfl, ended, noneLeft⟩ := lastMember
    rw [List.map_eq_nil_iff] at noneLeft
    subst noneLeft
    exact ⟨declarations, .intro spelled (.intro (separator_iff.2 secondMember) ended)⟩
  · rintro ⟨declarations, spelled, separated, ended⟩
    have bodyMember := map_kind_mem_kstar_iff.2 ⟨_, spelled⟩
    have separatorMember := separator_iff.1 separated
    rw [← List.append_assoc, List.map_append, List.map_append]
    refine Language.append_mem_mul (Language.append_mem_mul bodyMember separatorMember) ?_
    rw [Grammar.mem_phrase, List.map_singleton, ended]

/-! ## Reading from the left -/

/-- The last tokens of a script begin with a semicolon or are the final one. -/
theorem Ending.exists_head {tokens : List Token} (ending : Ending tokens) :
    ∃ next rest, tokens = next :: rest ∧ (next.kind = .semicolon ∨ next.kind = .endOfInput) := by
  obtain ⟨_ | separates, ended⟩ := ending
  · exact ⟨_, [], rfl, Or.inr ended⟩
  · exact ⟨_, _, rfl, Or.inl separates⟩

/-- The last tokens of a script do not begin with a declaration. -/
theorem Ending.closes {next : Token} {rest : List Token} (ending : Ending (next :: rest)) :
    next.kind.opensDeclaration = false := by
  obtain ⟨last, _, same, kinds⟩ := ending.exists_head
  obtain ⟨rfl, _⟩ := List.cons.inj same
  rcases kinds with kind | kind
  · rw [kind]
    rfl
  · rw [kind]
    rfl

theorem Ending.of_semicolon {token : Token} {rest : List Token}
    (ending : Ending (token :: rest)) (separates : token.kind = .semicolon) : Ending rest := by
  generalize whole : token :: rest = tokens at ending
  obtain ⟨_ | _, ended⟩ := ending
  · obtain ⟨rfl, _⟩ := List.cons.inj whole
    rw [separates] at ended
    cases ended
  · obtain ⟨_, rfl⟩ := List.cons.inj whole
    exact .intro .missing ended

/-- A script with a first declaration begins with the tokens of that declaration. -/
theorem Spells.exists_of_cons {declaration : Declaration} {declarations : List Declaration}
    {tokens : List Token} (spells : Spells (declaration :: declarations) tokens) :
    ∃ first separator rest, tokens = first ++ (separator ++ rest) ∧ declaration.Spells first ∧
      Separator separator ∧ Spells declarations rest := by
  obtain ⟨body, ended⟩ := spells
  cases body with
  | cons spelled separated others =>
    refine ⟨_, _, _, ?_, spelled, separated, .intro others ended⟩
    rw [List.append_assoc, List.append_assoc]

/-- Behind the separator of an ending, taken greedily, there is only the final token. -/
theorem Ending.rest_eq {separator rest : List Token} (ending : Ending (separator ++ rest))
    (separated : Separator separator)
    (greedy : separator = [] → ∀ next ∈ rest.head?, next.kind ≠ .semicolon) :
    ∃ final, rest = [final] ∧ final.kind = .endOfInput := by
  generalize whole : separator ++ rest = tokens at ending
  obtain ⟨own, ended⟩ := ending
  cases separated with
  | missing =>
    cases own with
    | missing => exact ⟨_, whole, ended⟩
    | semicolon separates =>
      subst whole
      exact absurd separates (greedy rfl _ rfl)
  | semicolon separates =>
    cases own with
    | missing =>
      obtain ⟨rfl, _⟩ := List.cons.inj whole
      rw [ended] at separates
      cases separates
    | semicolon _ =>
      obtain ⟨_, rfl⟩ := List.cons.inj whole
      exact ⟨_, rfl, ended⟩

/-- A script without declarations is only its ending. -/
theorem Spells.ending_of_nil {tokens : List Token} (spells : Spells [] tokens) : Ending tokens := by
  obtain ⟨body, ended⟩ := spells
  cases body
  exact ended

/-- A script that begins with a keyword has a first declaration with that keyword. -/
theorem Spells.exists_cons_of_opens {declarations : List Declaration} {next : Token}
    {rest : List Token} (spells : Spells declarations (next :: rest))
    (opens : next.kind.opensDeclaration = true) :
    ∃ declaration others, declarations = declaration :: others ∧
      declaration.keyword = next.kind := by
  cases declarations with
  | nil =>
    rw [spells.ending_of_nil.closes] at opens
    cases opens
  | cons declaration others =>
    obtain ⟨first, separator, after, whole, spelled, _, _⟩ := spells.exists_of_cons
    obtain ⟨keyword, _, rfl, kind⟩ := spelled.exists_keyword
    obtain ⟨rfl, _⟩ := List.cons.inj whole
    exact ⟨declaration, others, rfl, kind.symm⟩

/-- A script that does not begin with a keyword has no declaration. -/
theorem Spells.eq_nil_of_closes {declarations : List Declaration} {next : Token}
    {rest : List Token} (spells : Spells declarations (next :: rest))
    (closes : next.kind.opensDeclaration = false) : declarations = [] := by
  cases declarations with
  | nil => rfl
  | cons declaration others =>
    obtain ⟨first, separator, after, whole, spelled, _, _⟩ := spells.exists_of_cons
    obtain ⟨keyword, _, rfl, kind⟩ := spelled.exists_keyword
    obtain ⟨rfl, _⟩ := List.cons.inj whole
    rw [kind, declaration.opensDeclaration_keyword] at closes
    cases closes

/-- Behind a declaration of a script there is no name for it. -/
theorem Spells.unnamed {declarations : List Declaration} {separator rest : List Token}
    (spells : Spells declarations rest) (separated : Separator separator) :
    ∀ next ∈ (separator ++ rest).head?, next.kind ≠ .as := by
  intro next first
  cases separated with
  | semicolon separates =>
    cases first
    rw [separates]
    exact nofun
  | missing =>
    obtain ⟨tail, rfl⟩ := List.head?_eq_some_iff.1 first
    intro kind
    obtain rfl := spells.eq_nil_of_closes (by rw [kind]; rfl)
    obtain ⟨last, _, same, kinds⟩ := spells.ending_of_nil.exists_head
    obtain ⟨rfl, _⟩ := List.cons.inj same
    rw [kind] at kinds
    rcases kinds with other | other
    · cases other
    · cases other

/-- Two ways to take a separator in front of the rest of a script: the rest is the same, or the
semicolon that one of them leaves ends the script. -/
theorem Spells.separator_inj {declarations : List Declaration}
    {separator rest other otherRest : List Token} (spells : Spells declarations rest)
    (separated : Separator separator) (otherSeparated : Separator other)
    (greedy : other = [] → ∀ next ∈ otherRest.head?, next.kind ≠ .semicolon)
    (same : separator ++ rest = other ++ otherRest) : Spells declarations otherRest := by
  cases separated with
  | semicolon separates =>
    cases otherSeparated with
    | semicolon _ =>
      obtain ⟨_, rfl⟩ := List.cons.inj same
      exact spells
    | missing =>
      subst same
      exact absurd separates (greedy rfl _ rfl)
  | missing =>
    cases otherSeparated with
    | missing =>
      subst same
      exact spells
    | semicolon separates =>
      subst same
      obtain rfl := spells.eq_nil_of_closes (by rw [separates]; rfl)
      exact .intro .nil (spells.ending_of_nil.of_semicolon separates)

/-- The separator in front of the rest of a script can be taken greedily. -/
theorem Spells.exists_greedy {declarations : List Declaration} {separator rest : List Token}
    (spells : Spells declarations rest) (separated : Separator separator) :
    ∃ other otherRest, separator ++ rest = other ++ otherRest ∧ Separator other ∧
      (other = [] → ∀ next ∈ otherRest.head?, next.kind ≠ .semicolon) ∧
      Spells declarations otherRest := by
  cases separated with
  | semicolon separates => exact ⟨_, _, rfl, .semicolon separates, nofun, spells⟩
  | missing =>
    by_cases starts : ∃ next ∈ rest.head?, next.kind = .semicolon
    · obtain ⟨next, first, separates⟩ := starts
      obtain ⟨tail, rfl⟩ := List.head?_eq_some_iff.1 first
      have separated := Separator.semicolon separates
      exact ⟨[next], tail, rfl, separated, nofun,
        spells.separator_inj .missing separated nofun rfl⟩
    · exact ⟨[], rest, rfl, .missing, fun _ next first kind => starts ⟨next, first, kind⟩, spells⟩

/-! ## The next declaration -/

/-- A declaration is taken off the front, with its name and a separator if they are there. -/
structure Leads (declaration : Declaration) (taken separator rest : List Token) : Prop where
  spells : declaration.Spells taken
  separated : Separator separator
  unnamed : ∀ argument, declaration = .clone argument none →
    ∀ next ∈ (separator ++ rest).head?, next.kind ≠ .as
  greedy : separator = [] → ∀ next ∈ rest.head?, next.kind ≠ .semicolon

/-- A separator that is taken if it is there can be taken in one way. -/
theorem Separator.append_inj {separator rest other otherRest : List Token}
    (separated : Separator separator) (otherSeparated : Separator other)
    (greedy : separator = [] → ∀ next ∈ rest.head?, next.kind ≠ .semicolon)
    (otherGreedy : other = [] → ∀ next ∈ otherRest.head?, next.kind ≠ .semicolon)
    (same : separator ++ rest = other ++ otherRest) : separator = other ∧ rest = otherRest := by
  cases separated with
  | missing =>
    cases otherSeparated with
    | missing => exact ⟨rfl, same⟩
    | semicolon separates =>
      subst same
      exact absurd separates (greedy rfl _ rfl)
  | semicolon separates =>
    cases otherSeparated with
    | missing =>
      subst same
      exact absurd separates (otherGreedy rfl _ rfl)
    | semicolon _ =>
      obtain ⟨rfl, rests⟩ := List.cons.inj same
      exact ⟨rfl, rests⟩

/-- Tokens begin with one declaration at most. -/
theorem Leads.unique {first second : Declaration}
    {taken separator rest other otherSeparator otherRest : List Token}
    (leads : Leads first taken separator rest)
    (otherLeads : Leads second other otherSeparator otherRest)
    (same : taken ++ (separator ++ rest) = other ++ (otherSeparator ++ otherRest)) :
    first = second ∧ taken = other ∧ separator = otherSeparator ∧ rest = otherRest := by
  obtain ⟨rfl, behind⟩ :=
    leads.spells.append_inj otherLeads.spells same leads.unnamed otherLeads.unnamed
  obtain ⟨rfl, rfl⟩ :=
    leads.separated.append_inj otherLeads.separated leads.greedy otherLeads.greedy behind
  exact ⟨rfl, List.append_cancel_right same, rfl, rfl⟩

/-- The first declaration of a script can be taken off its front. -/
theorem Spells.exists_leads {declaration : Declaration} {declarations : List Declaration}
    {tokens : List Token} (spells : Spells (declaration :: declarations) tokens) :
    ∃ taken separator rest, tokens = taken ++ (separator ++ rest) ∧
      Leads declaration taken separator rest ∧ Spells declarations rest := by
  obtain ⟨taken, separator, rest, rfl, spelled, separated, remaining⟩ := spells.exists_of_cons
  have unnamed := remaining.unnamed separated
  obtain ⟨other, otherRest, same, isSeparator, greedy, others⟩ :=
    remaining.exists_greedy separated
  rw [same] at unnamed ⊢
  exact ⟨taken, other, otherRest, rfl, ⟨spelled, isSeparator, fun _ _ => unnamed, greedy⟩, others⟩

/-- Where a declaration can be taken off the front of a script, it is the first one. -/
theorem Spells.uncons {declaration : Declaration} {declarations : List Declaration}
    {taken separator rest : List Token}
    (spells : Spells declarations (taken ++ (separator ++ rest)))
    (leads : Leads declaration taken separator rest) :
    ∃ others, declarations = declaration :: others ∧ Spells others rest := by
  cases declarations with
  | nil =>
    obtain ⟨keyword, _, rfl, opens⟩ := leads.spells.exists_keyword
    have closes := spells.ending_of_nil.closes
    rw [opens, declaration.opensDeclaration_keyword] at closes
    cases closes
  | cons other others =>
    obtain ⟨_, _, _, whole, otherLeads, remaining⟩ := spells.exists_leads
    obtain ⟨rfl, rfl, rfl, rfl⟩ := leads.unique otherLeads whole
    exact ⟨others, rfl, remaining⟩

/-- The tokens of a script determine its declarations. -/
theorem Spells.unique {first second : List Declaration} {tokens : List Token}
    (spells : Spells first tokens) (otherSpells : Spells second tokens) : first = second := by
  induction first generalizing second tokens with
  | nil =>
    have ending := spells.ending_of_nil
    obtain ⟨last, _, rfl, _⟩ := ending.exists_head
    exact (otherSpells.eq_nil_of_closes ending.closes).symm
  | cons declaration declarations ih =>
    obtain ⟨taken, separator, rest, rfl, leads, remaining⟩ := spells.exists_leads
    obtain ⟨others, rfl, othersSpell⟩ := otherSpells.uncons leads
    rw [ih remaining othersSpell]

end Script

end SetupScript
