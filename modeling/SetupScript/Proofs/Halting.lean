import SetupScript.Proofs.Meaning

/-!
# Halting

Where and why the tokens of a script break off.  A script is taken one declaration at a time until a
token stands where it cannot be, or an argument cannot be cut (`Script.Blocks`).  The index of the
token at fault and the fault itself are determined by the tokens and the ledger
(`Script.Halts.unique`).
-/

namespace SetupScript

/-! ## Keywords -/

@[simp]
theorem Token.Kind.opensDeclaration_clone : clone.opensDeclaration = true := rfl

@[simp]
theorem Token.Kind.opensDeclaration_semicolon : semicolon.opensDeclaration = false := rfl

namespace Diagnostic.Form

/-- The keyword of the declarations whose arguments are cut so. -/
def keyword : Form → Token.Kind
  | spaced => .extract
  | assignment => .set

@[simp]
theorem opensDeclaration_keyword (form : Form) : form.keyword.opensDeclaration = true := by
  cases form <;> rfl

@[simp]
theorem keyword_ne_clone (form : Form) : form.keyword ≠ .clone := by
  cases form <;> exact nofun

@[simp]
theorem keyword_ne_semicolon (form : Form) : form.keyword ≠ .semicolon := by
  cases form <;> exact nofun

theorem keyword_inj {first second : Form} : first.keyword = second.keyword ↔ first = second := by
  cases first <;> cases second <;> simp [keyword]

end Diagnostic.Form

namespace Script

/-! ## Where no declaration can be taken -/

/-- Nothing can be made of the tokens at hand.  The token at this index is no literal where the
argument or the name of a declaration is due, or an argument that cannot be cut, or it stands behind
all declarations and is not the final one. -/
inductive Blocks (bindings : Bindings) : List Token → Nat → Diagnostic.Fault → Prop
  | argument {keyword found : Token} {rest : List Token}
      (opens : keyword.kind.opensDeclaration = true) (different : found.kind ≠ .string) :
      Blocks bindings (keyword :: found :: rest) 1 (.unexpectedToken .string found.kind)
  | name {keyword literal as found : Token} {rest : List Token} (clones : keyword.kind = .clone)
      (isString : literal.kind = .string) (names : as.kind = .as)
      (different : found.kind ≠ .string) :
      Blocks bindings (keyword :: literal :: as :: found :: rest) 3
        (.unexpectedToken .string found.kind)
  | parts {keyword literal : Token} {rest : List Token} {count : Nat} (form : Diagnostic.Form)
      (cuts : keyword.kind = form.keyword) (isString : literal.kind = .string)
      (uncut : Declaration.twoParts form (Reference.resolve bindings literal.text) =
        .error count) :
      Blocks bindings (keyword :: literal :: rest) 1 (.argumentCount form count)
  | ending {found : Token} {rest : List Token} (closes : found.kind.opensDeclaration = false)
      (notSemicolon : found.kind ≠ .semicolon) (notFinal : found.kind ≠ .endOfInput) :
      Blocks bindings (found :: rest) 0 (.unexpectedToken .endOfInput found.kind)
  | beyond {semicolon found : Token} {rest : List Token} (separates : semicolon.kind = .semicolon)
      (notFinal : found.kind ≠ .endOfInput) :
      Blocks bindings (semicolon :: found :: rest) 1 (.unexpectedToken .endOfInput found.kind)

/-- Tokens are blocked at one place and for one reason. -/
theorem Blocks.unique {bindings : Bindings} {tokens : List Token} {index other : Nat}
    {fault otherFault : Diagnostic.Fault} (blocks : Blocks bindings tokens index fault)
    (otherBlocks : Blocks bindings tokens other otherFault) : index = other ∧ fault = otherFault := by
  cases blocks with
  | argument opens different =>
    cases otherBlocks with
    | argument _ _ => exact ⟨rfl, rfl⟩
    | _ => simp_all
  | name clones isString names different =>
    cases otherBlocks with
    | name _ _ _ _ => exact ⟨rfl, rfl⟩
    | _ => simp_all
  | parts form cuts isString uncut =>
    cases otherBlocks with
    | parts other otherCuts _ otherUncut =>
      obtain rfl := Diagnostic.Form.keyword_inj.1 (cuts.symm.trans otherCuts)
      rw [uncut, Except.error.injEq] at otherUncut
      exact ⟨rfl, by rw [otherUncut]⟩
    | name clones _ _ _ => exact absurd (cuts.symm.trans clones) form.keyword_ne_clone
    | beyond separates _ => exact absurd (cuts.symm.trans separates) form.keyword_ne_semicolon
    | _ => simp_all
  | ending closes notSemicolon notFinal =>
    cases otherBlocks with
    | ending _ _ _ => exact ⟨rfl, rfl⟩
    | _ => simp_all
  | beyond separates notFinal =>
    cases otherBlocks with
    | beyond _ _ => exact ⟨rfl, rfl⟩
    | _ => simp_all

/-- A declaration whose argument must have two parts has them if it has a meaning. -/
theorem exists_parts_of_means {around : Surroundings} {declaration : Declaration}
    {ledger last : Ledger} {form : Diagnostic.Form} {keyword literal : Token} {rest : List Token}
    (means : declaration.Means around ledger last) (cuts : declaration.keyword = form.keyword)
    (spelled : declaration.Spells (keyword :: literal :: rest)) :
    ∃ first second, Declaration.Parts (Declaration.separator form)
      (Reference.resolve ledger.bindings literal.text) first second := by
  cases form with
  | spaced =>
    cases means with
    | extract parts _ =>
      cases spelled
      exact ⟨_, _, parts⟩
    | _ => cases cuts
  | assignment =>
    cases means with
    | set parts =>
      cases spelled
      exact ⟨_, _, parts⟩
    | _ => cases cuts

/-- Where a declaration with a meaning can be taken, nothing is blocked. -/
theorem Leads.not_blocks {around : Surroundings} {declaration : Declaration}
    {taken separator rest : List Token} {ledger middle : Ledger} {index : Nat}
    {fault : Diagnostic.Fault} (leads : Leads declaration taken separator rest)
    (means : declaration.Means around ledger middle) :
    ¬ Blocks ledger.bindings (taken ++ (separator ++ rest)) index fault := by
  intro blocks
  have spells := leads.spells
  obtain ⟨keyword, literal, more, rfl, isString⟩ := spells.exists_argument
  obtain ⟨_, _, same, keywordKind⟩ := spells.exists_keyword
  obtain ⟨rfl, _⟩ := List.cons.inj same
  have opens := declaration.opensDeclaration_keyword
  rw [← keywordKind] at opens
  rw [List.cons_append, List.cons_append] at blocks
  generalize behind : more ++ (separator ++ rest) = tail at blocks
  cases blocks with
  | argument _ different => exact different isString
  | name _ _ names different =>
    cases spells with
    | clone _ _ =>
      rw [List.nil_append] at behind
      exact leads.unnamed _ rfl _ (by rw [behind, List.head?_cons]; rfl) names
    | cloneAs _ _ _ named =>
      simp only [List.cons_append, List.cons.injEq] at behind
      obtain ⟨_, rfl, _⟩ := behind
      exact different named
    | _ => simp_all
  | parts form cuts _ uncut =>
    obtain ⟨first, second, parts⟩ := exists_parts_of_means means (keywordKind ▸ cuts) spells
    exact Declaration.not_parts_of_error uncut parts
  | ending closes _ _ =>
    rw [closes] at opens
    cases opens
  | beyond separates _ =>
    rw [separates] at opens
    cases opens

/-! ## Where a script halts -/

/-- Some declarations are taken and change the ledger as they mean, and then nothing can be made of
the tokens; the index of the token at fault counts from the start. -/
inductive Halts (around : Surroundings) :
    Ledger → List Token → Nat → Diagnostic.Fault → Prop
  | here {ledger : Ledger} {tokens : List Token} {index : Nat} {fault : Diagnostic.Fault}
      (blocks : Blocks ledger.bindings tokens index fault) : Halts around ledger tokens index fault
  | later {declaration : Declaration} {ledger middle : Ledger}
      {taken separator rest : List Token} {index : Nat} {fault : Diagnostic.Fault}
      (leads : Leads declaration taken separator rest)
      (means : declaration.Means around ledger middle)
      (others : Halts around middle rest index fault) :
      Halts around ledger (taken ++ (separator ++ rest)) ((taken ++ separator).length + index) fault

/-- A script halts at one token and for one reason. -/
theorem Halts.unique {around : Surroundings} {ledger : Ledger} {tokens : List Token}
    {index other : Nat} {fault otherFault : Diagnostic.Fault}
    (halts : Halts around ledger tokens index fault)
    (otherHalts : Halts around ledger tokens other otherFault) :
    index = other ∧ fault = otherFault := by
  induction halts generalizing other with
  | here blocks =>
    cases otherHalts with
    | here otherBlocks => exact blocks.unique otherBlocks
    | later leads means _ => exact absurd blocks (leads.not_blocks means)
  | @later declaration ledger middle taken separator rest index fault leads means others ih =>
    generalize whole : taken ++ (separator ++ rest) = tokens at otherHalts
    cases otherHalts with
    | here blocks =>
      rw [← whole] at blocks
      exact absurd blocks (leads.not_blocks means)
    | later otherLeads otherMeans otherOthers =>
      obtain ⟨rfl, rfl, rfl, rfl⟩ := leads.unique otherLeads whole
      obtain rfl := means.unique otherMeans
      obtain ⟨rfl, rfl⟩ := ih otherOthers
      exact ⟨rfl, rfl⟩

/-- A script that halts does so at a token that could be read. -/
theorem Halts.fault_ne {around : Surroundings} {ledger : Ledger} {tokens : List Token} {index : Nat}
    {fault : Diagnostic.Fault} (halts : Halts around ledger tokens index fault)
    (scanned : Scanner.Fault) : fault ≠ .invalidToken scanned := by
  induction halts with
  | here blocks => cases blocks <;> exact nofun
  | later _ _ _ ih => exact ih

end Script

end SetupScript
