import SetupScript.Proofs.Concatenation
import SetupScript.Proofs.Printing
import SetupScript.Proofs.Substitution

/-!
# Recall

Whether a bound name can be used.  A reference to a name without square brackets gives its value
back, so that one more line with such a reference runs the value.  A name with a bracket can be
bound like any other, but no text refers to it: its value never shows in a command.
-/

namespace SetupScript.Script

/-- A text whose only declaration runs the reference to a name. -/
def Uses (name text : String) : Prop :=
  ∃ tokens, (Scanner.ofString text).tokenize = .ok tokens ∧
    Spells [.run ("$[" ++ name ++ "]")] (Token.significant tokens)

/-- Whatever a name holds, one line is enough to use it. -/
theorem exists_uses (name : String) : ∃ text, Uses name text ∧ '\n' ∉ text.toList := by
  obtain ⟨glyphs, stand, _⟩ := Lexeme.Glyph.exists_of_text ("$[" ++ name ++ "]").toList
  have opens : Alphabet.unicode.opensWord 'r' = true := rfl
  let keyword : Lexeme .unicode := .word 'r' ['u', 'n'] opens (List.all_eq_true.1 rfl)
  let literal : Lexeme .unicode := .literal glyphs
  let layout : Layout .unicode := .block [] (List.forall_mem_nil _) keyword
    (.block [' '] (List.forall_mem_singleton.2 (by decide)) literal
      (.closing [] (List.forall_mem_nil _)))
  have maximal : layout.Maximal := by
    refine ⟨fun next head => ?_, trivial, trivial⟩
    cases head
    rfl
  have text : String.ofList literal.text = "$[" ++ name ++ "]" := by
    rw [show literal.text = glyphs.map Lexeme.Glyph.character from rfl, stand, String.ofList_toList]
  refine ⟨String.ofList layout.source, ⟨layout.tokensBehind [], ?_, ?_⟩, ?_⟩
  · exact Scanner.tokenize_eq_ok_iff.2 (Scanner.run_of_layout Alphabet.clear_unicode layout maximal
      rfl String.toList_ofList rfl)
  · rw [← text]
    have run := @Declaration.Spells.run ⟨.run, "run", .behind []⟩
      ⟨.string, String.ofList literal.text, .behind ['r', 'u', 'n', ' ']⟩ rfl rfl
    exact .intro (.cons run .missing .nil)
      (@Ending.intro [] ⟨.endOfInput, "", _⟩ .missing rfl)
  · rw [String.toList_ofList]
    have keywordLine := keyword.lineFeed_notMem_source
    have literalLine := literal.lineFeed_notMem_source
    simp [layout, Layout.source, keywordLine, literalLine]

variable {text filename : String} {around : Surroundings}

/-- When a script has bound a name, another line that runs the reference to the name adds one
command and binds nothing.  For a name without brackets the command is its value; for any other name
the command does not depend on what the name is bound to. -/
theorem compile_uses {tokens : List Token} {plan : Plan} {name value : String}
    (compiled : (compile text filename around).1 = .ok plan)
    (tokenized : (Scanner.ofString text).tokenize = .ok tokens)
    (declared : (Token.significant tokens).map Token.kind ∈ Grammar.declared)
    (bound : plan.bindings.get? name = some value) :
    (∃ use, Uses name use ∧ '\n' ∉ use.toList) ∧
      ∀ use, Uses name use → ∃ command,
        (compile (text ++ "\n" ++ use) filename around).1 =
            .ok ⟨filename, plan.commands ++ [command], plan.bindings⟩ ∧
          (Reference.IsName name.toList → command = value) ∧
          (¬ Reference.IsName name.toList → ∀ other,
            Reference.resolve (plan.bindings.insert name other) ("$[" ++ name ++ "]") =
              command) := by
  refine ⟨exists_uses name, fun use ⟨others, otherTokenized, spells⟩ => ?_⟩
  have step : Session.compile.run (Session.ofText text filename around) =
      (.ok plan, (Session.compile.run (Session.ofText text filename around)).2) :=
    Prod.ext compiled rfl
  obtain ⟨_, _, ledger, _, _, _, rfl, left⟩ := spells_of_compile step
  have means : Script.Means around [.run ("$[" ++ name ++ "]")]
      (Session.compile.run (Session.ofText text filename around)).2.ledger
      (ledger.emit (Reference.resolve ledger.bindings ("$[" ++ name ++ "]"))) := by
    rw [left]
    exact .cons (.run _ ledger) (.nil _)
  refine ⟨Reference.resolve ledger.bindings ("$[" ++ name ++ "]"), ?_, fun isName => ?_,
    fun bracketed other => Reference.resolve_insert_of_not_isName _ bracketed other _⟩
  · exact compile_behind step tokenized declared otherTokenized spells means filename
  · rw [Reference.resolve_reference _ isName, bound]
    rfl

/-- The path of a clone that was named with a space is used on the next line. -/
theorem compile_uses_clone :
    ∃ use, Uses "X y" use ∧ '\n' ∉ use.toList ∧
      (compile ("clone \"h\" as \"X y\"" ++ "\n" ++ use) "f"
          ⟨.standard "/tmp", .empty, "/w", id⟩).1 =
        .ok ⟨"f", ["cd /tmp && git clone --depth=1 https://h /tmp/depscript-0",
            "/tmp/depscript-0"], Bindings.empty.insert "X y" "/tmp/depscript-0"⟩ := by
  have compiled : (compile "clone \"h\" as \"X y\"" "f" ⟨.standard "/tmp", .empty, "/w", id⟩).1 =
      .ok ⟨"f", ["cd /tmp && git clone --depth=1 https://h /tmp/depscript-0"],
        Bindings.empty.insert "X y" "/tmp/depscript-0"⟩ := by
    with_unfolding_all rfl
  have tokenized : (Scanner.ofString "clone \"h\" as \"X y\"").tokenize =
      .ok [⟨.clone, "clone", ⟨1, 1⟩⟩, ⟨.string, "h", ⟨1, 7⟩⟩, ⟨.as, "as", ⟨1, 11⟩⟩,
        ⟨.string, "X y", ⟨1, 14⟩⟩, .final ⟨1, 19⟩] := by
    with_unfolding_all rfl
  obtain ⟨declarations, body⟩ : ∃ declarations, Body declarations
      ([⟨.clone, "clone", ⟨1, 1⟩⟩, ⟨.string, "h", ⟨1, 7⟩⟩, ⟨.as, "as", ⟨1, 11⟩⟩,
        ⟨.string, "X y", ⟨1, 14⟩⟩] ++ ([] ++ [])) :=
    ⟨_, .cons (.cloneAs rfl rfl rfl rfl) .missing .nil⟩
  have declared : [Token.Kind.clone, .string, .as, .string, .endOfInput] ∈ Grammar.declared :=
    map_kind_mem_declared_iff.2 ⟨_, _, .final ⟨1, 19⟩, rfl, body, rfl⟩
  have bound : (Bindings.empty.insert "X y" "/tmp/depscript-0").get? "X y" =
      some "/tmp/depscript-0" := by
    with_unfolding_all rfl
  obtain ⟨⟨use, uses, oneLine⟩, used⟩ := compile_uses compiled tokenized declared bound
  obtain ⟨command, whole, same, _⟩ := used use uses
  rw [same ⟨by decide, by decide⟩] at whole
  exact ⟨use, uses, oneLine, whole⟩

/-- A name with a bracket is bound, and a reference to it is left as it is. -/
theorem exists_bound_unused :
    ¬ ∀ (text use filename : String) (around : Surroundings) (tokens : List Token) (plan : Plan)
        (name value : String), (compile text filename around).1 = .ok plan →
      (Scanner.ofString text).tokenize = .ok tokens →
      (Token.significant tokens).map Token.kind ∈ Grammar.declared →
      plan.bindings.get? name = some value → Uses name use →
      ∃ more, (compile (text ++ "\n" ++ use) filename around).1 = .ok more ∧
        more.commands.getLast? = some value := by
  intro every
  have compiled : (compile "set \"a]=v\"" "f" ⟨.standard "/tmp", .empty, "/w", id⟩).1 =
      .ok ⟨"f", [], Bindings.empty.insert "a]" "v"⟩ := by
    with_unfolding_all rfl
  have tokenized : (Scanner.ofString "set \"a]=v\"").tokenize =
      .ok [⟨.set, "set", ⟨1, 1⟩⟩, ⟨.string, "a]=v", ⟨1, 5⟩⟩, .final ⟨1, 11⟩] := by
    with_unfolding_all rfl
  obtain ⟨declarations, body⟩ : ∃ declarations, Body declarations
      ([⟨.set, "set", ⟨1, 1⟩⟩, ⟨.string, "a]=v", ⟨1, 5⟩⟩] ++ ([] ++ [])) :=
    ⟨_, .cons (.set rfl rfl) .missing .nil⟩
  have declared : [Token.Kind.set, .string, .endOfInput] ∈ Grammar.declared :=
    map_kind_mem_declared_iff.2 ⟨_, _, .final ⟨1, 11⟩, rfl, body, rfl⟩
  have bound : (Bindings.empty.insert "a]" "v").get? "a]" = some "v" := by
    with_unfolding_all rfl
  have useTokenized : (Scanner.ofString "run \"$[a]]\"").tokenize =
      .ok [⟨.run, "run", ⟨1, 1⟩⟩, ⟨.string, "$[a]]", ⟨1, 5⟩⟩, .final ⟨1, 12⟩] := by
    with_unfolding_all rfl
  have spells : Spells [.run "$[a]]"]
      [⟨.run, "run", ⟨1, 1⟩⟩, ⟨.string, "$[a]]", ⟨1, 5⟩⟩, .final ⟨1, 12⟩] := by
    have run := @Declaration.Spells.run ⟨.run, "run", ⟨1, 1⟩⟩ ⟨.string, "$[a]]", ⟨1, 5⟩⟩ rfl rfl
    exact .intro (.cons run .missing .nil) (@Ending.intro [] (.final ⟨1, 12⟩) .missing rfl)
  have left : (compile ("set \"a]=v\"" ++ "\n" ++ "run \"$[a]]\"") "f"
      ⟨.standard "/tmp", .empty, "/w", id⟩).1 =
        .ok ⟨"f", ["$[a]]"], Bindings.empty.insert "a]" "v"⟩ := by
    with_unfolding_all rfl
  obtain ⟨more, planned, last⟩ := every _ _ _ _ _ _ "a]" "v" compiled tokenized declared bound
    ⟨_, useTokenized, spells⟩
  rw [left] at planned
  cases planned
  simp at last

end SetupScript.Script
