import SetupScript.Loading
import SetupScript.Proofs.Compilation
import SetupScript.Proofs.Tokenization

/-!
# Words

Which characters make up words is a parameter of the scanner.  The words of scripts are keywords,
and these are ASCII: two alphabets that agree with the ASCII one on ASCII characters lay out the
same scripts in the same way (`Layout.exists_recast`), and a text compiles to a plan over the one
exactly if it compiles to the same plan over the other (`Script.compile_eq_ok_iff_ascii`).  On other
texts the two scanners part.
-/

namespace SetupScript

/-! ## Alphabets -/

/-- An alphabet that agrees with the ASCII one on ASCII characters. -/
structure Alphabet.ExtendsAscii (alphabet : Alphabet) : Prop where
  opensWord_eq : ∀ character : Char, character.toNat < 0x80 →
    alphabet.opensWord character = Alphabet.ascii.opensWord character
  continuesWord_eq : ∀ character : Char, character.toNat < 0x80 →
    alphabet.continuesWord character = Alphabet.ascii.continuesWord character

namespace Alphabet

theorem extendsAscii_ascii : ascii.ExtendsAscii :=
  ⟨fun _ _ => rfl, fun _ _ => rfl⟩

theorem extendsAscii_unicode : unicode.ExtendsAscii where
  opensWord_eq character low := by
    simp only [unicode, ascii, Character.isLetter_of_ascii low]
  continuesWord_eq character low := by
    simp only [unicode, ascii, Character.isAlphanumeric_of_ascii low]

/-- The characters that words are told apart from are ASCII, and no letters. -/
theorem ascii_of_mem_gapCharacters_append {character : Char}
    (member : character ∈ Layout.gapCharacters ++ [';', '/', '"']) :
    character.toNat < 0x80 ∧ ascii.opensWord character = false := by
  have closed : (Layout.gapCharacters ++ [';', '/', '"']).all (fun character =>
      decide (character.toNat < 0x80) && !ascii.opensWord character) = true := by decide
  simpa using List.all_eq_true.1 closed character member

theorem ExtendsAscii.clear {alphabet : Alphabet} (agrees : alphabet.ExtendsAscii) :
    alphabet.Clear := by
  intro character member
  obtain ⟨low, notLetter⟩ := ascii_of_mem_gapCharacters_append member
  rw [agrees.opensWord_eq character low, notLetter]

end Alphabet

/-! ## Words of known kind -/

/-- The words of known kind are ASCII. -/
theorem Token.Kind.ascii_of_ofWord {word : String} (known : ofWord word ≠ .unknown) :
    ∀ character ∈ word.toList, character.toNat < 0x80 := by
  have low : word.toList.all (fun character => decide (character.toNat < 0x80)) = true := by
    unfold ofWord at known
    split_ifs at known with clone run extract set as
    · subst clone; decide
    · subst run; decide
    · subst extract; decide
    · subst set; decide
    · subst as; decide
    · exact absurd rfl known
  exact fun character member => of_decide_eq_true (List.all_eq_true.1 low character member)

namespace Lexeme

variable {alphabet other : Alphabet}

/-- A lexeme of known kind begins with an ASCII character. -/
theorem ascii_head_source (lexeme : Lexeme alphabet) (known : lexeme.kind ≠ .unknown)
    (rest : List Char) : ∀ next ∈ (lexeme.source ++ rest).head?, next.toNat < 0x80 := by
  intro next first
  cases lexeme with
  | semicolon => cases first; decide
  | comment body oneLine => cases first; decide
  | literal glyphs => cases first; decide
  | word letter more opens continues =>
    cases first
    rw [kind, ← ofWord_eq_lookup] at known
    exact Token.Kind.ascii_of_ofWord known next (by simp)

/-- A lexeme of known kind is one over any other alphabet, and stops in front of the same texts. -/
theorem exists_recast (agrees : alphabet.ExtendsAscii) (otherAgrees : other.ExtendsAscii)
    (lexeme : Lexeme alphabet) (known : lexeme.kind ≠ .unknown) :
    ∃ recast : Lexeme other, recast.source = lexeme.source ∧ recast.kind = lexeme.kind ∧
      recast.text = lexeme.text ∧
      ∀ rest, (∀ next ∈ rest.head?, next.toNat < 0x80) → lexeme.EndsBefore rest →
        recast.EndsBefore rest := by
  cases lexeme with
  | semicolon => exact ⟨.semicolon, rfl, rfl, rfl, fun _ _ ends => ends⟩
  | comment body oneLine => exact ⟨.comment body oneLine, rfl, rfl, rfl, fun _ _ ends => ends⟩
  | literal glyphs => exact ⟨.literal glyphs, rfl, rfl, rfl, fun _ _ ends => ends⟩
  | word first more opens continues =>
    rw [kind, ← ofWord_eq_lookup] at known
    have low (character : Char) (member : character ∈ first :: more) : character.toNat < 0x80 :=
      Token.Kind.ascii_of_ofWord known character (by rwa [String.toList_ofList])
    have same (character : Char) (low : character.toNat < 0x80) :
        other.continuesWord character = alphabet.continuesWord character :=
      (otherAgrees.continuesWord_eq character low).trans (agrees.continuesWord_eq character low).symm
    refine ⟨.word first more ?_ ?_, rfl, rfl, rfl, ?_⟩
    · have low := low first List.mem_cons_self
      rw [otherAgrees.opensWord_eq first low, ← agrees.opensWord_eq first low]
      exact opens
    · intro character member
      rw [same character (low character (List.mem_cons_of_mem _ member))]
      exact continues character member
    · intro rest ascii ends next first
      rw [same next (ascii next first)]
      exact ends next first

end Lexeme

/-! ## Layouts of known words -/

namespace Layout

variable {alphabet other : Alphabet}

/-- A layout in which every word is a keyword begins with an ASCII character. -/
theorem ascii_head_source (layout : Layout alphabet) {passed : List Char}
    (known : ∀ token ∈ layout.tokensBehind passed, token.kind ≠ .unknown) :
    ∀ next ∈ layout.source.head?, next.toNat < 0x80 := by
  have low {gap : List Char} (blank : ∀ character ∈ gap, character ∈ gapCharacters) :
      ∀ character ∈ gap, character.toNat < 0x80 := fun character member =>
    (Alphabet.ascii_of_mem_gapCharacters_append
      (List.mem_append_left _ (blank character member))).1
  cases layout with
  | closing gap blank => exact fun next first => low blank next (List.mem_of_mem_head? first)
  | block gap blank lexeme rest =>
    intro next first
    cases gap with
    | nil => exact lexeme.ascii_head_source (known _ List.mem_cons_self) rest.source next first
    | cons character gap =>
      cases first
      exact low blank next List.mem_cons_self

/-- A layout in which every word is a keyword is one over any other alphabet, with the same
tokens. -/
theorem exists_recast (agrees : alphabet.ExtendsAscii) (otherAgrees : other.ExtendsAscii)
    (layout : Layout alphabet) (maximal : layout.Maximal) {passed : List Char}
    (known : ∀ token ∈ layout.tokensBehind passed, token.kind ≠ .unknown) :
    ∃ recast : Layout other, recast.source = layout.source ∧ recast.Maximal ∧
      recast.tokensBehind passed = layout.tokensBehind passed := by
  induction layout generalizing passed with
  | closing gap blank => exact ⟨.closing gap blank, rfl, trivial, rfl⟩
  | block gap blank lexeme rest ih =>
    have later := fun token member => known token (List.mem_cons_of_mem _ member)
    obtain ⟨behind, behindSource, behindMaximal, behindTokens⟩ := ih maximal.2 later
    obtain ⟨recast, source, kind, text, ends⟩ :=
      lexeme.exists_recast agrees otherAgrees (known _ List.mem_cons_self)
    refine ⟨.block gap blank recast behind, ?_, ⟨?_, behindMaximal⟩, ?_⟩
    · rw [Layout.source, source, behindSource, Layout.source]
    · rw [behindSource]
      exact ends _ (rest.ascii_head_source later) maximal.1
    · rw [tokensBehind, source, kind, text, behindTokens, tokensBehind]

end Layout

/-- Over alphabets that extend the ASCII one, a text in which every word is a keyword has the same
tokens. -/
theorem Scanner.tokenize_recast {alphabet other : Alphabet} (agrees : alphabet.ExtendsAscii)
    (otherAgrees : other.ExtendsAscii) {text : List Char} {tokens : List Token}
    (tokenized : (ofList text alphabet).tokenize = .ok tokens)
    (known : ∀ token ∈ tokens, token.kind ≠ .unknown) :
    (ofList text other).tokenize = .ok tokens := by
  rw [tokenize_eq_ok_iff] at tokenized ⊢
  obtain ⟨layout, source, maximal⟩ := @exists_layout_of_run alphabet _ rfl _ tokenized
  have ran := @run_of_layout _ agrees.clear layout maximal (ofList text alphabet) [] rfl
    source.symm rfl
  obtain rfl : layout.tokensBehind [] = tokens := congrArg Prod.fst (ran.symm.trans tokenized)
  obtain ⟨recast, recastSource, recastMaximal, same⟩ :=
    layout.exists_recast agrees otherAgrees maximal known
  rw [← same]
  exact run_of_layout otherAgrees.clear recast recastMaximal rfl (source.symm.trans recastSource.symm) rfl

/-! ## Scripts -/

/-- No declaration has a token of unknown kind. -/
theorem Declaration.Spells.known {declaration : Declaration} {tokens : List Token}
    (spells : declaration.Spells tokens) : ∀ token ∈ tokens, token.kind ≠ .unknown := by
  cases spells <;> simp [*]

namespace Script

theorem Separator.known {tokens : List Token} (separated : Separator tokens) :
    ∀ token ∈ tokens, token.kind ≠ .unknown := by
  cases separated <;> simp [*]

/-- No script has a token of unknown kind. -/
theorem Spells.known {declarations : List Declaration} {tokens : List Token}
    (spells : Spells declarations tokens) : ∀ token ∈ tokens, token.kind ≠ .unknown := by
  induction declarations generalizing tokens with
  | nil =>
    obtain ⟨separated, ended⟩ := spells.ending_of_nil
    intro token member
    rcases List.mem_append.1 member with inside | last
    · exact separated.known token inside
    · rw [List.mem_singleton.1 last, ended]
      exact nofun
  | cons declaration declarations ih =>
    obtain ⟨first, separator, rest, rfl, spelled, separated, remaining⟩ := spells.exists_of_cons
    intro token member
    rcases List.mem_append.1 member with inside | behind
    · exact spelled.known token inside
    · rcases List.mem_append.1 behind with inside | later
      · exact separated.known token inside
      · exact ih remaining token later

/-- Compile a text whose words are those of an alphabet. -/
def compileOver (alphabet : Alphabet) (text filename : String) (around : Surroundings) :
    Except Diagnostic Plan :=
  (Session.compile.run (Session.start filename (Scanner.ofList text.toList alphabet)
    around.settings around.presets around.workingDirectory around.draws)).1

variable {alphabet other : Alphabet} {text filename : String} {around : Surroundings} {plan : Plan}

/-- What compiles over one alphabet that extends the ASCII one compiles over any other, to the same
plan. -/
theorem compileOver_recast (agrees : alphabet.ExtendsAscii) (otherAgrees : other.ExtendsAscii)
    (compiled : compileOver alphabet text filename around = .ok plan) :
    compileOver other text filename around = .ok plan := by
  have within (alphabet : Alphabet) :
      (Session.start filename (Scanner.ofList text.toList alphabet) around.settings around.presets
        around.workingDirectory around.draws).Within around := ⟨rfl, rfl, rfl⟩
  obtain ⟨tokens, declarations, ledger, tokenized, spells, means, planned⟩ :=
    (Session.compile_eq_ok_iff (within alphabet)).1 compiled
  have known (token : Token) (member : token ∈ tokens) : token.kind ≠ .unknown := by
    by_cases comments : token.kind = .comment
    · rw [comments]
      exact nofun
    · exact spells.known token (List.mem_filter.2 ⟨member, decide_eq_true comments⟩)
  have recast := Scanner.tokenize_recast agrees otherAgrees tokenized known
  exact (Session.compile_eq_ok_iff (within other)).2
    ⟨tokens, declarations, ledger, recast, spells, means, planned⟩

/-- Words of Unicode letters, and words of any alphabet that agrees with the ASCII one on ASCII
characters, make the same scripts and the same plans as words of ASCII letters. -/
theorem compile_eq_ok_iff_ascii (text filename : String) (around : Surroundings) (plan : Plan) :
    ((compile text filename around).1 = .ok plan ↔
        compileOver .ascii text filename around = .ok plan) ∧
      ∀ alphabet : Alphabet, alphabet.ExtendsAscii →
        (compileOver alphabet text filename around = .ok plan ↔
          compileOver .ascii text filename around = .ok plan) := by
  have all (alphabet : Alphabet) (agrees : alphabet.ExtendsAscii) :
      compileOver alphabet text filename around = .ok plan ↔
        compileOver .ascii text filename around = .ok plan :=
    ⟨compileOver_recast agrees Alphabet.extendsAscii_ascii,
      compileOver_recast Alphabet.extendsAscii_ascii agrees⟩
  exact ⟨all .unicode Alphabet.extendsAscii_unicode, all⟩

/-- Letters beyond ASCII in a comment and in a literal. -/
theorem compile_eq_ok_iff_ascii_accents :
    (compile "// é\nrun \"é\"" "f" ⟨.standard "/tmp", .empty, "/w", id⟩).1 =
        .ok ⟨"f", ["é"], .empty⟩ ∧
      Alphabet.unicode.ExtendsAscii ∧
      compileOver .ascii "// é\nrun \"é\"" "f" ⟨.standard "/tmp", .empty, "/w", id⟩ =
        .ok ⟨"f", ["é"], .empty⟩ ∧
      compileOver .unicode "// é\nrun \"é\"" "f" ⟨.standard "/tmp", .empty, "/w", id⟩ =
        .ok ⟨"f", ["é"], .empty⟩ := by
  have compiled : (compile "// é\nrun \"é\"" "f" ⟨.standard "/tmp", .empty, "/w", id⟩).1 =
      .ok ⟨"f", ["é"], .empty⟩ := by
    with_unfolding_all rfl
  have same := compile_eq_ok_iff_ascii "// é\nrun \"é\"" "f" ⟨.standard "/tmp", .empty, "/w", id⟩
    ⟨"f", ["é"], .empty⟩
  have ascii := same.1.1 compiled
  exact ⟨compiled, Alphabet.extendsAscii_unicode, ascii,
    (same.2 .unicode Alphabet.extendsAscii_unicode).2 ascii⟩

/-- A letter beyond ASCII behind a keyword makes another word of it, or stops the scanner. -/
example : (compile "runé \"a\"" "f" ⟨.standard "/tmp", .empty, "/w", id⟩).1 =
      .error ⟨"f", ⟨1, 1⟩, .unexpectedToken .endOfInput .unknown⟩ ∧
    compileOver .ascii "runé \"a\"" "f" ⟨.standard "/tmp", .empty, "/w", id⟩ =
      .error (.ofScannerError "f" ⟨.unexpectedCharacter 'é', ⟨1, 4⟩⟩) := by
  with_unfolding_all exact ⟨rfl, rfl⟩

end Script

end SetupScript
