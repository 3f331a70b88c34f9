import SetupScript.CommandLine.Outcome
import SetupScript.Proofs.Tokenization
import SetupScript.Settings.Standard
import SetupScript.Template.Standard

/-!
# Output

What compiling prints.  The lines of the output are the commands as far as each of them fits a line
of its own (`Request.stringRows_output_iff`): a command with a line feed takes several lines, and a
sequence for terminals is left out.  Two plans may therefore be printed alike
(`Request.exists_output_eq`).
-/

namespace SetupScript

namespace Text

/-! ## Rows -/

/-- The rows of a text: what stands in front of each line feed, and what stands behind the last one if
there is something. -/
def rows (text : List Char) : List (List Char) :=
  let parts := fields '\n' text
  if parts.getLast? = some [] then parts.dropLast else parts

/-- The rows of a string. -/
def stringRows (text : String) : List String :=
  (rows text.toList).map String.ofList

/-- Rows with a line feed behind each. -/
def ended (rows : List (List Char)) : List Char :=
  rows.flatMap (· ++ ['\n'])

theorem ended_cons (row : List Char) (rest : List (List Char)) :
    ended (row :: rest) = row ++ '\n' :: ended rest := by
  simp [ended]

/-- A field holds no separator. -/
theorem not_mem_of_mem_fields {separator : Char} {text field : List Char}
    (member : field ∈ fields separator text) : separator ∉ field := by
  induction text generalizing field with
  | nil =>
    rw [fields, List.mem_singleton] at member
    rw [member]
    exact List.not_mem_nil
  | cons character rest ih =>
    unfold fields at member
    split at member
    · rcases List.mem_cons.1 member with first | later
      · rw [first]
        exact List.not_mem_nil
      · exact ih later
    · rename_i different
      split at member
      · rw [List.mem_singleton] at member
        rw [member, List.mem_singleton]
        exact Ne.symm different
      · rename_i own more parts
        rcases List.mem_cons.1 member with first | later
        · have absent := ih (parts ▸ List.mem_cons_self)
          rw [first, List.mem_cons, not_or]
          exact ⟨Ne.symm different, absent⟩
        · exact ih (parts ▸ List.mem_cons_of_mem _ later)

/-- A row holds no line feed. -/
theorem not_mem_of_mem_rows {text row : List Char} (member : row ∈ rows text) : '\n' ∉ row := by
  unfold rows at member
  dsimp only at member
  split at member
  · exact not_mem_of_mem_fields ((List.dropLast_sublist _).mem member)
  · exact not_mem_of_mem_fields member

theorem fields_ended {written : List (List Char)} (alone : ∀ row ∈ written, '\n' ∉ row) :
    fields '\n' (ended written) = written ++ [[]] := by
  induction written with
  | nil => rfl
  | cons row rest ih =>
    rw [List.forall_mem_cons] at alone
    rw [ended_cons, fields_append _ alone.1, ih alone.2, List.cons_append]

/-- Rows that are written one behind the other are read again. -/
theorem rows_ended {written : List (List Char)} (alone : ∀ row ∈ written, '\n' ∉ row) :
    rows (ended written) = written := by
  unfold rows
  dsimp only
  rw [fields_ended alone, List.getLast?_concat, if_pos rfl, List.dropLast_concat]

/-! ## Sequences for terminals -/

/-- There is a sequence for terminals in a text. -/
def HasSequence (text : List Char) : Prop :=
  ∃ before parameters letter rest,
    text = before ++ '\x1b' :: '[' :: (parameters ++ letter :: rest) ∧
      (∀ character ∈ parameters, isSequenceParameter character = true) ∧ letter.isAlpha = true

theorem isSequenceParameter_of_isAlpha {letter : Char} (alpha : letter.isAlpha = true) :
    isSequenceParameter letter = false := by
  rw [Bool.eq_false_iff]
  intro parameter
  simp only [isSequenceParameter, Bool.or_eq_true, beq_iff_eq] at parameter
  rcases parameter with (digit | rfl) | rfl
  · have below : letter.val ≤ '9'.val := of_decide_eq_true (Bool.and_eq_true_iff.1 digit).2
    have above : 'A'.val ≤ letter.val := by
      rcases Bool.or_eq_true_iff.1 alpha with upper | lower
      · exact (of_decide_eq_true upper).1
      · exact UInt32.le_trans (by decide) (of_decide_eq_true (Bool.and_eq_true_iff.1 lower).1)
    exact absurd (UInt32.le_trans above below) (by decide)
  · cases alpha
  · cases alpha

/-- What follows a sequence is found behind its parameters and its letter. -/
theorem afterSequence?_eq_some_iff {text rest : List Char} :
    afterSequence? text = some rest ↔
      ∃ parameters letter, text = parameters ++ letter :: rest ∧
        (∀ character ∈ parameters, isSequenceParameter character = true) ∧
        letter.isAlpha = true := by
  unfold afterSequence?
  constructor
  · intro found
    split at found
    · rename_i letter after dropped
      split at found
      · rename_i alpha
        cases found
        have whole := List.takeWhile_append_dropWhile (p := isSequenceParameter) (l := text)
        rw [dropped] at whole
        exact ⟨_, letter, whole.symm, fun _ member => List.mem_takeWhile_imp member, alpha⟩
      · cases found
    · cases found
  · rintro ⟨parameters, letter, rfl, inside, alpha⟩
    have stops : ∀ next ∈ (letter :: rest).head?, isSequenceParameter next = false := by
      intro next first
      cases first
      exact isSequenceParameter_of_isAlpha alpha
    rw [Scanner.dropWhile_run inside stops]
    exact if_pos alpha

/-- What is left without sequences is a part of the text. -/
theorem withoutSequences_sublist (text : List Char) : (withoutSequences text).Sublist text := by
  fun_induction withoutSequences text with
  | case1 => exact .refl _
  | case2 inside rest found bound ih =>
    obtain ⟨parameters, letter, rfl, _, _⟩ := afterSequence?_eq_some_iff.1 found
    have suffix : rest.Sublist ('\x1b' :: '[' :: (parameters ++ letter :: rest)) :=
      (List.suffix_cons letter rest).sublist.trans
        ((List.sublist_append_right parameters (letter :: rest)).trans
          ((List.sublist_cons_self _ _).trans (List.sublist_cons_self _ _)))
    exact ih.trans suffix
  | case3 inside missing ih => exact ih.cons_cons _
  | case4 character rest apart ih => exact ih.cons_cons _

/-- Where no sequence begins, there is one exactly if there is one further on. -/
theorem hasSequence_cons_iff {character : Char} {text : List Char}
    (apart : ∀ inside, character = '\x1b' → text = '[' :: inside → afterSequence? inside = none) :
    HasSequence (character :: text) ↔ HasSequence text := by
  constructor
  · rintro ⟨before, parameters, letter, rest, whole, inside, alpha⟩
    cases before with
    | nil =>
      obtain ⟨opens, behind⟩ := List.cons.inj whole
      have missing := apart _ opens behind
      rw [afterSequence?_eq_some_iff.2 ⟨parameters, letter, rfl, inside, alpha⟩] at missing
      cases missing
    | cons _ before => exact ⟨before, parameters, letter, rest, (List.cons.inj whole).2, inside, alpha⟩
  · rintro ⟨before, parameters, letter, rest, rfl, inside, alpha⟩
    exact ⟨character :: before, parameters, letter, rest, rfl, inside, alpha⟩

/-- A text is left as it is exactly if there is no sequence in it. -/
theorem withoutSequences_eq_self_iff {text : List Char} :
    withoutSequences text = text ↔ ¬ HasSequence text := by
  fun_induction withoutSequences text with
  | case1 =>
    refine ⟨fun _ => ?_, fun _ => rfl⟩
    rintro ⟨before, _, _, _, whole, _⟩
    cases before <;> cases whole
  | case2 inside rest found bound ih =>
    obtain ⟨parameters, letter, rfl, within, alpha⟩ := afterSequence?_eq_some_iff.1 found
    constructor
    · intro same
      have lengths := congrArg List.length same
      have shorter := (withoutSequences_sublist rest).length_le
      simp only [List.length_cons, List.length_append] at lengths
      omega
    · intro none
      exact absurd ⟨[], parameters, letter, rest, rfl, within, alpha⟩ none
  | case3 inside missing ih =>
    have further : HasSequence ('\x1b' :: '[' :: inside) ↔ HasSequence ('[' :: inside) := by
      refine hasSequence_cons_iff fun other _ same => ?_
      obtain ⟨_, rfl⟩ := List.cons.inj same
      exact missing
    rw [List.cons.injEq, ih, further]
    exact and_iff_right rfl
  | case4 character rest apart ih =>
    have further : HasSequence (character :: rest) ↔ HasSequence rest :=
      hasSequence_cons_iff fun inside opens behind => absurd behind (apart inside opens)
    rw [List.cons.injEq, ih, further]
    exact and_iff_right rfl

end Text

/-! ## Commands on lines -/

namespace Outcome

/-- A command is printed as a line of its own. -/
structure FitsLine (command : String) : Prop where
  oneLine : '\n' ∉ command.toList
  noSequence : ¬ Text.HasSequence command.toList

/-- What is printed of a command that takes one line. -/
def shortened (command : String) : String :=
  String.ofList (Text.withoutSequences command.toList)

/-- A command is printed as it is exactly if there is no sequence for terminals in it. -/
theorem shortened_eq_self_iff {command : String} :
    shortened command = command ↔ ¬ Text.HasSequence command.toList := by
  rw [shortened, ← String.toList_inj, String.toList_ofList]
  exact Text.withoutSequences_eq_self_iff

theorem toList_output (commands : List String) (log : List Notice) :
    (compiled commands log).output.toList =
      Text.ended (commands.map fun command => Text.withoutSequences command.toList) := by
  rw [output, String.toList_join, Text.ended, List.flatMap_map, List.flatMap_map]
  simp only [line, String.toList_append, String.toList_ofList]
  rfl

/-- Commands that take one line each are printed one a line. -/
theorem stringRows_output {commands : List String} (log : List Notice)
    (oneLine : ∀ command ∈ commands, '\n' ∉ command.toList) :
    Text.stringRows (compiled commands log).output = commands.map shortened := by
  have alone : ∀ row ∈ commands.map fun command => Text.withoutSequences command.toList,
      '\n' ∉ row := by
    intro row member
    obtain ⟨command, inside, rfl⟩ := List.mem_map.1 member
    exact fun feed => oneLine command inside ((Text.withoutSequences_sublist _).mem feed)
  rw [Text.stringRows, toList_output, Text.rows_ended alone, List.map_map]
  rfl

/-- The rows of the output are the commands exactly if every command fits a line. -/
theorem stringRows_output_eq_iff (commands : List String) (log : List Notice) :
    Text.stringRows (compiled commands log).output = commands ↔
      ∀ command ∈ commands, FitsLine command := by
  constructor
  · intro same command member
    have oneLine : ∀ command ∈ commands, '\n' ∉ command.toList := by
      intro command member
      rw [← same] at member
      obtain ⟨row, inside, rfl⟩ := List.mem_map.1 member
      rw [String.toList_ofList]
      exact Text.not_mem_of_mem_rows inside
    rw [stringRows_output log oneLine] at same
    have kept : ∀ command ∈ commands, shortened command = id command :=
      List.map_inj_left.1 (same.trans (List.map_id commands).symm)
    exact ⟨oneLine command member, shortened_eq_self_iff.1 (kept command member)⟩
  · intro fits
    rw [stringRows_output log fun command member => (fits command member).oneLine]
    refine (List.map_congr_left fun command member => ?_).trans (List.map_id commands)
    exact shortened_eq_self_iff.2 (fits command member).noSequence

end Outcome

/-- Compiling prints the commands of the plan, one a line, exactly if each of them fits a line: it
has no line feed in it and no sequence for terminals.  Plans whose commands fit are printed alike
only if they have the same commands.  How the arguments are read makes no difference to this. -/
theorem Request.stringRows_output_iff {read : List String → Request} {arguments : List String}
    {world : World} {commands : List String} {log : List Notice}
    (compiled : outcomeOf read arguments world = .compiled commands log) :
    (Text.stringRows (outcomeOf read arguments world).output = commands ↔
        ∀ command ∈ commands, Outcome.FitsLine command) ∧
      ((∀ command ∈ commands, Outcome.FitsLine command) → ∀ others otherLog,
        (∀ command ∈ others, Outcome.FitsLine command) →
        (Outcome.compiled others otherLog).output = (outcomeOf read arguments world).output →
          others = commands) := by
  rw [compiled]
  refine ⟨Outcome.stringRows_output_eq_iff commands log, fun fits others otherLog otherFits same => ?_⟩
  have rows := (Outcome.stringRows_output_eq_iff commands log).2 fits
  have otherRows := (Outcome.stringRows_output_eq_iff others otherLog).2 otherFits
  rw [same] at otherRows
  exact otherRows.symm.trans rows

set_option maxRecDepth 2000 in
/-- Two commands that fit a line are read back from the output. -/
theorem Request.stringRows_output_iff_plain :
    ∃ world : World,
      outcomeOf Request.read ["compile", "s"] world = .compiled ["a", "b c"] [] ∧
        Text.stringRows (outcomeOf Request.read ["compile", "s"] world).output = ["a", "b c"] := by
  obtain ⟨world, compiled⟩ : ∃ world : World,
      outcomeOf Request.read ["compile", "s"] world = .compiled ["a", "b c"] [] := by
    refine ⟨⟨fun _ => .file "run \"a\"; run \"b c\"".toUTF8.data.toList, "/w", id, [],
      .standard "/tmp", .standard, 0⟩, ?_⟩
    with_unfolding_all rfl
  have fits {command : String} (plain : '\n' ∉ command.toList ∧ '\x1b' ∉ command.toList) :
      Outcome.FitsLine command :=
    ⟨plain.1, Text.withoutSequences_eq_self_iff.1 (Text.withoutSequences_eq_self plain.2)⟩
  refine ⟨world, compiled, (Request.stringRows_output_iff compiled).1.2 ?_⟩
  simp only [List.forall_mem_cons]
  exact ⟨fits (by decide), fits (by decide), nofun⟩

set_option maxRecDepth 2000 in
/-- One command with a line feed is printed as two commands are. -/
theorem Request.exists_output_eq :
    ∃ world other : World,
      outcomeOf Request.read ["compile", "s"] world = .compiled ["a\nb"] [] ∧
        Text.stringRows (outcomeOf Request.read ["compile", "s"] world).output ≠ ["a\nb"] ∧
        outcomeOf Request.read ["compile", "s"] other = .compiled ["a", "b"] [] ∧
        (outcomeOf Request.read ["compile", "s"] world).output =
          (outcomeOf Request.read ["compile", "s"] other).output := by
  obtain ⟨world, compiled⟩ : ∃ world : World,
      outcomeOf Request.read ["compile", "s"] world = .compiled ["a\nb"] [] := by
    refine ⟨⟨fun _ => .file "run \"a\\nb\"".toUTF8.data.toList, "/w", id, [],
      .standard "/tmp", .standard, 0⟩, ?_⟩
    with_unfolding_all rfl
  obtain ⟨other, others⟩ : ∃ other : World,
      outcomeOf Request.read ["compile", "s"] other = .compiled ["a", "b"] [] := by
    refine ⟨⟨fun _ => .file "run \"a\" run \"b\"".toUTF8.data.toList, "/w", id, [],
      .standard "/tmp", .standard, 0⟩, ?_⟩
    with_unfolding_all rfl
  have printed : (Outcome.compiled ["a\nb"] []).output = (Outcome.compiled ["a", "b"] []).output := by
    with_unfolding_all rfl
  refine ⟨world, other, compiled, ?_, others, ?_⟩
  · rw [compiled, printed]
    decide +kernel
  · rw [compiled, others]
    exact printed

end SetupScript
