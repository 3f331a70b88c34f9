import Mathlib.Logic.Function.Iterate
import SetupScript.Proofs.Lookahead

/-!
# Passage

What a scanner passes over, call by call.  A call takes characters off the text that stand there,
and the place that it names lies on the way (`Scanner.passes_next`).  So after any number of calls,
with whatever errors among them, a scanner stands in its text: it has counted the characters in
front of it, which are no more than the text has, and its line and column are found by counting
there (`Scanner.stands_reached`).
-/

namespace SetupScript

/-- Where an unknown escape breaks a literal off, its backslash is the first character left. -/
theorem Literal.exists_rest_of_badEscape {input : List Char} {code : Option Char}
    (broken : (read input).ending = .badEscape code) :
    ∃ more, (read input).rest = '\\' :: more := by
  fun_induction read input with
  | case1 => cases broken
  | case2 => cases broken
  | case3 => cases broken
  | case4 => exact ⟨[], rfl⟩
  | case5 code rest character known ih => exact ih broken
  | case6 code rest unknown => exact ⟨code :: rest, rfl⟩
  | case7 character rest notQuote notFeed notLast notEscape ih => exact ih broken

namespace Scanner

/-! ## Many calls -/

/-- The scanner that so many calls leave, going on after errors. -/
def reached (scanner : Scanner) (count : Nat) : Scanner :=
  (fun scanner => scanner.next.2)^[count] scanner

theorem reached_succ (scanner : Scanner) (count : Nat) :
    scanner.reached (count + 1) = (scanner.reached count).next.2 :=
  Function.iterate_succ_apply' _ count scanner

/-- Calls after some calls are calls of the scanner that those leave. -/
theorem reached_add (scanner : Scanner) (count more : Nat) :
    scanner.reached (count + more) = (scanner.reached count).reached more := by
  rw [Nat.add_comm]
  exact Function.iterate_add_apply _ more count scanner

/-- Each of so many steps is a call of the scanner that the steps before it leave. -/
theorem getElem?_steps (scanner : Scanner) {count index : Nat} (inside : index < count) :
    (scanner.steps count)[index]? = some (scanner.reached index).next := by
  induction count generalizing scanner index with
  | zero => exact absurd inside (Nat.not_lt_zero index)
  | succ count ih =>
    rw [steps]
    cases index with
    | zero => rfl
    | succ index =>
      rw [List.getElem?_cons_succ, ih scanner.next.2 (Nat.lt_of_succ_lt_succ inside)]
      rfl

/-! ## One call -/

/-- The place that an answer names: where its token starts, or where its error shows. -/
def placeOf : Except Error Token → Position
  | .ok token => token.position
  | .error error => error.position

/-- A call passes over characters that stand in front of the scanner, and names the place behind
some of them. -/
inductive Passes (scanner : Scanner) : Except Error Token × Scanner → Prop
  | intro {answer : Except Error Token} {passed rest before : List Char}
      (spelled : scanner.rest = passed ++ rest) (begins : before <+: passed)
      (place : placeOf answer = scanner.position.advance before) :
      Passes scanner (answer, scanner.move passed rest)

/-- An answer that names the place where the scanner stands, and takes so much off the text. -/
theorem passes_of_here {scanner : Scanner} {answer : Except Error Token} {passed rest : List Char}
    (spelled : scanner.rest = passed ++ rest) (place : placeOf answer = scanner.position) :
    scanner.Passes (answer, scanner.move passed rest) :=
  .intro spelled List.nil_prefix place

/-- What is passed over behind some characters is passed over with them. -/
theorem Passes.behind {scanner : Scanner} {front rest : List Char}
    {outcome : Except Error Token × Scanner} (spelled : scanner.rest = front ++ rest)
    (passes : (scanner.move front rest).Passes outcome) : scanner.Passes outcome := by
  cases passes with
  | @intro answer passed more before here begins place =>
    rw [move_move]
    refine @Passes.intro scanner answer (front ++ passed) more (front ++ before) ?_ ?_ ?_
    · rw [spelled, List.append_assoc]
      exact congrArg (front ++ ·) here
    · exact (List.prefix_append_right_inj front).2 begins
    · rw [place, Position.advance_append]
      rfl

theorem passes_literal {scanner : Scanner} {body : List Char} (here : scanner.rest = '"' :: body) :
    scanner.Passes (scanner.literal body) := by
  have whole : scanner.rest = ('"' :: (Literal.read body).taken) ++ (Literal.read body).rest := by
    rw [here, List.cons_append, Literal.taken_append_rest]
  unfold literal
  dsimp only
  split
  · exact passes_of_here whole rfl
  · exact passes_of_here whole rfl
  · exact .intro whole (List.prefix_refl _) rfl
  · rename_i code broken
    obtain ⟨more, left⟩ := Literal.exists_rest_of_badEscape broken
    rw [left] at whole ⊢
    rw [move_move]
    refine .intro ?_ (List.prefix_append _ _) rfl
    rw [whole, List.append_assoc]
    rfl

theorem passes_tokenHere (scanner : Scanner) : scanner.Passes scanner.tokenHere := by
  unfold tokenHere
  split
  · exact @passes_of_here scanner _ [] scanner.rest rfl rfl
  · rename_i body here
    refine passes_of_here ?_ rfl
    rw [here, List.cons_append, List.cons_append, List.takeWhile_append_dropWhile]
  · rename_i rest here
    exact passes_of_here here rfl
  · rename_i body here
    exact passes_literal here
  · split
    · exact passes_of_here List.takeWhile_append_dropWhile.symm rfl
    · exact @passes_of_here scanner _ [] scanner.rest rfl rfl

/-- Whatever a call answers, it passes over characters that are there. -/
theorem passes_next (scanner : Scanner) : scanner.Passes scanner.next :=
  Passes.behind List.takeWhile_append_dropWhile.symm scanner.skipGap.passes_tokenHere

/-! ## Where a scanner stands -/

/-- A scanner stands in a text: it has counted the characters in front of it, the others are left,
and its place is found by counting in front of it. -/
structure Stands (text : List Char) (scanner : Scanner) : Prop where
  offset_le : scanner.offset ≤ text.length
  rest : scanner.rest = text.drop scanner.offset
  position : scanner.position = .behind (text.take scanner.offset)

theorem stands_ofList (text : List Char) : (ofList text).Stands text :=
  ⟨Nat.zero_le _, rfl, rfl⟩

section Stands

variable {text : List Char} {scanner : Scanner}

/-- Where nothing is left, the whole text was counted. -/
theorem Stands.offset_eq (stands : scanner.Stands text) (ended : scanner.rest = []) :
    scanner.offset = text.length := by
  rw [stands.rest, List.drop_eq_nil_iff] at ended
  exact Nat.le_antisymm stands.offset_le ended

/-- Behind characters that stand in front of the scanner there is a place of the text. -/
theorem Stands.ahead (stands : scanner.Stands text) {passed : List Char}
    (begins : passed <+: scanner.rest) :
    scanner.offset + passed.length ≤ text.length ∧
      scanner.position.advance passed = .behind (text.take (scanner.offset + passed.length)) := by
  have bound := begins.length_le
  have front : text.take (scanner.offset + passed.length) =
      text.take scanner.offset ++ passed := by
    rw [List.take_add, ← stands.rest, ← List.prefix_iff_eq_take.1 begins]
  rw [stands.rest, List.length_drop] at bound
  have inside := stands.offset_le
  refine ⟨by omega, ?_⟩
  rw [stands.position, Position.advance_behind, front]

/-- A call leaves the scanner standing in the text, no further back than it was, and names a place
between. -/
theorem Stands.of_passes (stands : scanner.Stands text) {answer : Except Error Token}
    {after : Scanner} (passes : scanner.Passes (answer, after)) :
    after.Stands text ∧ scanner.offset ≤ after.offset ∧
      ∃ index, scanner.offset ≤ index ∧ index ≤ after.offset ∧
        placeOf answer = .behind (text.take index) := by
  cases passes with
  | @intro _ passed rest before spelled begins place =>
    have passedBegins : passed <+: scanner.rest := ⟨rest, spelled.symm⟩
    obtain ⟨inside, reached⟩ := stands.ahead passedBegins
    obtain ⟨_, named⟩ := stands.ahead (begins.trans passedBegins)
    refine ⟨⟨inside, ?_, reached⟩, Nat.le_add_right _ _, scanner.offset + before.length,
      Nat.le_add_right _ _, Nat.add_le_add_left begins.length_le _, place.trans named⟩
    show rest = text.drop (scanner.offset + passed.length)
    rw [← List.drop_drop, ← stands.rest, spelled, List.drop_left]

end Stands

/-- After any number of calls, a scanner stands in its text. -/
theorem stands_reached (text : List Char) (count : Nat) :
    ((ofList text).reached count).Stands text := by
  induction count with
  | zero => exact stands_ofList text
  | succ count ih =>
    rw [reached_succ]
    exact (ih.of_passes (passes_next _)).1

/-- Whatever was called for before, and with whatever errors: the scanner has read a beginning of
the text and nothing beyond its end, and its line and column are those behind this beginning.  A
call never goes back, takes what stands there, and names the line and column of a point between
those where it begins and ends. -/
theorem places_of_calls (text : String) (count : Nat) :
    let scanner := (ofString text).reached count
    let after := (ofString text).reached (count + 1)
    ∃ answer, ((ofString text).steps (count + 1))[count]? = some (answer, after) ∧
      scanner.next = (answer, after) ∧
      scanner.Stands text.toList ∧ after.Stands text.toList ∧ scanner.offset ≤ after.offset ∧
      ∃ index, scanner.offset ≤ index ∧ index ≤ after.offset ∧
        placeOf answer = .behind (text.toList.take index) := by
  intro scanner after
  have step : scanner.next = (scanner.next.1, after) :=
    Prod.ext rfl (reached_succ _ count).symm
  have stands : scanner.Stands text.toList := stands_reached text.toList count
  have passes := scanner.passes_next
  rw [step] at passes
  obtain ⟨afterStands, forward, between⟩ := stands.of_passes passes
  refine ⟨scanner.next.1, ?_, step, stands, afterStands, forward, between⟩
  rw [getElem?_steps _ (Nat.lt_succ_self count)]
  exact congrArg some step

end Scanner

end SetupScript
