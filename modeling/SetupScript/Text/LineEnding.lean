/-!
# Line ends

A line ends with a line feed, with a carriage return, or with both in this order.  Normalising
writes every line end as a line feed.
-/

namespace SetupScript.Text

/-- The text with every line end written as a line feed. -/
def normalizeLineEnds : List Char → List Char
  | [] => []
  | '\r' :: '\n' :: rest => '\n' :: normalizeLineEnds rest
  | '\r' :: rest => '\n' :: normalizeLineEnds rest
  | character :: rest => character :: normalizeLineEnds rest

/-- A text without carriage returns is left as it is. -/
theorem normalizeLineEnds_eq_self {text : List Char} (absent : '\r' ∉ text) :
    normalizeLineEnds text = text := by
  fun_induction normalizeLineEnds text with
  | case1 => rfl
  | case2 rest ih => simp at absent
  | case3 rest _ ih => simp at absent
  | case4 character rest _ _ ih =>
    simp only [List.mem_cons, not_or] at absent
    rw [ih absent.2]

/-- After normalising there is no carriage return. -/
theorem not_mem_normalizeLineEnds (text : List Char) : '\r' ∉ normalizeLineEnds text := by
  fun_induction normalizeLineEnds text with
  | case1 => simp
  | case2 rest ih => simp [ih]
  | case3 rest _ ih => simp [ih]
  | case4 character rest noPair noReturn ih =>
    simp only [List.mem_cons, not_or]
    exact ⟨fun same => noReturn same.symm, ih⟩

end SetupScript.Text
