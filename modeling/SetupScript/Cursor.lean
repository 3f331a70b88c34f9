import SetupScript.Diagnostic
import SetupScript.Notice
import SetupScript.Procedure

/-!
# Cursor

A cursor looks one token ahead of the declarations.  It passes over comments, insists on the kinds
that the grammar asks for, and turns a scanner's error into a diagnostic.  Whatever is done with a
cursor, `pending` never grows, and it shrinks with every token taken (`pending_lt_of_advance`).
-/

namespace SetupScript

/-- A token source with the token at hand and the one before it. -/
structure Cursor where
  filename : String
  scanner : Scanner
  previous : Token
  current : Token
  notices : List Notice

namespace Cursor

/-! ## Operations -/

/-- A cursor in front of the first token; it has not looked at the source yet. -/
def unprimed (filename : String) (scanner : Scanner) (notices : List Notice) : Cursor :=
  ⟨filename, scanner, .final .origin, .final .origin, notices⟩

/-- Note something for the log. -/
def note (cursor : Cursor) (notice : Notice) : Cursor :=
  { cursor with notices := cursor.notices ++ [notice] }

@[simp]
theorem current_note (cursor : Cursor) (notice : Notice) :
    (cursor.note notice).current = cursor.current := rfl

/-- Pull the next token and hand out the one it replaces. -/
def advance : Procedure Cursor Diagnostic Token :=
  ⟨fun cursor =>
    match cursor.scanner.next with
    | (.ok token, scanner) =>
      (.ok cursor.current,
        { cursor with scanner := scanner, previous := cursor.current, current := token })
    | (.error error, scanner) =>
      (.error (.ofScannerError cursor.filename error), { cursor with scanner := scanner })⟩

/-- How much there is still to read: the characters, and the token at hand unless it is final. -/
def pending (cursor : Cursor) : Nat :=
  cursor.scanner.rest.length + if cursor.current.kind = .endOfInput then 0 else 1

/-- Pulling a token never adds to what is pending. -/
theorem lowers_advance : advance.Lowers pending := by
  intro cursor
  have bound := cursor.scanner.rest_length_next_le
  simp only [advance]
  split
  · rename_i token scanner step
    rw [step] at bound
    by_cases final : token.kind = .endOfInput
    · simp only [pending, final, ↓reduceIte]
      dsimp only at bound
      omega
    · have progress := Scanner.rest_length_lt_of_next step final
      simp only [pending, final, ↓reduceIte]
      omega
  · rename_i error scanner step
    rw [step] at bound
    simp only [pending]
    dsimp only at bound
    omega

/-- Taking a token that is not final leaves less to read. -/
theorem pending_lt_of_advance {cursor reached : Cursor} {token : Token}
    (notFinal : cursor.current.kind ≠ .endOfInput) (step : advance.run cursor = (.ok token, reached)) :
    reached.pending < cursor.pending := by
  have bound := cursor.scanner.rest_length_next_le
  simp only [advance] at step
  split at step
  · rename_i next scanner pulled
    rw [pulled] at bound
    cases step
    by_cases final : next.kind = .endOfInput
    · simp only [pending, final, notFinal, ↓reduceIte]
      dsimp only at bound
      omega
    · have progress := Scanner.rest_length_lt_of_next pulled final
      simp only [pending, final, notFinal, ↓reduceIte]
      omega
  · cases step

/-- Drop the comments at hand, noting each. -/
def dropComments (cursor : Cursor) : Except Diagnostic Unit × Cursor :=
  if _ : cursor.current.kind = .comment then
    match _ : advance.run (cursor.note (.skippingComment cursor.current.position)) with
    | (.ok _, reached) => reached.dropComments
    | (.error error, reached) => (.error error, reached)
  else (.ok (), cursor)
termination_by cursor.pending
decreasing_by
  show _ < (cursor.note (.skippingComment cursor.current.position)).pending
  exact pending_lt_of_advance (by
    rw [current_note, ‹cursor.current.kind = .comment›]
    exact nofun) ‹_›

/-- Drop the comments at hand, noting each. -/
def skipComments : Procedure Cursor Diagnostic Unit :=
  ⟨dropComments⟩

/-- The kind of the next token that is no comment. -/
def peekKind : Procedure Cursor Diagnostic Token.Kind := do
  skipComments
  return (← Procedure.look).current.kind

/-- Take the next token that is no comment; it must be of the given kind.  The token behind it is
pulled before its kind is compared. -/
def expect (kind : Token.Kind) : Procedure Cursor Diagnostic Token := do
  skipComments
  let token ← advance
  if token.kind = kind then return token
  else
    Procedure.fail
      ⟨(← Procedure.look).filename, token.position, .unexpectedToken kind token.kind⟩

/-- Take the next token that is no comment if it is of the given kind. -/
def allow (kind : Token.Kind) : Procedure Cursor Diagnostic Bool := do
  if (← peekKind) = kind then
    let _ ← advance
    return true
  else return false

/-! ## Progress -/

theorem lowers_skipComments : skipComments.Lowers pending := by
  intro cursor
  show (dropComments cursor).2.pending ≤ cursor.pending
  fun_induction dropComments cursor with
  | case1 cursor comment token reached step ih =>
    have bound := lowers_advance (cursor.note (.skippingComment cursor.current.position))
    rw [step] at bound
    exact Nat.le_trans ih bound
  | case2 cursor comment error reached step =>
    have bound := lowers_advance (cursor.note (.skippingComment cursor.current.position))
    rw [step] at bound
    exact bound
  | case3 => exact Nat.le_refl _

theorem lowers_peekKind : peekKind.Lowers pending :=
  Procedure.lowers_bind lowers_skipComments fun _ =>
    Procedure.lowers_bind (Procedure.lowers_look _) fun _ => Procedure.lowers_pure _ _

theorem lowers_expect (kind : Token.Kind) : (expect kind).Lowers pending := by
  refine Procedure.lowers_bind lowers_skipComments fun _ =>
    Procedure.lowers_bind lowers_advance fun token => ?_
  split
  · exact Procedure.lowers_pure _ _
  · exact Procedure.lowers_bind (Procedure.lowers_look _) fun _ => Procedure.lowers_fail _ _

theorem lowers_allow (kind : Token.Kind) : (allow kind).Lowers pending := by
  refine Procedure.lowers_bind lowers_peekKind fun actual => ?_
  split
  · exact Procedure.lowers_bind lowers_advance fun _ => Procedure.lowers_pure _ _
  · exact Procedure.lowers_pure _ _

/-- The kind that a look ahead answers is that of the token then at hand. -/
theorem kind_of_peekKind {cursor reached : Cursor} {kind : Token.Kind}
    (step : peekKind.run cursor = (.ok kind, reached)) : reached.current.kind = kind := by
  simp only [peekKind, Procedure.run_bind] at step
  split at step
  · cases step
    rfl
  · cases step

end Cursor

end SetupScript
