import SetupScript.Directory

/-!
# Contents

What a path gives to those who read a text from it: the bytes of a file must encode a text, one
character after the other, and line ends come out as line feeds (`Entry.text_eq_ok_iff`).
-/

namespace SetupScript

/-- The bytes that encode a text in UTF-8. -/
def encoded (text : List Char) : List UInt8 :=
  text.flatMap String.utf8EncodeChar

/-- Bytes are decoded to the text that they encode. -/
theorem fromUTF8?_eq_some_iff {content : List UInt8} {text : String} :
    String.fromUTF8? ⟨content.toArray⟩ = some text ↔ content = encoded text.toList := by
  have bytes : text.toByteArray = ⟨(encoded text.toList).toArray⟩ := by
    rw [← String.utf8Encode_toList, List.utf8Encode]
    exact ByteArray.ext List.data_toByteArray
  unfold String.fromUTF8?
  constructor
  · intro decoded
    split at decoded
    · cases decoded
      exact congrArg (fun array : ByteArray => array.data.toList) bytes
    · cases decoded
  · intro spelled
    rw [← spelled] at bytes
    rw [dif_pos (bytes ▸ text.isValidUTF8), Option.some.injEq]
    exact String.toByteArray_inj.1 bytes.symm

namespace Entry

/-- A file whose bytes encode a text gives that text, with line feeds for its line ends. -/
inductive Holds : Entry → String → Prop
  | file (text : List Char) :
      Holds (.file (encoded text)) (String.ofList (Text.normalizeLineEnds text))

/-- Why an entry gives no text. -/
inductive Withholds : Entry → Unreadable → Prop
  | missing : Withholds .missing .missing
  | directory : Withholds .directory .directory
  | notDirectory : Withholds .notDirectory .notDirectory
  | malformedPath : Withholds .malformedPath .malformedPath
  | undecodable {content : List UInt8} (foreign : ∀ text, content ≠ encoded text) :
      Withholds (.file content) (.undecodable content)

variable {entry : Entry} {text : String} {reason : Unreadable}

theorem text_eq_ok_iff : entry.text = .ok text ↔ entry.Holds text := by
  constructor
  · intro read
    cases entry with
    | file content =>
      cases decoded : String.fromUTF8? ⟨content.toArray⟩ with
      | none =>
        simp only [Entry.text, decoded] at read
        cases read
      | some found =>
        simp only [Entry.text, decoded] at read
        cases read
        obtain rfl := fromUTF8?_eq_some_iff.1 decoded
        exact .file found.toList
    | _ => cases read
  · rintro ⟨found⟩
    have decoded : String.fromUTF8? ⟨(encoded found).toArray⟩ = some (String.ofList found) := by
      rw [fromUTF8?_eq_some_iff, String.toList_ofList]
    simp only [Entry.text, decoded, String.toList_ofList]

theorem text_eq_error_iff : entry.text = .error reason ↔ entry.Withholds reason := by
  constructor
  · intro read
    cases entry with
    | file content =>
      cases decoded : String.fromUTF8? ⟨content.toArray⟩ with
      | none =>
        simp only [Entry.text, decoded] at read
        cases read
        refine .undecodable fun text spelled => ?_
        have found := fromUTF8?_eq_some_iff.2 (spelled.trans (by rw [String.toList_ofList]))
        rw [decoded] at found
        cases found
      | some found =>
        simp only [Entry.text, decoded] at read
        cases read
    | _ =>
      cases read
      constructor
  · intro withholds
    cases withholds with
    | @undecodable content foreign =>
      cases decoded : String.fromUTF8? ⟨content.toArray⟩ with
      | none => simp only [Entry.text, decoded]
      | some found => exact absurd (fromUTF8?_eq_some_iff.1 decoded) (foreign _)
    | _ => rfl

/-- An entry holds a text, or there is a reason why it gives none. -/
theorem holds_or_withholds (entry : Entry) :
    (∃ text, entry.Holds text) ∨ ∃ reason, entry.Withholds reason := by
  cases read : entry.text with
  | ok text => exact Or.inl ⟨text, text_eq_ok_iff.1 read⟩
  | error reason => exact Or.inr ⟨reason, text_eq_error_iff.1 read⟩

theorem Holds.unique {other : String} (holds : entry.Holds text) (otherHolds : entry.Holds other) :
    text = other := by
  have read := text_eq_ok_iff.2 holds
  rw [text_eq_ok_iff.2 otherHolds] at read
  exact (Except.ok.inj read).symm

/-- No carriage return is left in what is read. -/
theorem Holds.carriageReturn_notMem (holds : entry.Holds text) : '\r' ∉ text.toList := by
  cases holds with
  | file content =>
    rw [String.toList_ofList]
    exact Text.not_mem_normalizeLineEnds content

theorem Withholds.not_holds (withholds : entry.Withholds reason) (text : String) :
    ¬ entry.Holds text := by
  intro holds
  have read := text_eq_ok_iff.2 holds
  rw [text_eq_error_iff.2 withholds] at read
  cases read

end Entry

end SetupScript
