import SetupScript.Document.Statement

/-!
# Settings documents

What the text of a document means.
-/

namespace SetupScript.Document

/-- The mapping that a document means, if it is well formed.  The last line need not be ended. -/
def read? (text : String) : Option Datum := do
  let text := text.toList ++ ['\n']
  let (statements, rest) ← readStatements (16 * text.length) text
  if !rest.isEmpty then none
  let slots ← addAll? [] statements
  return .mapping (entriesOf slots)

end SetupScript.Document
