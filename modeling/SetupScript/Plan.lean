import SetupScript.Bindings

/-!
# Plans

What a script compiles to: commands in the order of their declarations, and the final table.
-/

namespace SetupScript

/-- The commands and bindings of a compiled script. -/
structure Plan where
  filename : String := "<script>"
  commands : List String := []
  bindings : Bindings := .empty
deriving DecidableEq

end SetupScript
