import SetupScript.Text.Fields

/-!
# Paths

Names of files and directories, their parts separated by slashes.
-/

namespace SetupScript.Path

/-- The second path as seen from the first: an absolute one stands alone, and else a single slash
comes between the two. -/
def join (base path : String) : String :=
  if path.toList.head? = some '/' then path
  else if base.toList.getLast? = some '/' ∨ base = "" then base ++ path
  else base ++ "/" ++ path

/-- The root that a path starts from: exactly two slashes are kept, more count as one. -/
def root (path : List Char) : String :=
  match path with
  | '/' :: '/' :: '/' :: _ => "/"
  | '/' :: '/' :: _ => "//"
  | '/' :: _ => "/"
  | _ => ""

/-- The parts of a path that matter: neither empty ones nor single dots. -/
def parts (path : String) : List String :=
  (Text.stringFields '/' path).filter fun part => part != "" && part != "."

/-- A path without repeated slashes and single dots; one that has nothing left is a dot. -/
def tidy (path : String) : String :=
  let tidied := root path.toList ++ String.intercalate "/" (parts path)
  if tidied = "" then "." else tidied

end SetupScript.Path
