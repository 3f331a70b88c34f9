import SetupScript.Bindings
import SetupScript.Path

/-!
# Settings

Where clones are staged, how they are fetched, which shell runs the commands, and which names are
bound from the start.
-/

namespace SetupScript

/-- The settings of a compilation. -/
structure Settings where
  stagingRoot : String
  stagingStem : String := "depscript-"
  cloneDepth : Nat := 1
  cloneDepth_pos : 0 < cloneDepth := by exact Nat.zero_lt_one
  shell : String := "/bin/sh"
  bindings : Bindings := .empty
deriving DecidableEq

namespace Settings

/-- The settings without any fields: clones are staged in the directory for temporary files. -/
def standard (temporaryDirectory : String) : Settings where
  stagingRoot := temporaryDirectory

/-- Staging numbers have at most twelve digits. -/
def stagingRange : Nat := 1000000000000

/-- The directory of a clone: the stem and the drawn number, below the staging root. -/
def stagingPath (settings : Settings) (draw : Nat) : String :=
  Path.join settings.stagingRoot (settings.stagingStem ++ toString (draw % stagingRange))

end Settings

end SetupScript
