import SetupScript.Token.Scanner

/-!
# Diagnostics

What is wrong with a script, and where.  A diagnostic names its cause; the wording is given in one
place and always begins with the script's name and the position.
-/

namespace SetupScript

/-! ## Causes -/

/-- The two forms of argument that must have exactly two parts. -/
inductive Diagnostic.Form
  | spaced
  | assignment
deriving DecidableEq

/-- What is wrong. -/
inductive Diagnostic.Fault
  | invalidToken (fault : Scanner.Fault)
  | unexpectedToken (expected actual : Token.Kind)
  | argumentCount (form : Diagnostic.Form) (count : Nat)
deriving DecidableEq

namespace Diagnostic.Fault

/-- The wording of a fault, without its place. -/
def message : Fault → String
  | invalidToken fault => "found invalid token: " ++ fault.message
  | unexpectedToken expected actual =>
    "expected token " ++ expected.name ++ ", got " ++ actual.name
  | argumentCount .spaced count => s!"expected two arguments but got {count}"
  | argumentCount .assignment count =>
    s!"expected two arguments separated by '=' but got {count}"

end Diagnostic.Fault

/-! ## Diagnostics -/

/-- A fault at a place of a named script. -/
structure Diagnostic where
  filename : String
  position : Position
  fault : Diagnostic.Fault
deriving DecidableEq

namespace Diagnostic

/-- The diagnostic that a scanner's error gives rise to. -/
def ofScannerError (filename : String) (error : Scanner.Error) : Diagnostic :=
  ⟨filename, error.position, .invalidToken error.fault⟩

/-- The printed form: name, place, wording. -/
def message (diagnostic : Diagnostic) : String :=
  s!"{diagnostic.filename}({diagnostic.position.line}:{diagnostic.position.column}) " ++
    diagnostic.fault.message

end Diagnostic

end SetupScript
