import SetupScript.Diagnostic
import SetupScript.Settings

/-!
# Declarations

What the arguments of the four declarations mean, as far as it does not depend on the state of a
compilation: the source of a clone, the two parts of an argument, and the commands to emit.
-/

namespace SetupScript.Declaration

/-! ## Clones -/

/-- Where a clone is fetched from. -/
structure Source where
  url : String
  branch : Option String
deriving DecidableEq

/-- The source that an argument names: an `@` that occurs once separates a branch. -/
def source (argument : String) : Source :=
  match Text.stringFields '@' argument with
  | [location, branch] => ⟨"https://" ++ location, some branch⟩
  | _ => ⟨"https://" ++ argument, none⟩

/-- The option that selects a branch. -/
def Source.branchOption (source : Source) : String :=
  match source.branch with
  | some branch => "--branch " ++ branch ++ " "
  | none => ""

/-- The command that fetches a source into a directory. -/
def cloneCommand (settings : Settings) (source : Source) (path : String) : String :=
  "cd " ++ settings.stagingRoot ++ " && git clone --depth=" ++ toString settings.cloneDepth ++ " " ++
    source.branchOption ++ source.url ++ " " ++ path

/-! ## Arguments of two parts -/

/-- The character that separates the parts. -/
def separator : Diagnostic.Form → Char
  | .spaced => ' '
  | .assignment => '='

/-- The two parts of an argument, or the number of parts if they are not two. -/
def twoParts (form : Diagnostic.Form) (argument : String) : Except Nat (String × String) :=
  match Text.stringFields (separator form) argument with
  | [first, second] => .ok (first, second)
  | parts => .error parts.length

/-! ## Moves -/

/-- The place to move to: a leading dot is the working directory. -/
def destination (workingDirectory target : String) : String :=
  match target.toList with
  | '.' :: rest => workingDirectory ++ String.ofList rest
  | _ => target

/-- The command that moves a file. -/
def moveCommand (source destination : String) : String :=
  "mv " ++ source ++ " " ++ destination

end SetupScript.Declaration
