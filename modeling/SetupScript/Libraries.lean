import SetupScript.Datum
import SetupScript.Settings
import SetupScript.Text.LineEnding

/-!
# Libraries

What the program leaves to others: reading documents, checking the fields of settings and rendering
templates.  The program takes each of these as a parameter, of which it knows no more than what kind
of answer it gives.
-/

namespace SetupScript

/-- An error that a library raises: its kind and its wording. -/
structure Raised where
  kind : String
  message : String
deriving DecidableEq

/-! ## Settings -/

namespace Settings

/-- What may be wrong with a field.  A value that a library does not take is unsuitable, in a way
that the library names. -/
inductive Problem
  | unsuitable (kind : String)
  | tooSmall
  | notMapping
  | notPairs
  | notName
  | unknownField
  | notFields
deriving DecidableEq

/-- How settings are read: what a document holds, which text or integer a value is taken for, how
problems are reported and settings described, and the directory for temporary files. -/
structure Reader where
  document : String → Except Raised Datum
  text : Datum → Except String String
  integer : Datum → Except String Int
  report : List (String × Problem) → String
  describe : Settings → String
  temporaryDirectory : String

end Settings

/-! ## Templates -/

/-- Why a template gives no text: an error of the template language, or another one that comes up in
the evaluation of an expression. -/
inductive Renderer.Failure
  | own (error : Raised)
  | foreign (error : Raised)
deriving DecidableEq

/-- What a renderer is told: whether a name without a value is an error, whether the line feed at the
end of a template is kept, and whether values are escaped. -/
structure Renderer.Options where
  strict : Bool
  keepsLastLineFeed : Bool
  escapes : Bool
deriving DecidableEq

/-- What a text without tags gives: its line ends become line feeds, and one at the end is left out
unless it is kept. -/
def Renderer.Options.plainText (options : Renderer.Options) (text : List Char) : List Char :=
  let lines := Text.normalizeLineEnds text
  if options.keepsLastLineFeed || lines.getLast? != some '\n' then lines else lines.dropLast

/-- How templates are rendered: the text that a template and its data give. -/
structure Renderer where
  render : Renderer.Options → String → List (String × Datum) → Except Renderer.Failure String

end SetupScript
