import SetupScript.Libraries
import SetupScript.Template

/-!
# The renderer at hand

A renderer of templates to run the program with (`Renderer.standard`).  What is proved of the program
holds with every renderer.
-/

namespace SetupScript

/-- The kind of a failure and its wording.  Failures of the template language are those of names that
are not defined and of templates that cannot be used. -/
def Template.Failure.raised : Template.Failure → Renderer.Failure
  | undefined message => .own ⟨"UndefinedError", message⟩
  | unusable => .own ⟨"TemplateSyntaxError", "ill-formed template"⟩
  | wrongType => .foreign ⟨"TypeError", ""⟩
  | wrongValue => .foreign ⟨"ValueError", ""⟩
  | zeroDivision => .foreign ⟨"ZeroDivisionError", ""⟩
  | overflow => .foreign ⟨"OverflowError", ""⟩
  | outOfMemory => .foreign ⟨"MemoryError", ""⟩
  | missingKey => .foreign ⟨"KeyError", ""⟩
  | missingItem => .foreign ⟨"IndexError", ""⟩
  | missingAttribute => .foreign ⟨"AttributeError", ""⟩
  | unknownName => .foreign ⟨"NameError", ""⟩
  | unknownCodec => .foreign ⟨"LookupError", ""⟩
  | unencodable => .foreign ⟨"UnicodeEncodeError", ""⟩
  | undecodable => .foreign ⟨"UnicodeDecodeError", ""⟩
  | wrongState => .foreign ⟨"RuntimeError", ""⟩
  | tooDeep => .foreign ⟨"RecursionError", ""⟩
  | unmetAssumption => .foreign ⟨"AssertionError", ""⟩
  | illFormedCode => .foreign ⟨"SyntaxError", ""⟩
  | notConstant => .foreign ⟨"ValueError", ""⟩

/-- A renderer of templates.  It is always strict, and escapes nothing of itself.  It draws nothing at
random: `lipsum` gives an empty text and `random` the same item every time. -/
def Renderer.standard : Renderer where
  render options text data :=
    (Template.renderText (String.ofList (options.plainText text.toList)) data).mapError
      Template.Failure.raised

end SetupScript
