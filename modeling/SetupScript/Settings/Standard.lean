import SetupScript.Document
import SetupScript.Libraries
import SetupScript.Settings.Integer

/-!
# The reader at hand

A reader of settings to run the program with (`Settings.Reader.standard`).  What is proved of the
program holds with every reader.
-/

namespace SetupScript.Settings

/-! ## Documents -/

/-- The data of a document. -/
def readDocument (text : String) : Except Raised Datum :=
  match Document.read? text with
  | some datum => .ok datum
  | none => .error ⟨"syntax", "ill-formed document"⟩

/-! ## Texts and numbers -/

/-- A text is taken only from a text. -/
def takeText : Datum → Except String String
  | .text value => .ok value
  | _ => .error "string_type"

/-- Floating-point numbers from this bound on are not taken for integers. -/
def wordLimit : Int := 9223372036854775808

/-- An integer is taken from an integer, a truth value, a number without a fractional part and a
text that stands for an integer. -/
def takeInteger : Datum → Except String Int
  | .boolean value => .ok (if value then 1 else 0)
  | .integer value => .ok value
  | .decimal value =>
    if value.isNaN || value.isInf then .error "finite_number"
    else
      match Decimal.integer? value with
      | some whole =>
        if -wordLimit < whole ∧ whole < wordLimit then .ok whole else .error "int_parsing_size"
      | none => .error "int_from_float"
  | .text value =>
    (integerOf value.toList).mapError fun
      | .unreadable => "int_parsing"
      | .oversized => "int_parsing_size"
  | _ => .error "int_type"

/-! ## Reports -/

/-- The name of a problem. -/
def Problem.name : Problem → String
  | unsuitable kind => kind
  | tooSmall => "greater_than_equal"
  | notMapping => "dict_type"
  | notPairs => "value_error"
  | notName => "invalid_key"
  | unknownField => "extra_forbidden"
  | notFields => "model_type"

/-- Problems, one a line. -/
def reportProblems (problems : List (String × Problem)) : String :=
  String.intercalate "\n" (problems.map fun problem => problem.1 ++ ": " ++ problem.2.name)

/-- The fields of settings with their values. -/
def description (settings : Settings) : String :=
  let entries := settings.bindings.entries.map fun entry =>
    (Datum.Key.text entry.1, Datum.text entry.2)
  s!"staging_root={Text.quotedString settings.stagingRoot} " ++
    s!"staging_prefix={Text.quotedString settings.stagingStem} " ++
    s!"clone_depth={settings.cloneDepth} shell={Text.quotedString settings.shell} " ++
    s!"variables={(Datum.mapping entries).nested}"

/-- A reader that stages clones in a directory unless told otherwise. -/
def Reader.standard (temporaryDirectory : String) : Reader where
  document := readDocument
  text := takeText
  integer := takeInteger
  report := reportProblems
  describe := description
  temporaryDirectory := temporaryDirectory

end SetupScript.Settings
