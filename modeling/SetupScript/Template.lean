import SetupScript.Datum
import SetupScript.Template.Node.Reading
import SetupScript.Template.Preparation
import SetupScript.Template.Render
import SetupScript.Text.LineEnding

/-!
# Templates

Rendering a text in which tags stand for values.  Line ends are made line feeds first.  A template that is
ill formed, or names an unknown filter, is refused before anything is rendered.
-/

namespace SetupScript.Template

/-! ## Reading -/

/-- The nodes of a template, if it is well formed. -/
def parse (text : List Char) : Result (List Node) :=
  match pieces? (Text.normalizeLineEnds text) with
  | none => .error .unusable
  | some pieces =>
    match readNodes pieces with
    | .ok nodes => .ok nodes
    | .error .illFormed => .error .unusable
    | .error (.faultyNumber .tooManyDigits) => .error .wrongValue
    | .error (.faultyNumber .foreignDigits) => .error .illFormedCode

/-! ## Data -/

/-- The value that a key of data stands for. -/
def valueOfKey : Datum.Key → Value
  | .none => .none
  | .boolean value => .boolean value
  | .text value => .text value
  | .integer value => .integer value
  | .decimal value => .decimal value

mutual

/-- The value that a datum stands for. -/
def valueOf : Datum → Work Value
  | .none => return .none
  | .boolean value => return .boolean value
  | .integer value => return .integer value
  | .decimal value => return .decimal value
  | .text value => return .text value
  | .list items => do Work.newList (← valuesOf items)
  | .mapping entries => do Work.newMapping (← entriesOf entries)

/-- The values that several data stand for. -/
def valuesOf : List Datum → Work (List Value)
  | [] => return []
  | item :: items => do return (← valueOf item) :: (← valuesOf items)

/-- The keys and values that the entries of data stand for. -/
def entriesOf : List (Datum.Key × Datum) → Work (List (Value × Value))
  | [] => return []
  | (key, item) :: entries => do return (valueOfKey key, ← valueOf item) :: (← entriesOf entries)

end

/-- The values that a template is given. -/
def contextOf (context : List (String × Datum)) : Work (List (String × Value)) :=
  context.mapM fun entry => do return (entry.1, ← Work.keep (← valueOf entry.2))

/-! ## Rendering -/

/-- How deep calls may stand in each other. -/
def callLimit : Nat := 200

/-- The text of a template where names stand for data. -/
def renderText (text : String) (context : List (String × Datum)) : Result String := do
  let engine := Engine.ofDepth callLimit
  let prepared ← Prepared.ofNodes engine (← parse text.toList)
  let work : Work String := do prepared.render engine (← contextOf context)
  (work.run {}).1

end SetupScript.Template
