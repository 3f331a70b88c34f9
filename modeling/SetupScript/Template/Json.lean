import SetupScript.Template.Sorting
import SetupScript.Text.Json

/-!
# Values as JSON

The JSON text of a value, with the entries of mappings in the order of their keys.  The text may be spread
over lines, each with a margin for every level.
-/

namespace SetupScript.Template.Json

/-- The key of an entry: texts as they are, other simple values as their own JSON. -/
def keyText (key : Value) : Result String := do
  match key.form with
  | .text content | .markup content => return content
  | .none => return "null"
  | .boolean value => return if value then "true" else "false"
  | .integer value => integerText value
  | .decimal value => return Text.jsonDecimal value
  | _ => throw .wrongType

/-- The texts of the parts of a list or mapping between brackets.  With a margin every part has a line of
its own. -/
def enclosed (margin? : Option String) (level : Nat) (opening closing : String)
    (parts : List String) : String :=
  match margin?, parts with
  | _, [] => opening ++ closing
  | none, _ => opening ++ String.intercalate ", " parts ++ closing
  | some margin, _ =>
    let line (depth : Nat) : String := "\n" ++ String.join (List.replicate depth margin)
    opening ++ line (level + 1) ++ String.intercalate ("," ++ line (level + 1)) parts ++ line level ++
      closing

/-- The JSON text of a value; `path` holds the lists and mappings around it, and the first number bounds
the depth. -/
def textWithin (margin? : Option String) : Nat → List Cell → Value → Work String
  | 0, _, _ => throw .tooDeep
  | depth + 1, path, value => do
    let listed (path : List Cell) (items : List Value) : Work String := do
      return enclosed margin? (depthLimit - depth - 1) "[" "]"
        (← items.mapM (textWithin margin? depth path))
    match value.form with
    | .none => return "null"
    | .boolean truth => return if truth then "true" else "false"
    | .integer number => integerText number
    | .decimal number => return Text.jsonDecimal number
    | .text content | .markup content => return Text.jsonQuoted content
    | .list cell =>
      if path.contains cell then throw .wrongValue
      else listed (cell :: path) (← Work.items cell).toList
    | .mapping cell =>
      if path.contains cell then throw .wrongValue
      else
        let entries := (← Work.entries cell).toList
        let sorted ← sortUp (entries.map fun entry => (.tuple [entry.1, entry.2], entry.2))
        let parts ← sorted.mapM fun (pair, item) => do
          let key ← keyText ((pair.form.tuple?.bind List.head?).getD .none)
          return Text.jsonQuoted key ++ ": " ++ (← textWithin margin? depth (cell :: path) item)
        return enclosed margin? (depthLimit - depth - 1) "\x7b" "\x7d" parts
    | form =>
      match form.tuple? with
      | some items => listed path items
      | none => throw .wrongType

/-- A character of a JSON text inside markup. -/
def markupCharacter (character : Char) : List Char :=
  if ['<', '>', '&', '\''].contains character then Text.jsonEscape character.toNat else [character]

/-- The JSON text of a value with the characters that have a meaning in markup written as escapes. -/
def markupText (margin? : Option String) (value : Value) : Work String := do
  let text ← textWithin margin? depthLimit [] value
  return String.ofList (text.toList.flatMap markupCharacter)

end SetupScript.Template.Json
