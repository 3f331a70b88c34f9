import SetupScript.Template.Arithmetic
import SetupScript.Template.Call

/-!
# Filters of sequences

What the filters make of the items of values: sorted, grouped, joined or summed up, or one of them.
-/

namespace SetupScript.Template.SequenceFilter

/-! ## Keys -/

/-- The parts of one path after another, which are separated by commas in a text. -/
def pathsOf (path : Value) : List Value :=
  match path.form.text? with
  | some paths => (Text.stringFields ',' paths).map Value.text
  | none => [path]

/-- The keys that several paths lead to from an item. -/
def keysAt (engine : Engine) (caseMatters : Bool) (path item : Value) : Work Value := do
  Work.newList (← (pathsOf path).mapM fun path => keyAt engine caseMatters path item)

/-- Items, each with its key. -/
def keyed (key : Value → Work Value) (items : List Value) : Work (List (Value × Value)) :=
  items.mapM fun item => do return (← key item, item)

/-! ## Order -/

/-- The items of a value in order. -/
def sort (engine : Engine) (value : Value) (given : Given) : Work Value := do
  let (backwards, caseMatters, path) ←
    given.three (optional "reverse" (.boolean false)) (optional "case_sensitive" (.boolean false))
      (optional "attribute" .none)
  let caseMatters ← caseMatters.truth
  (pathsOf path).forM fun path => discard (liftM (pathParts path) : Work (List Value))
  let items ← value.items engine
  let backwards ← backwards.form.whole
  let entries ← keyed (keysAt engine caseMatters path) items
  Work.newList (← sortByKey (backwards != 0) entries)

/-- The entries of a mapping as pairs in the order of their keys or values. -/
def sortEntries (engine : Engine) (value : Value) (given : Given) : Work Value := do
  let (caseMatters, side, backwards) ←
    given.three (optional "case_sensitive" (.boolean false)) (optional "by" (.text "key"))
      (optional "reverse" (.boolean false))
  let byKey ← side.equal (.text "key")
  if !byKey && !(← side.equal (.text "value")) then throw .unusable
  match value.form with
  | .mapping cell =>
    let entries ← Work.entries cell
    let backwards ← backwards.form.whole
    let caseMatters ← if entries.isEmpty then pure true else caseMatters.truth
    let keyed := entries.toList.map fun entry =>
      let key := if byKey then entry.1 else entry.2
      (if caseMatters then key else foldCase key, Value.tuple [entry.1, entry.2])
    Work.newList (← sortByKey (backwards != 0) keyed)
  | .undefined missing => liftM (Value.failMissing missing : Result Value)
  | _ =>
    discard (value.attribute? engine "items")
    throw .missingAttribute

/-- The item whose key comes before or after those of all others. -/
def extremeOf (comparison : Comparison) : Value × Value → List (Value × Value) → Work Value
  | best, [] => return best.2
  | best, entry :: entries => do
    if ← entry.1.isOrdered comparison best.1 then extremeOf comparison entry entries
    else extremeOf comparison best entries

/-- The least or the greatest item of a value. -/
def extreme (engine : Engine) (comparison : Comparison) (value : Value) (given : Given) :
    Work Value := do
  let (caseMatters, path) ←
    given.two (optional "case_sensitive" (.boolean false)) (optional "attribute" .none)
  match ← value.items engine with
  | [] => return .missing "No aggregated item, sequence was empty."
  | items =>
    let caseMatters ← caseMatters.truth
    match ← keyed (keyAt engine caseMatters path) items with
    | entry :: entries => extremeOf comparison entry entries
    | [] => return .none

/-! ## Groups -/

/-- Runs of items with equal keys, each with its first key. -/
def runsOf : List (Value × Value) → Work (List (Value × List Value))
  | [] => return []
  | (key, item) :: entries => do
    match ← runsOf entries, entries with
    | (_, items) :: runs, (next, _) :: _ =>
      if ← key.agrees next then return (key, item :: items) :: runs
      else return (key, [item]) :: (next, items) :: runs
    | runs, _ => return (key, [item]) :: runs

/-- The items of a value in groups with equal keys, in the order of the keys. -/
def groupBy (engine : Engine) (value : Value) (given : Given) : Work Value := do
  let (path, fallback, caseMatters) ←
    given.three (required "attribute") (optional "default" .none)
      (optional "case_sensitive" (.boolean false))
  let caseMatters ← caseMatters.truth
  let parts ← pathParts path
  let keyOf (item : Value) : Work Value := do
    let key ← follow engine fallback item parts
    return if caseMatters then key else foldCase key
  let sorted ← sortByKey false (← keyed keyOf (← value.items engine))
  let runs ← runsOf (← keyed keyOf sorted)
  let groups ← runs.mapM fun (key, items) => do
    let key ←
      match caseMatters, items with
      | false, item :: _ => follow engine fallback item parts
      | _, _ => pure key
    let items ← Work.newList items
    return Value.ofForm (.group (← Work.keep key) (← Work.keep items))
  Work.newList groups

/-! ## Sums -/

/-- The values that a path leads to from the items of a value, or the items if there is no path. -/
def itemsAt (engine : Engine) (value path : Value) : Work (List Value) := do
  let items ← value.items engine
  match path.form with
  | .none => return items
  | _ => items.mapM fun item => valueAt engine path item

/-- The sum of the items of a value. -/
def sum (engine : Engine) (value : Value) (given : Given) : Work Value := do
  let (path, start) ← given.two (optional "attribute" .none) (optional "start" (.integer 0))
  let items ← itemsAt engine value path
  match start.form with
  | .text _ | .markup _ | .bytes _ => throw .wrongType
  | _ => items.foldlM (Value.operate .add) start

/-- The texts of the items of a value with a text between them. -/
def join (engine : Engine) (value : Value) (given : Given) : Work Value := do
  let (separator, path) ← given.two (optional "d" (.text "")) (optional "attribute" .none)
  if ← Work.isEscaping then
    let items ← itemsAt engine value path
    let isMarked := separator.form.isMarkup || items.any fun item => item.form.isMarkup
    let textOf (item : Value) : Work String := if isMarked then item.escaped else item.display
    let texts ← items.mapM textOf
    return .textMarked isMarked (String.intercalate (← textOf separator) texts)
  else
    let separator ← separator.display
    let items ← itemsAt engine value path
    return .text (String.intercalate separator (← items.mapM fun item => item.display))

/-! ## Single items -/

/-- The last item of a value that can be gone through backwards. -/
def last (engine : Engine) (value : Value) : Work Value := do
  match ← value.backwards? with
  | some stream =>
    return (← stream.first? engine).getD (.missing "No last item, sequence was empty.")
  | none => throw .wrongType

/-- A text backwards, or the stream of a value's items from the last one on. -/
def reverse (engine : Engine) (value : Value) : Work Value := do
  match value.form.text? with
  | some content =>
    return .textMarked value.form.isMarkup (String.ofList content.toList.reverse)
  | none =>
    match ← value.backwards? with
    | some stream => return stream
    | none =>
      let items ←
        try value.items engine
        catch
          | .wrongType => throw .unusable
          | failure => throw failure
      Work.newList items.reverse

/-- An item of a sequence, whichever. -/
def anyItem (engine : Engine) (value : Value) : Work Value := do
  if (← value.length engine) = 0 then return .missing "No random item, sequence was empty."
  else value.mustItem (.integer 0)

/-- A value in place of one that is missing, or of one that counts as false if that is asked for. -/
def default (value : Value) (given : Given) : Work Value := do
  let (fallback, orFalse) ←
    given.two (optional "default_value" (.text "")) (optional "boolean" (.boolean false))
  if value.isUndefined then return fallback
  else if ← orFalse.truth then return if ← value.truth then value else fallback
  else return value

end SetupScript.Template.SequenceFilter
