import SetupScript.Template.Arithmetic
import SetupScript.Template.Given
import SetupScript.Template.Iteration
import SetupScript.Template.Names

/-!
# Tests

The questions that a template asks about a value behind the word `is`.
-/

namespace SetupScript.Template

namespace Value

/-- Whether a value leaves a rest over when it is divided by another. -/
def leaves (value divisor : Value) (rest : Int) : Work Bool := do
  (← operate .remainder value divisor).equal (.integer rest)

/-- Whether a value is a truth value, perhaps a certain one. -/
def isTruth (value : Value) (wanted? : Option Bool) : Bool :=
  match value.form, wanted? with
  | .boolean _, Option.none => true
  | .boolean truth, some wanted => truth == wanted
  | _, _ => false

/-- Whether a value can be gone through. -/
def isIterable (value : Value) : Result Bool :=
  match value.form with
  | .undefined missing => useMissing missing true
  | .text _ | .markup _ | .bytes _ | .tuple _ | .group .. | .range .. | .list _ | .mapping _ | .set _
  | .view .. | .stream .. | .loop _ | .blocks _ => .ok true
  | _ => .ok false

/-- Whether a value has a length and items under indices. -/
def isSequence (value : Value) : Bool :=
  match value.form with
  | .text _ | .markup _ | .bytes _ | .tuple _ | .group .. | .range .. | .list _ | .mapping _ => true
  | .undefined missing => missing.lenient
  | _ => false

/-- Whether a value can be called. -/
def isCallable (value : Value) : Bool :=
  value.form.isCallable || value.isUndefined

/-- Whether a value is one of some names. -/
def isNameIn (names : List String) (value : Value) : Result Bool := do
  value.checkKey
  return value.form.text?.any names.contains

end Value

/-- The answer of a test that takes no arguments. -/
def simpleTest? (name : String) (value : Value) : Option (Work Bool) :=
  let known (answer : Bool) : Option (Work Bool) := some (return answer)
  match name, value.form with
  | "defined", _ => known !value.isUndefined
  | "undefined", _ => known value.isUndefined
  | "odd", _ => some (value.leaves (.integer 2) 1)
  | "even", _ => some (value.leaves (.integer 2) 0)
  | "none", form => known (match form with
    | .none => true
    | _ => false)
  | "true", _ => known (value.isTruth (some true))
  | "false", _ => known (value.isTruth (some false))
  | "boolean", _ => known (value.isTruth none)
  | "integer", .integer _ | "float", .decimal _ | "mapping", .mapping _ => known true
  | "integer", _ | "float", _ | "mapping", _ => known false
  | "number", form => known form.number?.isSome
  | "string", form => known form.text?.isSome
  | "escaped", form => known form.isMarkup
  | "sequence", _ => known value.isSequence
  | "iterable", _ => some (liftM value.isIterable)
  | "callable", _ => known value.isCallable
  | "upper", _ => some do return Text.isUpperCase (← value.display).toList
  | "lower", _ => some do return Text.isLowerCase (← value.display).toList
  | "filter", _ => some (liftM (value.isNameIn filterNames))
  | "test", _ => some (liftM (value.isNameIn testNames))
  | _, _ => none

/-- The answer of a test that compares a value with another one. -/
def comparingTest? (name : String) (value other : Value) : Option (Work Bool) :=
  match name with
  | "eq" | "equalto" | "==" => some (value.equal other)
  | "ne" | "!=" => some do return !(← value.equal other)
  | "lt" | "lessthan" | "<" => some (value.isOrdered .less other)
  | "le" | "<=" => some (value.isOrdered .lessOrEqual other)
  | "gt" | "greaterthan" | ">" => some (value.isOrdered .greater other)
  | "ge" | ">=" => some (value.isOrdered .greaterOrEqual other)
  | _ => none

/-- The answer of a test. -/
def testWith (engine : Engine) (name : String) (value : Value) (given : Given) : Work Bool := do
  match simpleTest? name value, name with
  | some answer, _ =>
    given.nothing
    answer
  | none, "sameas" => return value.isSame (← given.one (required "other"))
  | none, "divisibleby" => value.leaves (← given.one (required "num")) 0
  | none, "in" => do (← given.one (required "seq")).contains engine value
  | none, _ =>
    if testNames.contains name then
      match ← given.inOrder with
      | [other] => (comparingTest? name value other).getD (throw .wrongType)
      | _ => throw .wrongType
    else throw .unusable

end SetupScript.Template
