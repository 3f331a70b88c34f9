import SetupScript.Template.Arithmetic
import SetupScript.Template.Frame

/-!
# Evaluating expressions

The value of an expression: in a frame, or beforehand, when names have no values yet.  Beforehand an
expression that uses a name, a call, or a filter that needs the context is not constant, and neither is one
that fails within an operator, a filter or a test.
-/

namespace SetupScript.Template

/-! ## Settings -/

/-- Where an expression is evaluated: in a frame or beforehand, and with which text behind a block.  Texts
that are put one behind the other may have to be escaped, and it may be open whether texts are escaped, so
that filters and tests are not constant. -/
structure Setting where
  engine : Engine
  frame? : Option Cell := none
  joinsEscaped : Bool := false
  isOpen : Bool := false
  captured? : Option Value := none

/-- Work that gives no constant beforehand when it fails. -/
def Setting.settled {Answer : Type} (setting : Setting) (work : Work Answer) : Work Answer :=
  match setting.frame? with
  | some _ => work
  | none => Procedure.orElse work fun _ => throw .notConstant

/-! ## Constants -/

mutual

/-- The value of a constant. -/
def Literal.value : Literal → Work Value
  | .none => return .none
  | .boolean value => return .boolean value
  | .integer value => return .mk (.integer value) .written
  | .decimal value => return .mk (.decimal value) .written
  | .complex real imaginary => return Form.complex real imaginary
  | .text value => return .mk (.text value) .written
  | .markup value => return .mk (.markup value) .written
  | .range start stop step => return Form.range start stop step
  | .list items => do Work.newList (← literalValues items)
  | .tuple items => do Work.newTuple (← literalValues items)
  | .mapping entries => do Work.newMappingOf (← literalEntries entries)

/-- The values of several constants. -/
def literalValues : List Literal → Work (List Value)
  | [] => return []
  | item :: items => do return (← item.value) :: (← literalValues items)

/-- The keys and values of constant entries. -/
def literalEntries : List (Literal × Literal) → Work (List (Value × Value))
  | [] => return []
  | (key, value) :: entries => do
    return (← key.value, ← value.value) :: (← literalEntries entries)

end

/-- The value of a constant in an expression.  While a template is rendered, a number without digits is
taken for an unknown name. -/
def Setting.constant (setting : Setting) (literal : Literal) : Work Value := do
  if setting.frame?.isSome && !literal.isWritable then throw .unknownName
  else literal.value

/-! ## Arguments -/

/-- The words that have a meaning of their own in arguments, which no plain argument can be named by. -/
def reservedWords : List String :=
  ["False", "None", "True", "and", "as", "assert", "async", "await", "break", "class", "continue",
    "def", "del", "elif", "else", "except", "finally", "for", "from", "global", "if", "import", "in",
    "is", "lambda", "nonlocal", "not", "or", "pass", "raise", "return", "try", "while", "with", "yield"]

/-- What the arguments of a call give: values in order, values by name, and the entries of mappings. -/
structure Gathered where
  positional : List Value := []
  named : List (String × Value) := []
  entries : List (Value × Value) := []

/-- What an argument gives, in front of what the others do. -/
def Gathered.inFront (first rest : Gathered) : Gathered where
  positional := first.positional ++ rest.positional
  named := first.named ++ rest.named
  entries := first.entries ++ rest.entries

/-- The entries of a mapping that stands for arguments. -/
def entriesGiven (value : Value) : Work (List (Value × Value)) := do
  match value.form with
  | .mapping cell => return (← Work.entries cell).toList
  | .undefined missing => liftM (Value.failMissing missing : Result (List (Value × Value)))
  | _ => throw .wrongType

/-- What one argument gives. -/
def Setting.gather (setting : Setting) (role : Role) (value : Value) : Work Gathered := do
  match role with
  | .place => return { positional := [value] }
  | .name name => return { named := [(name, value)] }
  | .items => return { positional := ← setting.settled (value.items setting.engine) }
  | .entries => return { entries := ← setting.settled (entriesGiven value) }

/-- Give a name a value, in its old place if it has one. -/
def putNamed (name : String) (value : Value) (named : List (String × Value)) :
    List (String × Value) :=
  if (named.lookup name).isSome then
    named.map fun entry => if entry.1 == name then (name, value) else entry
  else named ++ [(name, value)]

/-- Named arguments together with those that come from mappings. -/
def putEntriesNamed (replaces : Bool) (named : List (String × Value)) :
    List (Value × Value) → Result (List (String × Value))
  | [] => .ok named
  | (key, value) :: entries =>
    match key.form.text? with
    | none => .error .wrongType
    | some name =>
      if !replaces && (named.lookup name).isSome then .error .wrongType
      else putEntriesNamed replaces (putNamed name value named) entries

/-- Whether a later argument may replace an earlier one with its name: beforehand, or if a reserved word is
among the names, since then the arguments are gathered in a mapping. -/
def Setting.replaces (setting : Setting) (named : List (String × Value)) : Bool :=
  setting.frame?.isNone || named.any fun entry => reservedWords.contains entry.1

/-- The values that a call is given.  While a template is rendered, an argument is named by the normal form
of its name, unless the arguments are gathered in a mapping. -/
def Setting.given (setting : Setting) (gathered : Gathered) : Result Given := do
  let isPlain := !setting.replaces gathered.named
  let nameOf (name : String) : String := if isPlain then normalName name else name
  let named := gathered.named.foldl (fun named entry => putNamed (nameOf entry.1) entry.2 named) []
  return ⟨gathered.positional, ← putEntriesNamed (setting.replaces named) named gathered.entries⟩

/-! ## Operators -/

/-- Whether a comparison holds. -/
def Comparison.holds (engine : Engine) (comparison : Comparison) (left right : Value) : Work Bool :=
  match comparison with
  | .equal => left.equal right
  | .unequal => do return !(← left.equal right)
  | .isIn => right.contains engine left
  | .isNotIn => do return !(← right.contains engine left)
  | comparison => left.isOrdered comparison right

/-- What a conditional expression without an alternative gives when its condition fails. -/
def withoutAlternative (line : Nat) : Value :=
  Form.undefined
    ⟨"the inline if-expression on line " ++ toString line ++
      " evaluated to false and no else section was defined.", true⟩

/-- The filters that need the context. -/
def contextFilters : List String :=
  ["map", "random", "reject", "rejectattr", "select", "selectattr"]

/-- The value of a filter. -/
def Setting.filter (setting : Setting) (name : String) (subject : Value) (given : Given) :
    Work Value :=
  if setting.frame?.isNone && (setting.isOpen || contextFilters.contains name) then
    throw .notConstant
  else setting.settled (setting.engine.filter name subject given)

/-- The answer of a test. -/
def Setting.test (setting : Setting) (name : String) (subject : Value) (given : Given) :
    Work Value := do
  if setting.frame?.isNone && setting.isOpen then throw .notConstant
  else return .boolean (← setting.settled (setting.engine.test name subject given))

/-- The value of an operator.  A difference may be one of sets. -/
def Setting.operate (setting : Setting) (operator : Operator) (left right : Value) : Work Value := do
  match operator with
  | .subtract =>
    match ← SetMethod.combined? setting.engine .difference left right with
    | some difference => return difference
    | none => Value.operate operator left right
  | _ => Value.operate operator left right

/-- The slice of a value, which beforehand is missing where there can be none. -/
def Setting.slice (setting : Setting) (value start stop step : Value) : Work Value :=
  match setting.frame? with
  | some _ => value.slice start stop step
  | none => setting.settled (value.sliceOrMissing start stop step)

/-! ## Expressions -/

mutual

/-- The value of an expression. -/
def evaluate (setting : Setting) : Expression → Work Value
  | .constant literal => setting.constant literal
  | .name name =>
    match setting.frame? with
    | some frame => Frame.read frame name
    | none => throw .notConstant
  | .captured =>
    match setting.captured? with
    | some captured => return captured
    | none => throw .notConstant
  | .attribute object name =>
    setting.settled do (← evaluate setting object).getAttribute setting.engine name
  | .item object (.slice start stop step) =>
    setting.settled do
      let object ← evaluate setting object
      let start ← evaluateBound setting start
      let stop ← evaluateBound setting stop
      setting.slice object start stop (← evaluateBound setting step)
  | .item object index =>
    setting.settled do
      let object ← evaluate setting object
      object.getItem setting.engine (← evaluate setting index)
  | .slice .. => throw .notConstant
  | .call function arguments => do
    if setting.frame?.isNone then throw .notConstant
    else
      let function ← evaluate setting function
      setting.engine.call function (← setting.given (← evaluateArguments setting arguments))
  | .filter subject name arguments => do
    let subject ← evaluate setting subject
    setting.filter name subject (← setting.given (← evaluateArguments setting arguments))
  | .test subject name arguments => do
    let subject ← evaluate setting subject
    setting.test name subject (← setting.given (← evaluateArguments setting arguments))
  | .negate operand => setting.settled do (← evaluate setting operand).negate
  | .affirm operand => setting.settled do (← evaluate setting operand).affirm
  | .not operand => setting.settled do return .boolean !(← (← evaluate setting operand).truth)
  | .arithmetic operator left right =>
    setting.settled do
      let left ← evaluate setting left
      setting.operate operator left (← evaluate setting right)
  | .compare first rest => do
    let first ← evaluate setting first
    return .boolean (← setting.settled (evaluateComparisons setting first rest))
  | .concatenate parts => do Value.concatenate setting.joinsEscaped (← evaluateAll setting parts)
  | .and left right => do
    let value ← evaluate setting left
    if ← value.truth then evaluate setting right else return value
  | .or left right => do
    let value ← evaluate setting left
    if ← value.truth then return value else evaluate setting right
  | .choose condition consequence alternative => do
    if ← (← evaluate setting condition).truth then evaluate setting consequence
    else evaluate setting alternative
  | .chooseOnly line condition consequence => do
    if ← (← evaluate setting condition).truth then evaluate setting consequence
    else if setting.frame?.isNone then throw .notConstant
    else return withoutAlternative line
  | .list items => do Work.newList (← evaluateAll setting items)
  | .tuple items => do Work.newTuple (← evaluateAll setting items)
  | .mapping entries => do Work.newMappingOf (← evaluateEntries setting entries)

/-- The value of a bound of a slice. -/
def evaluateBound (setting : Setting) : Option Expression → Work Value
  | none => return .none
  | some bound => evaluate setting bound

/-- The values of several expressions. -/
def evaluateAll (setting : Setting) : List Expression → Work (List Value)
  | [] => return []
  | expression :: expressions => do
    return (← evaluate setting expression) :: (← evaluateAll setting expressions)

/-- Whether a value compares with the operands of all comparisons, one after the other. -/
def evaluateComparisons (setting : Setting) (left : Value) :
    List (Comparison × Expression) → Work Bool
  | [] => return true
  | (comparison, expression) :: rest => do
    let right ← evaluate setting expression
    if ← comparison.holds setting.engine left right then evaluateComparisons setting right rest
    else return false

/-- The keys and values of entries. -/
def evaluateEntries (setting : Setting) :
    List (Expression × Expression) → Work (List (Value × Value))
  | [] => return []
  | (key, value) :: entries => do
    return (← evaluate setting key, ← evaluate setting value) :: (← evaluateEntries setting entries)

/-- What the arguments of a call give. -/
def evaluateArguments (setting : Setting) : List (Role × Expression) → Work Gathered
  | [] => return {}
  | (role, expression) :: arguments => do
    let first ← setting.gather role (← evaluate setting expression)
    return first.inFront (← evaluateArguments setting arguments)

end

end SetupScript.Template
