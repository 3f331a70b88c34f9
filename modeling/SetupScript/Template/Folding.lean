import SetupScript.Template.Evaluate
import SetupScript.Template.Escape

/-!
# Folding expressions

The parts of an expression whose values are known beforehand are replaced by constants, the innermost first.
A failure within an operator, a filter or a test leaves the expression as it is, and shows itself only when
the expression is evaluated; any other failure is found at once.
-/

namespace SetupScript.Template

/-! ## Constants -/

/-- The constant that a value is, looked at to a certain depth, unless there is none. -/
def literalAt : Nat → Value → Work (Option Literal)
  | 0, _ => throw .tooDeep
  | depth + 1, value => do
    let literals (values : List Value) : Work (Option (List Literal)) := do
      return (← values.mapM (literalAt depth)).mapM id
    match value.form with
    | .none => return some .none
    | .boolean truth => return some (.boolean truth)
    | .integer number => return some (.integer number)
    | .decimal number => return some (.decimal number)
    | .complex real imaginary => return some (.complex real imaginary)
    | .text content => return some (.text content)
    | .markup content => return some (.markup content)
    | .range start stop step => return some (.range start stop step)
    | .list cell => return (← literals (← Work.items cell).toList).map .list
    | .tuple items => return (← literals items).map .tuple
    | .mapping cell =>
      let entries ← Work.entries cell
      match ← literals (entries.toList.map Prod.fst), ← literals (entries.toList.map Prod.snd) with
      | some keys, some values => return some (.mapping (keys.zip values))
      | _, _ => return Option.none
    | _ => return Option.none

/-- What is known before a template is rendered: what goes beyond a single value, whether texts are escaped as
far as one knows, and whether that is open. -/
structure Foresight where
  engine : Engine
  escapes : Bool
  isOpen : Bool

namespace Foresight

/-- The setting of an expression beforehand. -/
def setting (foresight : Foresight) : Setting where
  engine := foresight.engine
  isOpen := foresight.isOpen

/-- The outcome of work beforehand. -/
def outcome {Answer : Type} (foresight : Foresight) (work : Work Answer) : Result Answer :=
  (work.run { escaping := foresight.escapes }).1

/-- The constant that an expression is, if it is one. -/
def constant? (foresight : Foresight) (expression : Expression) : Result (Option Literal) :=
  let work : Work (Option Literal) := do
    literalAt depthLimit (← evaluate foresight.setting expression)
  match foresight.outcome work with
  | .error .notConstant => .ok none
  | result => result

/-- Whether an expression counts as true, if that is known. -/
def truth? (foresight : Foresight) (expression : Expression) : Result (Option Bool) :=
  let work : Work Bool := do (← evaluate foresight.setting expression).truth
  match foresight.outcome work with
  | .ok truth => .ok (some truth)
  | .error .notConstant => .ok none
  | .error failure => .error failure

/-- The text that an expression is put out as, if it is known and nothing fails. -/
def text? (foresight : Foresight) (expression : Expression) : Option String :=
  let work : Work String := do
    let value ← evaluate foresight.setting expression
    if foresight.escapes then value.escaped else value.display
  (foresight.outcome work).toOption

end Foresight

/-! ## Folding -/

/-- The absolute value of a negative constant. -/
def Literal.withoutSign? : Literal → Option Literal
  | .integer value => if value < 0 then some (.integer (-value)) else Option.none
  | .decimal value =>
    if Decimal.isNegative value && !value.isNaN then some (.decimal (-value)) else Option.none
  | _ => Option.none

/-- An expression none of whose parts can be folded any more.  A power of a negative constant is the negative
of the power of its absolute value. -/
def Expression.rearranged : Expression → Expression
  | .arithmetic .power (.constant base) exponent =>
    match base.withoutSign? with
    | some base => .negate (.arithmetic .power (.constant base) exponent)
    | none => .arithmetic .power (.constant base) exponent
  | expression => expression

/-- Fold an expression whose parts are folded. -/
def Foresight.settle (foresight : Foresight) (expression : Expression) : Result Expression := do
  match ← foresight.constant? expression with
  | some literal => return .constant literal
  | none => return expression.rearranged

mutual

/-- Fold an expression and all its parts. -/
def fold (foresight : Foresight) : Expression → Result Expression
  | .constant literal => .ok (.constant literal)
  | .name name => .ok (.name name)
  | .captured => .ok .captured
  | .attribute object name => do foresight.settle (.attribute (← fold foresight object) name)
  | .item object index => do
    let object ← fold foresight object
    foresight.settle (.item object (← fold foresight index))
  | .slice start stop step => do
    let start ← foldBound foresight start
    let stop ← foldBound foresight stop
    return .slice start stop (← foldBound foresight step)
  | .call function arguments => do
    let function ← fold foresight function
    return .call function (← foldArguments foresight arguments)
  | .filter subject name arguments => do
    let subject ← fold foresight subject
    foresight.settle (.filter subject name (← foldArguments foresight arguments))
  | .test subject name arguments => do
    let subject ← fold foresight subject
    foresight.settle (.test subject name (← foldArguments foresight arguments))
  | .negate operand => do foresight.settle (.negate (← fold foresight operand))
  | .affirm operand => do foresight.settle (.affirm (← fold foresight operand))
  | .not operand => do foresight.settle (.not (← fold foresight operand))
  | .arithmetic operator left right => do
    let left ← fold foresight left
    foresight.settle (.arithmetic operator left (← fold foresight right))
  | .compare first rest => do
    let first ← fold foresight first
    foresight.settle (.compare first (← foldCompared foresight rest))
  | .concatenate parts => do foresight.settle (.concatenate (← foldAll foresight parts))
  | .and left right => do
    let left ← fold foresight left
    foresight.settle (.and left (← fold foresight right))
  | .or left right => do
    let left ← fold foresight left
    foresight.settle (.or left (← fold foresight right))
  | .choose condition consequence alternative => do
    let condition ← fold foresight condition
    let consequence ← fold foresight consequence
    foresight.settle (.choose condition consequence (← fold foresight alternative))
  | .chooseOnly line condition consequence => do
    let condition ← fold foresight condition
    foresight.settle (.chooseOnly line condition (← fold foresight consequence))
  | .list items => do foresight.settle (.list (← foldAll foresight items))
  | .tuple items => do foresight.settle (.tuple (← foldAll foresight items))
  | .mapping entries => do foresight.settle (.mapping (← foldEntries foresight entries))

/-- Fold the bound of a slice. -/
def foldBound (foresight : Foresight) : Option Expression → Result (Option Expression)
  | none => .ok none
  | some bound => do return some (← fold foresight bound)

/-- Fold several expressions. -/
def foldAll (foresight : Foresight) : List Expression → Result (List Expression)
  | [] => .ok []
  | expression :: expressions => do
    return (← fold foresight expression) :: (← foldAll foresight expressions)

/-- Fold the arguments of a call. -/
def foldArguments (foresight : Foresight) :
    List (Role × Expression) → Result (List (Role × Expression))
  | [] => .ok []
  | (role, expression) :: arguments => do
    return (role, ← fold foresight expression) :: (← foldArguments foresight arguments)

/-- Fold the operands of comparisons. -/
def foldCompared (foresight : Foresight) :
    List (Comparison × Expression) → Result (List (Comparison × Expression))
  | [] => .ok []
  | (comparison, expression) :: rest => do
    return (comparison, ← fold foresight expression) :: (← foldCompared foresight rest)

/-- Fold the keys and values of entries. -/
def foldEntries (foresight : Foresight) :
    List (Expression × Expression) → Result (List (Expression × Expression))
  | [] => .ok []
  | (key, value) :: entries => do
    return (← fold foresight key, ← fold foresight value) :: (← foldEntries foresight entries)

end

mutual

/-- Fold the parts of an expression.  Lists, tuples and mappings are not folded themselves, unless they are
parts of something else. -/
def foldParts (foresight : Foresight) : Expression → Result Expression
  | .list items => do return .list (← foldPartsOfAll foresight items)
  | .tuple items => do return .tuple (← foldPartsOfAll foresight items)
  | .mapping entries => do return .mapping (← foldPartsOfEntries foresight entries)
  | expression => fold foresight expression

/-- Fold the parts of several expressions. -/
def foldPartsOfAll (foresight : Foresight) : List Expression → Result (List Expression)
  | [] => .ok []
  | expression :: expressions => do
    return (← foldParts foresight expression) :: (← foldPartsOfAll foresight expressions)

/-- Fold the parts of the keys and values of entries. -/
def foldPartsOfEntries (foresight : Foresight) :
    List (Expression × Expression) → Result (List (Expression × Expression))
  | [] => .ok []
  | (key, value) :: entries => do
    return (← foldParts foresight key, ← foldParts foresight value) ::
      (← foldPartsOfEntries foresight entries)

end

end SetupScript.Template
