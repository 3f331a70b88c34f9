import SetupScript.Template.Literal

/-!
# Expressions of templates

What stands inside tags: constants, names, and what is made of them with operators, calls, filters and
tests.
-/

namespace SetupScript.Template

/-- The arithmetic operators. -/
inductive Operator
  | add
  | subtract
  | multiply
  | divide
  | divideFloor
  | remainder
  | power
deriving DecidableEq

/-- The comparison operators. -/
inductive Comparison
  | equal
  | unequal
  | less
  | lessOrEqual
  | greater
  | greaterOrEqual
  | isIn
  | isNotIn
deriving DecidableEq

/-- How an argument is given: by place, by name, or several of them as the items of a sequence or the
entries of a mapping. -/
inductive Role
  | place
  | name (name : String)
  | items
  | entries

/-- The expressions.  Of a conditional expression without an alternative the line is kept.  A slice has a
meaning only as an index, and the captured text only where a filter stands behind a block. -/
inductive Expression
  | constant (value : Literal)
  | name (name : String)
  | captured
  | attribute (object : Expression) (name : String)
  | item (object index : Expression)
  | slice (start stop step : Option Expression)
  | call (function : Expression) (arguments : List (Role × Expression))
  | filter (subject : Expression) (name : String) (arguments : List (Role × Expression))
  | test (subject : Expression) (name : String) (arguments : List (Role × Expression))
  | negate (operand : Expression)
  | affirm (operand : Expression)
  | not (operand : Expression)
  | arithmetic (operator : Operator) (left right : Expression)
  | compare (first : Expression) (rest : List (Comparison × Expression))
  | concatenate (parts : List Expression)
  | and (left right : Expression)
  | or (left right : Expression)
  | choose (condition consequence alternative : Expression)
  | chooseOnly (line : Nat) (condition consequence : Expression)
  | list (items : List Expression)
  | tuple (items : List Expression)
  | mapping (entries : List (Expression × Expression))

/-- The arguments of a call. -/
abbrev Arguments := List (Role × Expression)

namespace Expression

mutual

/-- The names in an expression, in order. -/
def names : Expression → List String
  | .constant _ | .captured => []
  | .name word => [word]
  | .attribute object _ => object.names
  | .item object index => object.names ++ index.names
  | .slice start stop step => optionNames start ++ optionNames stop ++ optionNames step
  | .call function arguments => function.names ++ argumentNames arguments
  | .filter subject _ arguments | .test subject _ arguments =>
    subject.names ++ argumentNames arguments
  | .negate operand | .affirm operand | .not operand => operand.names
  | .arithmetic _ left right | .and left right | .or left right => left.names ++ right.names
  | .compare first rest => first.names ++ comparedNames rest
  | .concatenate parts => namesOfAll parts
  | .choose condition consequence alternative =>
    condition.names ++ consequence.names ++ alternative.names
  | .chooseOnly _ condition consequence => condition.names ++ consequence.names
  | .list items | .tuple items => namesOfAll items
  | .mapping entries => entryNames entries

/-- The names in an expression that may be missing. -/
def optionNames : Option Expression → List String
  | none => []
  | some expression => expression.names

/-- The names in several expressions. -/
def namesOfAll : List Expression → List String
  | [] => []
  | expression :: expressions => expression.names ++ namesOfAll expressions

/-- The names in arguments. -/
def argumentNames : List (Role × Expression) → List String
  | [] => []
  | (_, expression) :: arguments => expression.names ++ argumentNames arguments

/-- The names in the operands of comparisons. -/
def comparedNames : List (Comparison × Expression) → List String
  | [] => []
  | (_, expression) :: rest => expression.names ++ comparedNames rest

/-- The names in the keys and values of entries. -/
def entryNames : List (Expression × Expression) → List String
  | [] => []
  | (key, value) :: entries => key.names ++ value.names ++ entryNames entries

end

end Expression

end SetupScript.Template
