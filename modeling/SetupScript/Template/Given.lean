import SetupScript.Template.Value

/-!
# Arguments of calls

The values that a call is given, fitted to the parameters of what is called.  Some things that can be
called take their arguments in order only.
-/

namespace SetupScript.Template

/-- A parameter: its name, and the value it has when none is given. -/
abbrev Parameter := String × Option Value

/-- A parameter that must be given. -/
def required (name : String) : Parameter :=
  (name, none)

/-- A parameter that may be left out. -/
def optional (name : String) (value : Value) : Parameter :=
  (name, some value)

/-- The values of parameters, in their order.  Every value must have its parameter. -/
def fit : List Parameter → List Value → List (String × Value) → Result (List Value)
  | [], [], [] => .ok []
  | [], _, _ => .error .wrongType
  | (name, _) :: parameters, value :: positional, named =>
    if (named.lookup name).isSome then .error .wrongType
    else (fit parameters positional named).map (value :: ·)
  | (name, fallback) :: parameters, [], named =>
    match (named.lookup name).or fallback with
    | some value => (fit parameters [] (named.filter (·.1 != name))).map (value :: ·)
    | none => .error .wrongType

namespace Given

/-- The arguments of a call that gives them in order only. -/
def inOrder (given : Given) : Result (List Value) :=
  if given.named.isEmpty then .ok given.positional else .error .wrongType

/-- The values of the parameters of what is called. -/
def values (given : Given) (parameters : List Parameter) : Result (List Value) :=
  fit parameters given.positional given.named

/-- Nothing is given. -/
def nothing (given : Given) : Result Unit :=
  (given.values []).map fun _ => ()

/-- The value of the one parameter. -/
def one (given : Given) (parameter : Parameter) : Result Value := do
  match ← given.values [parameter] with
  | [value] => return value
  | _ => throw .wrongType

/-- The values of the two parameters. -/
def two (given : Given) (first second : Parameter) : Result (Value × Value) := do
  match ← given.values [first, second] with
  | [value, other] => return (value, other)
  | _ => throw .wrongType

/-- The values of the three parameters. -/
def three (given : Given) (first second third : Parameter) : Result (Value × Value × Value) := do
  match ← given.values [first, second, third] with
  | [value, other, last] => return (value, other, last)
  | _ => throw .wrongType

end Given

end SetupScript.Template
