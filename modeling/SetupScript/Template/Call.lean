import SetupScript.Template.Method.Bytes
import SetupScript.Template.Method.Number
import SetupScript.Template.Method.Special

/-!
# Calls

What values answer when they are called: methods, the functions that every template may use, and helpers
that remember where they are.  Whatever renders a part of the template is not called here.
-/

namespace SetupScript.Template

/-! ## Functions -/

/-- The names that every template may use, with what they stand for. -/
def builtIns : List (String × Value) :=
  [("range", Form.kind "range"), ("dict", Form.kind "dict"), ("lipsum", Form.function "jinja2.utils.generate_lorem_ipsum"),
    ("cycler", Form.kind "jinja2.utils.Cycler"), ("joiner", Form.kind "jinja2.utils.Joiner"),
    ("namespace", Form.kind "jinja2.utils.Namespace")]

/-- The range with bounds and a step. -/
def rangeOf (start stop step : Value) : Result Value := do
  let start ← start.form.whole
  let stop ← stop.form.whole
  let step ← step.form.whole
  if step = 0 then throw .wrongValue else return Form.range start stop step

/-- The range that arguments describe. -/
def makeRange (given : Given) : Result Value := do
  match ← given.inOrder with
  | [stop] => rangeOf (.integer 0) stop (.integer 1)
  | [start, stop] => rangeOf start stop (.integer 1)
  | [start, stop, step] => rangeOf start stop step
  | _ => throw .wrongType

/-- The text of a value, or of bytes in an encoding. -/
def makeText (value : Value) (rest : List Value) : Work Value := do
  match value.form, rest with
  | _, [] => return .text (← value.display)
  | .bytes bytes, _ => Encoding.decode bytes ⟨rest, []⟩
  | _, _ => throw .wrongType

/-- The bytes that a value gives: zeros, its own, those of its items, or those of a text in an encoding. -/
def makeBytes (engine : Engine) (value : Value) (rest : List Value) : Work Value := do
  match value.form, value.form.text?, value.form.whole?, rest with
  | _, some content, _, _ :: _ => Encoding.encode content.toList ⟨rest, []⟩
  | form, none, some _, [] =>
    let count ← form.count
    if count < 0 then throw .wrongValue
    else
      checkRoom count.toNat
      return Form.bytes (List.replicate count.toNat 0)
  | _, none, none, [] => return Form.bytes (← NumberMethod.bytesOf engine value)
  | _, _, _, _ => throw .wrongType

/-- The complex number with two parts that are real. -/
def makeComplex (real imaginary : Value) : Result Value := do
  return Form.complex (← real.numberToDecimal) (← imaginary.numberToDecimal)

/-- What a type makes of nothing. -/
def emptyOf? (kind : String) : Option (Work Value) :=
  match kind with
  | "str" => some (return .text "")
  | "int" => some (return .integer 0)
  | "float" => some (return .decimal 0)
  | "bool" => some (return .boolean false)
  | "complex" => some (return Form.complex 0 0)
  | "bytes" => some (return Form.bytes [])
  | "tuple" => some (return .tuple [])
  | "list" => some (Work.newList [])
  | "set" => some (Work.newSet [])
  | "NoneType" => some (return .none)
  | "NotImplementedType" => some (return Form.unanswered)
  | _ => none

/-- What a type makes of a value and perhaps others. -/
def convertTo (engine : Engine) (kind : String) (value : Value) (rest : List Value) : Work Value := do
  match kind, rest with
  | "str", _ => makeText value rest
  | "bytes", _ => makeBytes engine value rest
  | "int", [] => return .integer (← value.toInteger)
  | "int", [base] => return .integer (← Value.integerInBase base (← value.content))
  | "float", [] => return .decimal (← value.toDecimal)
  | "bool", [] => return .boolean (← value.truth)
  | "complex", [] =>
    match value.form with
    | .complex .. => return value
    | _ => makeComplex value (.integer 0)
  | "complex", [imaginary] => makeComplex value imaginary
  | "list", [] => Work.newList (← value.items engine)
  | "tuple", [] => Work.newTuple (← value.items engine)
  | "set", [] => Work.newSet (← value.items engine)
  | "markupsafe.Markup", [] => return .markup (← value.display)
  | "type", [] => return Form.kind value.form.typeName
  | _, _ => throw .wrongType

/-- What a type answers when it is called. -/
def callKind (engine : Engine) (kind : String) (given : Given) : Work Value := do
  match kind, given.positional, given.named with
  | "range", _, _ => makeRange given
  | "dict", _, _ => Mapping.make engine given
  | "jinja2.utils.Cycler", items, [] =>
    if items.isEmpty then throw .wrongState
    else return Form.cycler (← Work.add (.cycler (← Work.keepAll items) 0))
  | "jinja2.utils.Joiner", _, _ =>
    let separator ← given.one (optional "sep" (.text ", "))
    return Form.joiner (← Work.add (.joiner (← Work.keep separator) false))
  | "jinja2.utils.Namespace", _, _ =>
    let cell ← Work.add (.record #[])
    Mapping.update engine cell given
    return Form.record cell
  | _, [], [] => (emptyOf? kind).getD (throw .wrongType)
  | _, value :: rest, [] => convertTo engine kind value rest
  | _, _, _ => throw .wrongType

/-! ## Methods -/

/-- What a method of a cycler answers. -/
def callCycler (cell : Cell) (name : String) (given : Given) : Work Value := do
  given.nothing
  match ← Work.object cell with
  | .cycler items place =>
    if name = "reset" then
      Work.put cell (.cycler items 0)
      return .none
    else
      Work.put cell (.cycler items ((place + 1) % items.length))
      return items[place]?.getD .none
  | _ => throw .wrongType

/-- What a method answers that a stream has and its items have not: it is over once it is closed. -/
def callStream (engine : Engine) (cell : Cell) (name : String) (given : Given) : Work Value := do
  match name, ← given.inOrder with
  | "close", [] =>
    Work.putIteration cell .finished
    return .none
  | "send", [_] => return (← engine.advance cell).getD SpecialMethod.exhausted
  | _, _ => throw .wrongType

/-- What a method answers that is no special one. -/
def callPlainMethod (engine : Engine) (receiver : Value) (name : String) (given : Given) :
    Work Value := do
  match receiver.form with
  | .text content => TextMethod.call engine false content name given
  | .markup content => TextMethod.call engine true content name given
  | .bytes bytes => BytesMethod.call engine bytes name given
  | .list cell => ListMethod.call engine cell name given
  | .mapping cell => Mapping.call engine cell name given
  | .set cell => SetMethod.call engine cell name given
  | .stream _ cell => callStream engine cell name given
  | .range .. => Sequence.callRange engine receiver name given
  | .view .. => Mapping.isDisjoint engine receiver given
  | .cycler cell => callCycler cell name given
  | .loop cell =>
    let items ← given.inOrder
    if name = "changed" then Loop.changed cell items
    else if items.isEmpty then throw .wrongType
    else Loop.cycle cell items
  | form =>
    match form.tuple?, form.number? with
    | some items, _ => Sequence.call items name given
    | none, some number => NumberMethod.call engine number name given
    | none, none => throw .wrongType

/-- What a method of a value answers. -/
def callMethod (engine : Engine) (receiver : Value) (name : String) (given : Given) : Work Value :=
  if isSpecial name then SpecialMethod.call engine receiver name given
  else callPlainMethod engine receiver name given

/-- What a type answers that is asked for a method: most methods take the value that they are methods of
as their first argument. -/
def callOfKind (engine : Engine) (type name : String) (given : Given) : Work Value := do
  match type, name, given.positional with
  | _, "__call__", _ => callKind engine type given
  | _, "mro", _ =>
    given.nothing
    Work.newList ((typeChain type).map fun type => Form.kind type)
  | "str", "maketrans", _ | "markupsafe.Markup", "maketrans", _ => TextMethod.makeTable given
  | "markupsafe.Markup", "escape", _ => TextMethod.call engine true "" name given
  | "bytes", "maketrans", _ | "bytes", "fromhex", _ => BytesMethod.call engine [] name given
  | "dict", "fromkeys", _ => Mapping.fromKeys engine given
  | "int", "from_bytes", _ | "bool", "from_bytes", _ => NumberMethod.fromBytes engine given
  | _, _, receiver :: rest =>
    if (typeChain receiver.form.typeName).contains type then
      callMethod engine receiver name { given with positional := rest }
    else throw .wrongType
  | _, _, [] => throw .wrongType

/-! ## Values -/

/-- What a joiner answers: nothing at first, and its separator later. -/
def callJoiner (cell : Cell) (given : Given) : Work Value := do
  given.nothing
  match ← Work.object cell with
  | .joiner separator used =>
    Work.put cell (.joiner separator true)
    return if used then separator else .text ""
  | _ => throw .wrongType

/-- What a value answers that renders no part of the template. -/
def callPlain (engine : Engine) (function : Value) (given : Given) : Work Value := do
  match function.form with
  | .method receiver name =>
    match receiver.form with
    | .kind type => callOfKind engine type name given
    | _ => callMethod engine receiver name given
  | .kind kind => callKind engine kind given
  | .function _ => return .markup ""
  | .joiner cell => callJoiner cell given
  | .undefined missing => Value.failMissing missing
  | _ => throw .wrongType

end SetupScript.Template
