import SetupScript.Template.Evaluate

/-!
# Output

What rendering puts out: texts, and perhaps something that is none, which fails where the output is put
together.
-/

namespace SetupScript.Template

/-- What is put out: a text, unless something that is no text is among it. -/
abbrev Output := Option String

namespace Output

/-- Nothing. -/
def empty : Output := some ""

/-- A value that is put out as it is. -/
def ofValue (value : Value) : Output :=
  value.form.text?

/-- One output behind another. -/
def followedBy (first second : Output) : Output :=
  match first, second with
  | some text, some more => some (text ++ more)
  | _, _ => none

/-- The text that an output is put together to. -/
def text (output : Output) : Result String :=
  match output with
  | some text => .ok text
  | none => .error .wrongType

end Output

/-- A scene: where steps are rendered, and how what they put out is escaped. -/
structure Scene where
  engine : Engine
  frame : Cell
  escaping : Escaping

namespace Scene

/-- A scene in another frame. -/
def inFrame (scene : Scene) (frame : Cell) : Scene :=
  { scene with frame := frame }

/-- Whether what is put out now is escaped. -/
def escapes (scene : Scene) : Work Bool := do
  match scene.escaping with
  | .never => return false
  | .always => return true
  | .asked => Work.isEscaping

/-- Where the expressions of a scene are evaluated. -/
def setting (scene : Scene) : Setting where
  engine := scene.engine
  frame? := some scene.frame
  joinsEscaped := scene.escaping = .always

/-- The value of an expression in a scene. -/
def value (scene : Scene) (expression : Expression) : Work Value :=
  evaluate scene.setting expression

/-- The value that filters make of a captured text. -/
def valueOfCaptured (scene : Scene) (captured : String) (expression : Expression) : Work Value := do
  let captured := Value.textMarked (← scene.escapes) captured
  evaluate { scene.setting with captured? := some captured } expression

/-- Put out the value of an expression. -/
def putOut (scene : Scene) (expression : Expression) : Work Output := do
  let value ← scene.value expression
  return some (← if ← scene.escapes then value.escaped else value.display)

/-- Whether a condition holds. -/
def holds (scene : Scene) (condition : Expression) : Work Bool := do
  (← scene.value condition).truth

/-- Bind a target to a value. -/
def bind (scene : Scene) (target : Target) (value : Value) : Work Unit :=
  discard (target.bind scene.engine scene.frame value)

end Scene

/-! ## Marks -/

/-- A text that is markup if the texts of values are escaped. -/
def markedText (text : String) : Work Value := do
  return .textMarked (← Work.isEscaping) text

/-- A value that is markup if the texts of values are escaped. -/
def markedValue (value : Value) : Work Value := do
  if ← Work.isEscaping then return .markup (← value.display) else return value

end SetupScript.Template
