import SetupScript.Template.Call
import SetupScript.Template.Scope

/-!
# Frames

The values of names while a template is rendered.  A frame finds the names that it does not have itself in
the frames around it; whatever no frame has comes from the context, which knows the values that the template
is given and those that it has bound in its outermost frame.
-/

namespace SetupScript.Template

/-! ## Contexts -/

namespace Context

/-- The value that a context has for a name. -/
def find? (context : Context) (name : String) : Option Value :=
  ((context.bound.lookup name).or (context.given.lookup name)).or (builtIns.lookup name)

/-- Bind a name. -/
def bind (context : Context) (name : String) (value : Value) : Context :=
  { context with bound := (name, value) :: context.bound.filter (·.1 != name) }

/-- A context with further values in front. -/
def extended (context : Context) (values : List (String × Value)) : Context where
  given := values ++ context.bound ++ context.given

end Context

/-- The context in a place. -/
def contextAt (cell : Cell) : Work Context := do
  match ← Work.object cell with
  | .context context => return context
  | _ => return { given := [] }

/-! ## Frames -/

namespace Frame

/-- The state of a frame. -/
def state (cell : Cell) : Work FrameState := do
  match ← Work.object cell with
  | .frame frame => return frame
  | _ => return { slots := [], stores := [], around? := none, context := cell, isOutermost := false }

/-- What a frame, or one of the frames around it, has under a name: nothing, or perhaps a value.  A frame
stands in a later place than the one around it, which bounds the search. -/
def find? (name : String) : Nat → Cell → Work (Option (Option Value))
  | 0, _ => return none
  | fuel + 1, cell => do
    let frame ← state cell
    match frame.slots.lookup name, frame.around? with
    | some slot, _ => return some slot
    | none, some around => find? name fuel around
    | none, none => return none

/-- The value that a frame has for a name, if it has one. -/
def value? (cell : Cell) (name : String) : Work (Option Value) := do
  return (← find? name (cell + 1) cell).join

/-- The value of a name. -/
def read (cell : Cell) (name : String) : Work Value := do
  return (← value? cell name).getD (.missing (Text.quotedString name ++ " is undefined"))

/-- Give a name of a frame a value, and with it the names of the same normal form. -/
def assign (cell : Cell) (name : String) (value : Value) : Work Unit := do
  let value ← Work.keep value
  let frame ← state cell
  let others := (frame.slots.filter (·.1 != name)).map fun slot =>
    if normalName slot.1 = normalName name then (slot.1, some value) else slot
  Work.put cell (.frame { frame with slots := (name, some value) :: others })
  if frame.isOutermost then
    let context ← contextAt frame.context
    Work.put frame.context (.context (context.bind name value))

/-- The slots of names with their first values, where of several names with one normal form the last one
counts.  Those that begin with a value from elsewhere come behind those that are given one, and those that
begin with none come last. -/
def slotsOf (firsts : List (String × Load × Option Value)) : List (String × Option Value) :=
  let ordered := firsts.filter (·.2.1 == .given) ++
    firsts.filter (fun first => first.2.1 != .given && first.2.1 != .missing) ++
    firsts.filter (·.2.1 == .missing)
  let values := ordered.reverse.map fun first => (normalName first.1, first.2.2)
  firsts.map fun first => (first.1, (values.lookup (normalName first.1)).getD first.2.2)

/-- A frame in its first state: some of its names are given values at once. -/
def firstState (around? : Option Cell) (context : Cell) (symbols : Symbols)
    (given : List (String × Value)) : Work FrameState := do
  let known ← contextAt context
  let given ← given.mapM fun entry => do return (entry.1, ← Work.keep entry.2)
  let firsts ← symbols.loads.mapM fun (name, load) => do
    let value? ←
      match load, around? with
      | .given, _ => pure (given.lookup name)
      | .around, some around => value? around name
      | .context, _ => pure (known.find? name)
      | _, _ => pure none
    return (name, load, value?)
  return {
    slots := slotsOf firsts
    stores := symbols.stores
    around? := around?
    context := context
    isOutermost := false }

/-- Open a frame that stands in no other one. -/
def openApart (context : Cell) (symbols : Symbols) (given : List (String × Value)) : Work Cell := do
  Work.add (.frame (← firstState none context symbols given))

/-- Open a frame inside another one. -/
def openInside (around : Cell) (symbols : Symbols) (given : List (String × Value)) : Work Cell := do
  Work.add (.frame (← firstState (some around) (← state around).context symbols given))

/-- Open a frame again in its place. -/
def reopen (cell : Cell) (symbols : Symbols) (given : List (String × Value)) : Work Unit := do
  let frame ← state cell
  Work.put cell (.frame (← firstState frame.around? frame.context symbols given))

/-- Leave a frame.  Snippets that stand in it find no values in it any more. -/
def leave (cell : Cell) (symbols : Symbols) : Work Unit := do
  let frame ← state cell
  let slots := symbols.loads.map fun entry =>
    (entry.1, if entry.2 = .given then some (Value.ofForm .gone) else none)
  Work.put cell (.frame { frame with slots := slots })

/-- The values of all names that are bound in a frame or in those around it. -/
def boundFrom (cell : Cell) : Nat → Cell → Work (List (String × Value))
  | 0, _ => return []
  | fuel + 1, place => do
    let frame ← state place
    let values ← frame.stores.filterMapM fun name => do
      return (← value? cell name).map fun value => (name, value)
    match frame.around? with
    | some around => return values ++ (← boundFrom cell fuel around)
    | none => return values

/-- A new context with the values of the names that are bound in a frame and around it. -/
def derivedContext (cell : Cell) : Work Cell := do
  let context ← contextAt (← state cell).context
  Work.add (.context (context.extended (← boundFrom cell (cell + 1) cell)))

end Frame

/-! ## Targets -/

/-- Set a field of a record, or an entry of a mapping. -/
def setField (frame : Cell) (record name : String) (value : Value) : Work Unit := do
  match ← Frame.value? frame record with
  | some target =>
    match target.form with
    | .record cell | .mapping cell => Work.putEntry cell (.text name) value
    | _ => throw .wrongType
  | none => throw .wrongType

/-- The first items of a stream, up to a number of them. -/
def firstItems (engine : Engine) (source : Cell) : Nat → Work (List Value)
  | 0 => return []
  | count + 1 => do
    match ← engine.advance source with
    | some item => return item :: (← firstItems engine source count)
    | none => return []

mutual

/-- Bind a target in a frame to a value; several targets take the value apart.  The answer is the value
that the target has then. -/
def Target.bind (engine : Engine) (frame : Cell) : Target → Value → Work Value
  | .name name, value => do
    let value ← Work.keep value
    Frame.assign frame name value
    return value
  | .field record name, value => do
    setField frame record name value
    return value
  | .tuple targets, value => do
    let items ← firstItems engine (← value.stream) (targets.length + 1)
    if items.length = targets.length then return .tuple (← bindAll engine frame targets items)
    else throw .wrongValue

/-- Bind several targets to as many values. -/
def bindAll (engine : Engine) (frame : Cell) : List Target → List Value → Work (List Value)
  | target :: targets, value :: values => do
    let bound ← target.bind engine frame value
    return bound :: (← bindAll engine frame targets values)
  | _, _ => return []

end

/-- Fail unless all records whose fields a target sets are ones. -/
def checkRecords (frame : Cell) (target : Target) : Work Unit :=
  target.records.forM fun record => do
    match ← Frame.value? frame record with
    | some value =>
      match value.form with
      | .record _ => pure ()
      | _ => throw .unusable
    | none => throw .unusable

end SetupScript.Template
