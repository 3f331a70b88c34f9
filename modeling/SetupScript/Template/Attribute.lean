import SetupScript.Template.Loop
import SetupScript.Template.Method.Names

/-!
# Attributes, items and slices

What the dot and the square brackets of an expression find.  The dot looks for an attribute before
an item, the brackets look for an item before an attribute; what neither finds is missing, and the
value says so when it is used.
-/

namespace SetupScript.Template

/-! ## Attributes -/

/-- What a snippet tells about itself under a name. -/
def Snippet.attribute? (snippet : Snippet) (name : String) : Option Value :=
  match name with
  | "name" => some ((snippet.name?.map Value.text).getD .none)
  | "arguments" => some (.tuple (snippet.outline.signature.parameters.map Value.text))
  | "catch_kwargs" => some (.boolean snippet.outline.takesNamed)
  | "catch_varargs" => some (.boolean snippet.outline.takesMore)
  | "caller" => some (.boolean snippet.outline.takesCaller)
  | _ => none

/-- What a number tells about itself under a name. -/
def Number.attribute? (number : Number) (name : String) : Option Value :=
  match number, name with
  | .whole value, "real" | .whole value, "numerator" => some (.integer value)
  | .whole _, "imag" => some (.integer 0)
  | .whole _, "denominator" => some (.integer 1)
  | .fractional value, "real" => some (.decimal value)
  | .fractional _, "imag" => some (.decimal 0)
  | .complex real _, "real" => some (.decimal real)
  | .complex _ imaginary, "imag" => some (.decimal imaginary)
  | _, _ => none

/-- What a type tells about itself under a name. -/
def typeAttribute? (type name : String) : Option Value :=
  let kinds (types : List String) : Value := .tuple (types.map fun type => .ofForm (.kind type))
  match name with
  | "__name__" | "__qualname__" => some (.text (splitName type).2)
  | "__module__" => some (.text (splitName type).1)
  | "__mro__" => some (kinds (typeChain type))
  | "__bases__" => some (kinds ((typeChain type).tail.take 1))
  | "__base__" => some (((typeChain type)[1]?.map fun base => Value.ofForm (.kind base)).getD .none)
  | _ => none

/-- What a method tells about itself under a name. -/
def methodAttribute? (receiver : Value) (method name : String) : Option Value :=
  match name with
  | "__name__" => some (.text method)
  | "__qualname__" => some (.text ((splitName receiver.form.typeName).2 ++ "." ++ method))
  | "__self__" => some receiver
  | _ => none

namespace Value

/-- An attribute of a value that is no method of it. -/
def property? (engine : Engine) (value : Value) (name : String) : Work (Option Value) := do
  match value.form, name with
  | .range start _ _, "start" => return some (.integer start)
  | .range _ stop _, "stop" => return some (.integer stop)
  | .range _ _ step, "step" => return some (.integer step)
  | .group key _, "grouper" => return some key
  | .group _ items, "list" => return some items
  | .loop cell, _ => Loop.attribute? engine cell name
  | .snippet cell, _ =>
    match ← Work.object cell with
    | .snippet snippet => return snippet.attribute? name
    | _ => return Option.none
  | .record cell, _ => Work.lookUp? cell (text name)
  | .cycler cell, _ =>
    match ← Work.object cell, name with
    | .cycler items _, "items" => return some (.tuple items)
    | .cycler _ place, "pos" => return some (.integer place)
    | .cycler items place, "current" => return items[place]?
    | _, _ => return Option.none
  | .joiner cell, _ =>
    match ← Work.object cell, name with
    | .joiner separator _, "sep" => return some separator
    | .joiner _ used, "used" => return some (.boolean used)
    | _, _ => return Option.none
  | .view _ cell, "mapping" => return some (Form.mapping cell)
  | .block block _, "name" => return some (.text block)
  | .kind type, _ => return typeAttribute? type name
  | .method receiver method, _ => return methodAttribute? receiver method name
  | .function function, "__name__" | .function function, "__qualname__" =>
    return some (.text (splitName function).2)
  | .function function, "__module__" => return some (.text (splitName function).1)
  | form, _ => return form.number?.bind fun number => number.attribute? name

/-- An attribute of a value. -/
def attribute? (engine : Engine) (value : Value) (name : String) : Work (Option Value) := do
  match value.form with
  | .undefined missing =>
    if isSpecial name then
      return if name = "__class__" then some (Form.kind value.form.typeName) else Option.none
    else failMissing missing
  | form =>
    if name = "__class__" then return some (Form.kind form.typeName)
    else if name = "__hash__" && form.isUnhashable then return some .none
    else if form.hasMethod name then return some (Form.method value name)
    else value.property? engine name

/-! ## Items -/

/-- The item at a place, which counts from the end if it is negative. -/
def itemAt? {Item : Type} (items : Array Item) (place : Int) : Option Item :=
  let place := if place < 0 then place + items.size else place
  if place < 0 then Option.none else items[place.toNat]?

/-- The number at a place of a range. -/
def numberAt? (start stop step place : Int) : Option Value :=
  let length := rangeLength start stop step
  let place := if place < 0 then place + length else place
  if 0 ≤ place ∧ place < length then some (.integer (start + place * step)) else Option.none

/-- The item of a value under an index, if there is one. -/
def item? (value index : Value) : Work (Option Value) := do
  let placed (items : Array Value) : Option Value := index.form.whole?.bind (itemAt? items)
  match value.form with
  | .undefined missing => failMissing missing
  | .list cell => return placed (← Work.items cell)
  | .range start stop step => return index.form.whole?.bind (numberAt? start stop step)
  | .bytes bytes =>
    return (index.form.whole?.bind (itemAt? bytes.toArray)).map fun byte => .integer byte.toNat
  | .mapping cell =>
    try Work.lookUp? cell index
    catch
      | .wrongType => return Option.none
      | failure => throw failure
  | .blocks context =>
    let blocks := (← Procedure.look).blocks
    match index.form.text? with
    | some name =>
      return if (blocks.lookup name).isSome then some (Form.block name context) else Option.none
    | Option.none => return Option.none
  | form =>
    match form.tuple?, form.text? with
    | some items, _ => return placed items.toArray
    | Option.none, some content =>
      return (index.form.whole?.bind (itemAt? content.toList.toArray)).map fun character =>
        textMarked form.isMarkup character.toString
    | Option.none, Option.none => return Option.none

/-- The item of a value under an index that must lead to one. -/
def mustItem (value index : Value) : Work Value := do
  match value.form with
  | .mapping cell =>
    match ← Work.lookUp? cell index with
    | some item => return item
    | Option.none => throw .missingKey
  | form =>
    match ← value.item? index, form with
    | some item, _ => return item
    | Option.none, .blocks _ => throw .missingKey
    | Option.none, _ =>
      let hasPlaces := form.tuple?.isSome || form.text?.isSome ||
        match form with
        | .list _ | .range .. | .bytes _ => true
        | _ => false
      throw (if hasPlaces && index.form.whole?.isSome then .missingItem else .wrongType)

/-- What the square brackets find. -/
def getItem (engine : Engine) (value index : Value) : Work Value := do
  match ← value.item? index with
  | some item => return item
  | Option.none =>
    let found? ←
      match index.form.text? with
      | some name => value.attribute? engine name
      | Option.none => pure Option.none
    match found? with
    | some found => return found
    | Option.none => value.missingItem index

/-- What the dot finds. -/
def getAttribute (engine : Engine) (value : Value) (name : String) : Work Value := do
  match ← value.attribute? engine name with
  | some found => return found
  | Option.none => return (← value.item? (text name)).getD (value.missingAttribute name)

/-! ## Slices -/

/-- A bound of a slice: an integer or nothing. -/
def bound? (value : Value) : Result (Option Int) :=
  match value.form with
  | .none => .ok Option.none
  | form => form.whole.map some

/-- A bound brought into the range of places, which for a step back begins one place earlier. -/
def clampBound (length : Int) (back : Bool) (place : Int) : Int :=
  let least : Int := if back then -1 else 0
  let greatest : Int := if back then length - 1 else length
  if place < 0 then max least (place + length) else min greatest place

/-- The places of a slice: where it starts, where it stops and the step. -/
structure Places where
  start : Int
  stop : Int
  step : Int

/-- The places of a slice of a sequence. -/
def slicePlaces (length : Nat) (start stop step : Value) : Result Places := do
  let step := (← step.bound?).getD 1
  if step = 0 then throw .wrongValue
  else
    let back : Bool := step < 0
    let start := ((← start.bound?).map (clampBound length back)).getD
      (if back then length - 1 else 0)
    let stop := ((← stop.bound?).map (clampBound length back)).getD (if back then -1 else length)
    return { start := start, stop := stop, step := step }

/-- The items at the places of a slice. -/
def itemsAt {Item : Type} (items : Array Item) (places : Places) : List Item :=
  (List.range (rangeLength places.start places.stop places.step)).filterMap fun (index : Nat) =>
    items[(places.start + (index : Int) * places.step).toNat]?

/-- A slice of a value. -/
def slice (value start stop step : Value) : Work Value := do
  let cut {Item : Type} (items : Array Item) : Result (List Item) := do
    return itemsAt items (← slicePlaces items.size start stop step)
  match value.form with
  | .undefined missing => failMissing missing
  | .list cell => Work.newList (← cut (← Work.items cell))
  | .bytes bytes => return Form.bytes (← cut bytes.toArray)
  | .range first last stride =>
    let places ← slicePlaces (rangeLength first last stride) start stop step
    return Form.range (first + places.start * stride) (first + places.stop * stride)
      (stride * places.step)
  | form =>
    match form.tuple?, form.text? with
    | some items, _ => return .tuple (← cut items.toArray)
    | Option.none, some content =>
      return textMarked form.isMarkup (String.ofList (← cut content.toList.toArray))
    | Option.none, Option.none => throw .wrongType

/-- A slice of a value, or a missing item where there can be none. -/
def sliceOrMissing (value start stop step : Value) : Work Value :=
  try value.slice start stop step
  catch
    | .wrongType => return missing (value.form.described ++ " has no element")
    | failure => throw failure

end Value

end SetupScript.Template
