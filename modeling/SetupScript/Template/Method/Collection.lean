import SetupScript.Template.Given
import SetupScript.Template.Iteration
import SetupScript.Template.Sorting

/-!
# Methods of collections

What the methods of lists, tuples, ranges and mappings answer.  Those that change a list or a mapping
change it in its place and answer nothing.
-/

namespace SetupScript.Template

/-! ## Sequences -/

namespace Sequence

/-- The place of an item among values, from a place on. -/
def placeOf (item : Value) (place : Nat) : List Value → Work Value
  | [] => throw .wrongValue
  | other :: others => do
    if ← other.agrees item then return .integer place else placeOf item (place + 1) others

/-- How many values agree with an item. -/
def countOf (item : Value) : List Value → Work Nat
  | [] => return 0
  | other :: others => do
    let same ← other.agrees item
    return (← countOf item others) + if same then 1 else 0

/-- A bound of a search, brought into the range of places. -/
def boundOf (length : Nat) (value : Value) : Result Nat := do
  let place ← value.form.whole
  return if place < 0 then (place + length).toNat else place.toNat

/-- The place of an item in a part of a sequence. -/
def index (items : List Value) (given : Given) : Work Value := do
  match ← given.inOrder with
  | item :: bounds =>
    let (start, stop) ←
      match bounds with
      | [] => pure (0, items.length)
      | [start] => pure (← boundOf items.length start, items.length)
      | [start, stop] => pure (← boundOf items.length start, ← boundOf items.length stop)
      | _ => throw .wrongType
    placeOf item start ((items.take stop).drop start)
  | [] => throw .wrongType

/-- How often an item comes up in a sequence. -/
def count (items : List Value) (given : Given) : Work Value := do
  match ← given.inOrder with
  | [item] => return .integer (← countOf item items)
  | _ => throw .wrongType

/-- What a method of a tuple answers. -/
def call (items : List Value) (name : String) (given : Given) : Work Value :=
  if name = "index" then index items given else count items given

/-- What a method of a range answers. -/
def callRange (engine : Engine) (range : Value) (name : String) (given : Given) : Work Value := do
  match range.form, ← given.inOrder with
  | .range start stop step, [item] =>
    match item.form.whole? with
    | some number =>
      let isInside := isInRange start stop step number
      if name = "count" then return .integer (if isInside then 1 else 0)
      else if isInside then return .integer ((number - start) / step)
      else throw .wrongValue
    | none =>
      let numbers ← range.items engine
      if name = "count" then return .integer (← countOf item numbers) else placeOf item 0 numbers
  | _, _ => throw .wrongType

end Sequence

/-! ## Lists -/

namespace ListMethod

/-- Add the items of a value to a list. -/
def extend (engine : Engine) (cell : Cell) (value : Value) : Work Unit := do
  let items ← Work.keepAll (← value.items engine)
  Work.changeItems cell fun old => old ++ items.toArray

/-- Take the item at a place out of a list. -/
def pop (cell : Cell) (place : Int) : Work Value := do
  let items ← Work.items cell
  let place := if place < 0 then place + items.size else place
  match if place < 0 then none else items[place.toNat]? with
  | some item =>
    Work.changeItems cell fun items => items.eraseIdxIfInBounds place.toNat
    return item
  | none => throw .missingItem

/-- Put an item into a list in front of a place. -/
def insert (cell : Cell) (place : Int) (item : Value) : Work Unit := do
  let item ← Work.keep item
  Work.changeItems cell fun items =>
    let place := if place < 0 then (place + items.size).toNat else place.toNat
    items.insertIdxIfInBounds (min place items.size) item

/-- Take the first item out of a list that agrees with a value. -/
def remove (cell : Cell) (value : Value) : Work Unit := do
  match (← Sequence.placeOf value 0 (← Work.items cell).toList).form.whole? with
  | some place => Work.changeItems cell fun items => items.eraseIdxIfInBounds place.toNat
  | none => throw .wrongValue

/-- Sort a list by the keys that a function gives. -/
def sort (engine : Engine) (cell : Cell) (given : Given) : Work Unit := do
  if given.positional.isEmpty then
    let (key, backwards) ← given.two (optional "key" .none) (optional "reverse" (.boolean false))
    let backwards ← backwards.form.whole
    let entries ← (← Work.items cell).toList.mapM fun item => do
      match key.form with
      | .none => return (item, item)
      | _ => return (← engine.call key { positional := [item] }, item)
    let sorted ← sortByKey (backwards != 0) entries
    Work.changeItems cell fun _ => sorted.toArray
  else throw .wrongType

/-- What a method of a list answers. -/
def call (engine : Engine) (cell : Cell) (name : String) (given : Given) : Work Value := do
  let items ← Work.items cell
  match name, ← (if name = "sort" then pure [] else liftM given.inOrder) with
  | "append", [item] =>
    let item ← Work.keep item
    Work.changeItems cell fun items => items.push item
    return .none
  | "clear", [] =>
    Work.changeItems cell fun _ => #[]
    return .none
  | "copy", [] => Work.newList items.toList
  | "count", _ => Sequence.count items.toList given
  | "extend", [value] =>
    extend engine cell value
    return .none
  | "index", _ => Sequence.index items.toList given
  | "insert", [place, item] =>
    insert cell (← place.form.count) item
    return .none
  | "pop", [] => pop cell (-1)
  | "pop", [place] => do pop cell (← place.form.count)
  | "remove", [value] =>
    remove cell value
    return .none
  | "reverse", [] =>
    Work.changeItems cell Array.reverse
    return .none
  | "sort", _ =>
    sort engine cell given
    return .none
  | _, _ => throw .wrongType

end ListMethod

/-! ## Mappings -/

namespace Mapping

/-- The pairs that the items of a value are. -/
def pairsOf (engine : Engine) (value : Value) : Work (List (Value × Value)) := do
  (← value.items engine).mapM fun item => do
    match ← item.items engine with
    | [key, value] => return (key, value)
    | _ => throw .wrongValue

/-- Put the entries of another mapping, or pairs, among those of a mapping, and then some with names. -/
def update (engine : Engine) (cell : Cell) (given : Given) : Work Unit := do
  match given.positional with
  | [] => pure ()
  | [value] =>
    match value.form with
    | .mapping other => Work.putEntries cell (← Work.entries other).toList
    | .undefined missing => liftM (Value.failMissing missing : Result Unit)
    | _ => Work.putEntries cell (← pairsOf engine value)
  | _ => throw .wrongType
  Work.putEntries cell (given.named.map fun entry => (.text entry.1, entry.2))

/-- A new mapping of entries and names. -/
def make (engine : Engine) (given : Given) : Work Value := do
  let cell ← Work.add (.mapping #[])
  update engine cell given
  return Form.mapping cell

/-- A new mapping of keys with one value. -/
def fromKeys (engine : Engine) (given : Given) : Work Value := do
  let (keys, value) ←
    match ← given.inOrder with
    | [keys] => pure (keys, Value.none)
    | [keys, value] => pure (keys, value)
    | _ => throw .wrongType
  Work.newMappingOf ((← keys.items engine).map fun key => (key, value))

/-- Take the entry with a key out of a mapping. -/
def pop (cell : Cell) (key : Value) (fallback? : Option Value) : Work Value := do
  let entries ← Work.entries cell
  let place? ← if entries.isEmpty then pure Option.none else key.placeAmong? entries
  match place?, fallback? with
  | some place, _ =>
    Work.removeEntry cell place
    return (entries[place]?.map Prod.snd).getD .none
  | none, some fallback => return fallback
  | none, none => throw .missingKey

/-- Take the last entry out of a mapping. -/
def popItem (cell : Cell) : Work Value := do
  let entries ← Work.entries cell
  match entries.back? with
  | some (key, value) =>
    Work.removeEntry cell (entries.size - 1)
    return .tuple [key, value]
  | none => throw .missingKey

/-- The value of a key, which is given one if it has none. -/
def setDefault (cell : Cell) (key fallback : Value) : Work Value := do
  match ← Work.lookUp? cell key with
  | some value => return value
  | none =>
    let fallback ← Work.keep fallback
    Work.putEntry cell key fallback
    return fallback

/-- What a method of a mapping answers. -/
def call (engine : Engine) (cell : Cell) (name : String) (given : Given) : Work Value := do
  match name, ← (if name = "update" then pure [] else liftM given.inOrder) with
  | "clear", [] =>
    Work.changeEntries cell fun _ => #[]
    return .none
  | "copy", [] => Work.newMapping (← Work.entries cell).toList
  | "fromkeys", _ => fromKeys engine given
  | "get", [key] => return (← Work.lookUp? cell key).getD .none
  | "get", [key, fallback] => return (← Work.lookUp? cell key).getD fallback
  | "items", [] => return Form.view .items cell
  | "keys", [] => return Form.view .keys cell
  | "values", [] => return Form.view .values cell
  | "pop", [key] => pop cell key none
  | "pop", [key, fallback] => pop cell key (some fallback)
  | "popitem", [] => popItem cell
  | "setdefault", [key] => setDefault cell key .none
  | "setdefault", [key, fallback] => setDefault cell key fallback
  | "update", _ =>
    update engine cell given
    return .none
  | _, _ => throw .wrongType

/-- Whether a view and another value have no part in common. -/
def isDisjoint (engine : Engine) (view : Value) (given : Given) : Work Value := do
  match ← given.inOrder with
  | [other] =>
    let count := (← Value.length engine view)
    let (container, items) ←
      match ← other.members? with
      | some members =>
        if count < members.length then pure (other, ← view.items engine) else pure (view, members)
      | none => pure (view, ← other.items engine)
    let shared ← items.filterM fun item => container.contains engine item
    return .boolean shared.isEmpty
  | _ => throw .wrongType

end Mapping

end SetupScript.Template
