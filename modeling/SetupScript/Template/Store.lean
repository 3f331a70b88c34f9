import SetupScript.Procedure
import SetupScript.Template.Step
import SetupScript.Template.Value

/-!
# Stores of templates

What can change while a template is rendered, or is used up: lists and mappings, streams of items, loops,
snippets with the frame that they stand in, and the frames themselves, which hold the values of names.
-/

namespace SetupScript.Template

/-! ## Streams -/

/-- How a stream makes its items out of those of a value, before it has begun. -/
inductive Generator
  | map (given : Given)
  | select (wanted byAttribute : Bool) (given : Given)
  | batch (size filler : Value)
  | slice (count filler : Value)
  | unique (caseMatters path : Value)
  | pairs
  | choose (target : Target) (condition : Expression) (symbols : Symbols) (frame : Cell)

/-- What is made of an item: an attribute, or what a filter makes of it. -/
inductive Change
  | attribute (path fallback : Value)
  | filter (name : Value) (given : Given)

/-- What decides on an item: an attribute of it, perhaps with a test. -/
structure Sieve where
  wanted : Bool
  path? : Option Value
  test? : Option (Value × Given)

/-- How far a stream has come. -/
inductive Iteration
  | finished
  | listItems (list : Cell) (place : Nat)
  | listBack (list : Cell) (left : Nat)
  | parts (kind : ViewKind) (mapping : Cell) (place size : Nat)
  | partsBack (kind : ViewKind) (mapping : Cell) (left size : Nat)
  | members (set : Cell) (left : List Value) (size : Nat)
  | numbers (next step : Int) (left : Nat)
  | values (items : List Value)
  | letters (characters : List Char)
  | loopItems (loop : Cell)
  | waiting (generator : Generator) (subject : Value)
  | changing (source : Cell) (change : Change)
  | sifting (source : Cell) (sieve : Sieve)
  | batches (source : Cell) (current : List Value) (size filler : Value)
  | slices (rest : List (List Value))
  | firsts (source : Cell) (seen : List Value) (caseMatters : Bool) (path : Value)
  | chosen (source : Cell) (target : Target) (condition : Expression) (frame : Cell)

/-! ## Objects -/

/-- How a recursive loop is run again for other items. -/
structure Recursion where
  outline : LoopOutline
  body : List Step
  otherwise : List Step
  frame : Cell
  escaping : Escaping

/-- A loop under way: where its items come from, what is known of their number, the items beside the
current one, and how deep it stands in itself. -/
structure LoopState where
  iterable : Value
  source : Cell
  length? : Option Nat := none
  ahead? : Option Value := none
  current? : Option Value := none
  before? : Option Value := none
  changed? : Option (List Value) := none
  /-- How many items have been taken. -/
  taken : Nat := 0
  depth : Nat := 0
  recursion? : Option Recursion := none

/-- A snippet with the frame that it stands in. -/
structure Snippet where
  name? : Option String
  outline : SnippetOutline
  body : List Step
  frame : Cell

/-- A frame: the values of its names, those of them that are bound in it, the frame around it, and the
context of the template.  Names that are bound in an outermost frame are seen in the blocks of the
template. -/
structure FrameState where
  slots : List (String × Option Value)
  stores : List String
  around? : Option Cell
  context : Cell
  isOutermost : Bool

/-- The values that a template is given, and those that it has bound itself. -/
structure Context where
  given : List (String × Value)
  bound : List (String × Value) := []

/-- What a place of the store holds. -/
inductive Object
  | list (items : Array Value)
  | mapping (entries : Array (Value × Value))
  | stream (iteration : Iteration)
  | loop (state : LoopState)
  | snippet (snippet : Snippet)
  | record (fields : Array (Value × Value))
  | cycler (items : List Value) (place : Nat)
  | joiner (separator : Value) (used : Bool)
  | frame (frame : FrameState)
  | context (context : Context)

instance : Inhabited Object := ⟨.list #[]⟩

/-- A store: its objects, how many values have been kept, whether the texts of values are escaped, and the
blocks of the template. -/
structure Store where
  objects : Array Object := #[]
  kept : Nat := 0
  escaping : Bool := false
  blocks : List (String × BlockOutline) := []

/-- A computation on a store that may fail. -/
abbrev Work := Procedure Store Failure

namespace Work

/-! ## Places -/

/-- Put an object into a new place. -/
def add (object : Object) : Work Cell :=
  ⟨fun store =>
    (.ok store.objects.size, { store with objects := store.objects.push object })⟩

/-- The object in a place. -/
def object (cell : Cell) : Work Object :=
  ⟨fun store => (.ok (store.objects.getD cell default), store)⟩

/-- Put another object into a place. -/
def put (cell : Cell) (object : Object) : Work Unit :=
  Procedure.change fun store => { store with objects := store.objects.setIfInBounds cell object }

/-- The items of a list. -/
def items (cell : Cell) : Work (Array Value) := do
  match ← object cell with
  | .list items => return items
  | _ => return #[]

/-- The entries of a mapping or a record, or the members of a set as keys. -/
def entries (cell : Cell) : Work (Array (Value × Value)) := do
  match ← object cell with
  | .mapping entries | .record entries => return entries
  | _ => return #[]

/-- How far a stream has come. -/
def iteration (cell : Cell) : Work Iteration := do
  match ← object cell with
  | .stream iteration => return iteration
  | _ => return .finished

/-- Change the items of a list in their place. -/
def changeItems (cell : Cell) (update : Array Value → Array Value) : Work Unit :=
  Procedure.change fun store =>
    { store with
      objects := store.objects.modify cell fun
        | .list items => .list (update items)
        | object => object }

/-- Whether the texts of values are escaped. -/
def isEscaping : Work Bool :=
  ⟨fun store => (.ok store.escaping, store)⟩

/-! ## Keeping values -/

/-- A value that is told from others from now on. -/
def keep (value : Value) : Work Value :=
  match value.origin with
  | .fresh =>
    ⟨fun store => (.ok (.mk value.form (.kept store.kept)), { store with kept := store.kept + 1 })⟩
  | _ => pure value

/-- Several values that are told from others from now on. -/
def keepAll (values : List Value) : Work (List Value) :=
  values.mapM keep

/-- A new list. -/
def newList (values : List Value) : Work Value := do
  return .ofForm (.list (← add (.list (← keepAll values).toArray)))

/-- A new tuple. -/
def newTuple (values : List Value) : Work Value := do
  return .tuple (← keepAll values)

/-- A new mapping with entries whose keys differ. -/
def newMapping (entries : List (Value × Value)) : Work Value := do
  let kept ← entries.mapM fun entry => do return (← keep entry.1, ← keep entry.2)
  return .ofForm (.mapping (← add (.mapping kept.toArray)))

/-- Note how far a stream has come. -/
def putIteration (cell : Cell) (iteration : Iteration) : Work Unit :=
  put cell (.stream iteration)

/-- A new stream that is a value. -/
def newStream (kind : StreamKind) (iteration : Iteration) : Work Value := do
  return .ofForm (.stream kind (← add (.stream iteration)))

/-- A stream that has not begun. -/
def newGenerator (generator : Generator) (subject : Value) : Work Value := do
  newStream .generator (.waiting generator (← keep subject))

end Work

/-! ## Identity -/

/-- Whether there is only one text with this content. -/
def isSingleText (content : String) : Bool :=
  match content.toList with
  | [] => true
  | [character] => character.toNat < 0x100
  | _ => false

/-- Whether two values that are written down are one. -/
def isSameWritten (first second : Form) : Bool :=
  match first, second with
  | .integer left, .integer right => left == right
  | .decimal left, .decimal right => left.toBits == right.toBits
  | .text left, .text right | .markup left, .markup right => left == right
  | _, _ => false

/-- Whether two values are one and the same, and do not only look alike. -/
def Value.isSame (first second : Value) : Bool :=
  let byOrigin : Bool :=
    match first.origin, second.origin with
    | .kept left, .kept right => left == right
    | .written, .written => isSameWritten first.form second.form
    | _, _ => false
  match first.form, second.form with
  | .none, .none | .unanswered, .unanswered => true
  | .boolean left, .boolean right => left == right
  | .integer left, .integer right => byOrigin || (left == right && -5 ≤ left && left ≤ 256)
  | .text left, .text right => byOrigin || (left == right && isSingleText left)
  | .tuple [], .tuple [] => true
  | .list left, .list right | .mapping left, .mapping right | .set left, .set right
  | .stream _ left, .stream _ right
  | .loop left, .loop right | .snippet left, .snippet right | .record left, .record right
  | .cycler left, .cycler right | .joiner left, .joiner right => left == right
  | .function left, .function right | .kind left, .kind right => left == right
  | _, _ => byOrigin

/-! ## What values can do -/

/-- What goes beyond a single value: the next item of a stream, calls, filters and tests by name, and the
condition of a loop in a frame.  Binding a target gives the value back that the target has then. -/
structure Engine where
  advance : Cell → Work (Option Value)
  call : Value → Given → Work Value
  filter : String → Value → Given → Work Value
  test : String → Value → Given → Work Bool
  holds : Cell → Expression → Work Bool
  bind : Cell → Target → Value → Work Value
  openFrame : Cell → Symbols → Work Cell

end SetupScript.Template
