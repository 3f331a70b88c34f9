import SetupScript.Template.Comparison

/-!
# Loops

What a loop under way tells about itself.  It looks ahead only when it is asked whether there is another
item, and goes through what is left only when its length is asked for and cannot be known otherwise.
-/

namespace SetupScript.Template

/-! ## Going through streams -/

/-- More items than any stream has. -/
def itemLimit : Nat := 1000000000000

/-- The items that are left in a stream behind some others. -/
def drain (engine : Engine) (source : Cell) : Nat → Array Value → Work (Array Value)
  | 0, _ => throw .tooDeep
  | fuel + 1, taken => do
    match ← engine.advance source with
    | some item => drain engine source fuel (taken.push item)
    | none => return taken

namespace Loop

/-! ## States -/

/-- The state of a loop. -/
def state (cell : Cell) : Work LoopState := do
  match ← Work.object cell with
  | .loop state => return state
  | _ => return { iterable := .none, source := cell }

/-- Change the state of a loop. -/
def update (cell : Cell) (change : LoopState → LoopState) : Work Unit := do
  Work.put cell (.loop (change (← state cell)))

/-! ## Items -/

/-- Take the next item of a loop. -/
def next? (engine : Engine) (cell : Cell) : Work (Option Value) := do
  let before ← state cell
  let item? ←
    match before.ahead? with
    | some item => pure (some item)
    | none => engine.advance before.source
  match item? with
  | none => return none
  | some item =>
    let item ← Work.keep item
    update cell fun state =>
      { state with
        ahead? := none, before? := state.current?, current? := some item, taken := state.taken + 1 }
    return some item

/-- The item behind the current one. -/
def peek? (engine : Engine) (cell : Cell) : Work (Option Value) := do
  let now ← state cell
  match now.ahead? with
  | some item => return some item
  | none =>
    match ← engine.advance now.source with
    | none => return none
    | some item =>
      let item ← Work.keep item
      update cell fun state => { state with ahead? := some item }
      return some item

/-- How many items a loop has. -/
def length (engine : Engine) (cell : Cell) : Work Nat := do
  let now ← state cell
  match now.length? with
  | some length => return length
  | none =>
    let length ←
      match ← sizeOf? now.iterable with
      | some length => pure length
      | none => do
        let rest ← drain engine now.source itemLimit #[]
        let list ← Work.add (.list (← Work.keepAll rest.toList).toArray)
        let source ← Work.add (.stream (.listItems list 0))
        update cell fun state => { state with source := source }
        pure (rest.size + now.taken + if now.ahead?.isSome then 1 else 0)
    update cell fun state => { state with length? := some length }
    return length

/-! ## Answers -/

/-- The item of several whose turn it is. -/
def cycle (cell : Cell) (items : List Value) : Work Value := do
  let now ← state cell
  match items[(now.taken - 1) % items.length]? with
  | some item => return item
  | none => throw .wrongType

/-- Whether values differ from those of the last time. -/
def changed (cell : Cell) (values : List Value) : Work Value := do
  let now ← state cell
  let same ←
    match now.changed? with
    | some earlier => agree Value.agrees earlier values
    | none => pure false
  if same then return .boolean false
  else
    let values ← Work.keepAll values
    update cell fun state => { state with changed? := some values }
    return .boolean true

/-- What a loop tells about itself under a name. -/
def attribute? (engine : Engine) (cell : Cell) (name : String) : Work (Option Value) := do
  let now ← state cell
  let number (value : Int) : Work (Option Value) := return some (.integer value)
  match name with
  | "index" => number now.taken
  | "index0" => number (now.taken - 1)
  | "revindex" => number ((← length engine cell) - now.taken + 1)
  | "revindex0" => number ((← length engine cell) - now.taken)
  | "length" => number (← length engine cell)
  | "depth" => number (now.depth + 1)
  | "depth0" => number now.depth
  | "first" => return some (.boolean (now.taken == 1))
  | "last" => return some (.boolean (← peek? engine cell).isNone)
  | "previtem" =>
    let earlier? := if now.taken = 1 then none else now.before?
    return some (earlier?.getD (.missing "there is no previous item"))
  | "nextitem" => return some ((← peek? engine cell).getD (.missing "there is no next item"))
  | "cycle" | "changed" => return some (.ofForm (.method (.ofForm (.loop cell)) name))
  | _ => return none

end Loop

end SetupScript.Template
