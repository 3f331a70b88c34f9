import SetupScript.Template.Filter
import SetupScript.Template.Output
import SetupScript.Template.Test

/-!
# Rendering

The text that steps give.  Bodies are rendered in frames of their own; a loop opens its frame anew for every
item.  What is rendered again, since it is called by name, goes through the engine, which bounds how deep calls
stand in each other.
-/

namespace SetupScript.Template

/-! ## Loops -/

/-- Start to go through a value, at a depth of a recursive loop. -/
def startLoop (items : Value) (depth : Nat) (recursion? : Option Recursion) : Work Cell := do
  let items ← Work.keep items
  let source ← items.stream
  Work.add (.loop {
    iterable := items
    source := source
    depth := depth
    recursion? := recursion? })

/-- What a loop goes through: those of the items that count, if there is a condition. -/
def LoopOutline.chosen (outline : LoopOutline) (frame : Cell) (items : Value) : Work Value :=
  match outline.condition with
  | none => return items
  | some (condition, symbols) =>
    Work.newGenerator (.choose outline.target condition symbols frame) items

/-- What a loop gives for its items, one behind the other. -/
def renderItems (engine : Engine) (loop : Cell) (each : Value → Work Output) :
    Nat → Output → Work Output
  | 0, _ => throw .tooDeep
  | fuel + 1, output => do
    match ← Loop.next? engine loop with
    | none => return output
    | some item => do
      let more ← each item
      renderItems engine loop each fuel (output.followedBy more)

/-- Run a loop over a value: the body is rendered in its frame, and the other part if there is no item. -/
def runLoop (scene : Scene) (outline : LoopOutline) (hasOther : Bool) (body other : Cell → Work Output)
    (items : Value) (depth : Nat) (recursion? : Option Recursion) : Work Output := do
  let loop ← startLoop (← outline.chosen scene.frame items) depth recursion?
  let frame ← Frame.openInside scene.frame {} []
  let given := if outline.tells then [(loopName, Value.ofForm (.loop loop))] else []
  let output ← renderItems scene.engine loop (fun item => do
    Frame.reopen frame outline.symbols given
    (scene.inFrame frame).bind outline.target item
    body frame) itemLimit .empty
  if !outline.recursive || hasOther then Frame.leave frame outline.symbols
  if hasOther && (← Loop.state loop).taken = 0 then
    let frame ← Frame.openInside scene.frame outline.otherwiseSymbols []
    let output ← other frame
    Frame.leave frame outline.otherwiseSymbols
    return output
  else return output

/-! ## Snippets -/

/-- The values that a call of a snippet gives to the names of its frame. -/
def Snippet.fit (snippet : Snippet) (given : Given) : Work (List (String × Value)) := do
  let outline := snippet.outline
  let parameters := outline.signature.parameters
  let placed := parameters.zip given.positional
  let unplaced := parameters.drop placed.length
  let found := unplaced.filterMap fun name => (given.named.lookup name).map fun value => (name, value)
  let named := given.named.filter fun entry => !unplaced.contains entry.1
  let hasCaller := (if unplaced.isEmpty then parameters else unplaced).contains callerName
  let asksCaller := outline.takesCaller && !hasCaller
  let callers :=
    if asksCaller then
      match named.lookup callerName with
      | some ⟨.none, _⟩ | none => [(callerName, Value.missing "No caller defined")]
      | some caller => [(callerName, caller)]
    else []
  let named := if asksCaller then named.filter fun entry => entry.1 != callerName else named
  let spareNamed ←
    if outline.takesNamed then do
      let mapping ← Work.newMapping (named.map fun entry => (Value.text entry.1, entry.2))
      pure [("kwargs", mapping)]
    else if named.isEmpty then pure []
    else throw .wrongType
  let more := given.positional.drop parameters.length
  let spareMore ←
    if outline.takesMore then pure [("varargs", Value.tuple (← Work.keepAll more))]
    else if more.isEmpty then pure []
    else throw .wrongType
  return placed ++ found ++ callers ++ spareNamed ++ spareMore

/-- The parameters of a signature, each with its default if there is one. -/
def Signature.withDefaults (signature : Signature) : List (String × Option Expression) :=
  let plain := signature.parameters.length - signature.defaults.length
  signature.parameters.zip (List.replicate plain none ++ signature.defaults.map some)

/-- Give the parameters that have no value yet their defaults. -/
def fillDefaults (scene : Scene) : List (String × Option Expression) → Work Unit
  | [] => return
  | (name, fallback) :: parameters => do
    if (← Frame.value? scene.frame name).isNone then
      let value ←
        match fallback with
        | some fallback => scene.value fallback
        | none => pure (.missing ("parameter " ++ Text.quotedString name ++ " was not provided"))
      Frame.assign scene.frame name value
    fillDefaults scene parameters

/-- A new snippet in a frame. -/
def newSnippet (name? : Option String) (outline : SnippetOutline) (body : List Step) (frame : Cell) :
    Work Value := do
  return .ofForm (.snippet (← Work.add (.snippet ⟨name?, outline, body, frame⟩)))

/-! ## Other templates -/

/-- Look for a template to insert.  There is none, but if no name is given at all it may lack. -/
def insertTemplate (engine : Engine) (value : Value) (mayLack : Bool) : Work Output := do
  match value.form with
  | .undefined missing => liftM (Value.failMissing missing : Result Output)
  | form =>
    if form.text?.isSome || (← value.truth) then
      discard (value.items engine)
      throw .wrongType
    else if mayLack then return .empty
    else throw .unusable

/-! ## Steps -/

mutual

/-- What a step gives. -/
def render (scene : Scene) : Step → Work Output
  | .plain text => return some text
  | .output expression => scene.putOut expression
  | .conditional branches otherwise => do
    match ← renderBranch? scene branches with
    | some output => return output
    | none => renderAll scene .empty otherwise
  | .loop outline body otherwise => do
    let items ← scene.value outline.items
    let renderBody (frame : Cell) : Work Output := renderAll (scene.inFrame frame) .empty body
    let renderOther (frame : Cell) : Work Output := renderAll (scene.inFrame frame) .empty otherwise
    if outline.recursive then
      let recursion : Recursion := ⟨outline, body, otherwise, scene.frame, scene.escaping⟩
      let output ← runLoop scene outline (!otherwise.isEmpty) renderBody renderOther items 0
        (some recursion)
      return some (← output.text)
    else runLoop scene outline (!otherwise.isEmpty) renderBody renderOther items 0 none
  | .assign target value => do
    checkRecords scene.frame target
    scene.bind target (← scene.value value)
    return .empty
  | .capture target value symbols body => do
    let frame ← Frame.openInside scene.frame symbols []
    let output ← renderAll (scene.inFrame frame) .empty body
    let captured ← (scene.inFrame frame).valueOfCaptured (← output.text) value
    scene.bind target (← markedValue captured)
    Frame.leave frame symbols
    return .empty
  | .filtered value symbols body => do
    let frame ← Frame.openInside scene.frame symbols []
    let output ← renderAll (scene.inFrame frame) .empty body
    let captured ← (scene.inFrame frame).valueOfCaptured (← output.text) value
    Frame.leave frame symbols
    return .ofValue captured
  | .scope bindings symbols body => do
    let frame ← Frame.openInside scene.frame symbols []
    for (target, expression) in bindings do
      (scene.inFrame frame).bind target (← scene.value expression)
    let output ← renderAll (scene.inFrame frame) .empty body
    Frame.leave frame symbols
    return output
  | .snippet name outline body => do
    Frame.assign scene.frame name (← newSnippet (some name) outline body scene.frame)
    return .empty
  | .invoke call outline body => do
    let caller ← newSnippet none outline body scene.frame
    match call with
    | .call function arguments =>
      let function ← scene.value function
      let gathered ← evaluateArguments scene.setting arguments
      let gathered := { gathered with named := gathered.named ++ [(callerName, caller)] }
      return .ofValue (← scene.engine.call function (← scene.setting.given gathered))
    | _ => throw .wrongType
  | .block name marks => do
    if marks.mustBeFilled then throw .unusable
    let context ←
      if marks.seesAround then Frame.derivedContext scene.frame
      else pure (← Frame.state scene.frame).context
    return .ofValue (← scene.engine.call (Form.block name context) {})
  | .escaping mode inside symbols body => do
    let before ← Work.isEscaping
    let frame ← Frame.openInside scene.frame symbols []
    let escapes ← (scene.inFrame frame).holds mode
    Procedure.change fun store => { store with escaping := escapes }
    let output ← renderAll ⟨scene.engine, frame, inside⟩ .empty body
    Procedure.change fun store => { store with escaping := before }
    Frame.leave frame symbols
    return output
  | .extend template | .borrow template => do
    discard (scene.value template)
    throw .wrongType
  | .insert template mayLack => do
    insertTemplate scene.engine (← scene.value template) mayLack

/-- What several steps give, behind an output. -/
def renderAll (scene : Scene) (output : Output) : List Step → Work Output
  | [] => return output
  | step :: steps => do
    let more ← render scene step
    renderAll scene (output.followedBy more) steps

/-- What the first branch whose condition holds gives, if there is one. -/
def renderBranch? (scene : Scene) :
    List (Expression × List Step) → Work (Option Output)
  | [] => return none
  | (condition, body) :: branches => do
    if ← scene.holds condition then return some (← renderAll scene .empty body)
    else renderBranch? scene branches

end

/-! ## Calls -/

/-- Call a snippet. -/
def callSnippet (engine : Engine) (snippet : Snippet) (given : Given) : Work Value := do
  let isMarked ← Work.isEscaping
  let outline := snippet.outline
  let frame ← Frame.openInside snippet.frame outline.symbols (← snippet.fit given)
  let scene : Scene := ⟨engine, frame, outline.escaping⟩
  fillDefaults scene outline.signature.withDefaults
  let output ← renderAll scene .empty snippet.body
  return .textMarked isMarked (← output.text)

/-- Run a recursive loop again for other items. -/
def callLoop (engine : Engine) (loop : Cell) (given : Given) : Work Value := do
  let items ← given.one (required "iterable")
  let state ← Loop.state loop
  match state.recursion? with
  | none => throw .wrongType
  | some recursion =>
    let scene : Scene := ⟨engine, recursion.frame, recursion.escaping⟩
    let output ← runLoop scene recursion.outline (!recursion.otherwise.isEmpty)
      (fun frame => renderAll (scene.inFrame frame) .empty recursion.body)
      (fun frame => renderAll (scene.inFrame frame) .empty recursion.otherwise)
      items (state.depth + 1) (some recursion)
    return .textMarked (← scene.escapes) (← output.text)

/-- Call a block in a context. -/
def callBlock (engine : Engine) (name : String) (context : Cell) (given : Given) : Work Value := do
  given.nothing
  match (← Procedure.look).blocks.lookup name with
  | none => throw .wrongType
  | some block =>
    let frame ← Frame.openApart context block.symbols
      [(selfName, Form.blocks context),
        (superName, .missing ("there is no parent block called " ++ Text.quotedString name ++ "."))]
    let output ← renderAll ⟨engine, frame, .never⟩ .empty block.body
    markedText (← output.text)

/-- Call a value. -/
def callWith (engine : Engine) (function : Value) (given : Given) : Work Value := do
  match function.form with
  | .snippet cell =>
    match ← Work.object cell with
    | .snippet snippet => callSnippet engine snippet given
    | _ => throw .wrongType
  | .loop cell => callLoop engine cell given
  | .block name context => callBlock engine name context given
  | _ => callPlain engine function given

/-! ## Engines -/

/-- An engine that can do nothing. -/
def Engine.exhausted : Engine where
  advance _ := throw .tooDeep
  call _ _ := throw .tooDeep
  filter _ _ _ := throw .tooDeep
  test _ _ _ := throw .tooDeep
  holds _ _ := throw .tooDeep
  bind _ _ _ := throw .tooDeep
  openFrame _ _ := throw .tooDeep

/-- The engine in which calls may stand in each other to a certain depth. -/
def Engine.ofDepth : Nat → Engine
  | 0 => .exhausted
  | depth + 1 =>
    let below := Engine.ofDepth depth
    { advance := advanceWith below
      call := callWith below
      filter := filterWith below
      test := testWith below
      holds := fun frame condition => Scene.holds ⟨below, frame, .never⟩ condition
      bind := fun frame target value => target.bind below frame value
      openFrame := fun frame symbols => Frame.openInside frame symbols [] }

/-! ## Templates -/

/-- The text of a template that is ready for rendering, with the values that it is given. -/
def Prepared.render (engine : Engine) (prepared : Prepared) (given : List (String × Value)) :
    Work String := do
  Procedure.change fun store => { store with blocks := prepared.blocks }
  let context ← Work.add (.context { given := given })
  let frame ← Frame.openApart context prepared.symbols [(selfName, Form.blocks context)]
  Work.put frame (.frame { ← Frame.state frame with isOutermost := true })
  let output ← renderAll ⟨engine, frame, .never⟩ .empty prepared.body
  output.text

end SetupScript.Template
