import SetupScript.Template.Folding
import SetupScript.Template.Names

/-!
# Preparing templates

Nodes are made ready for rendering, and what cannot be rendered is refused: filters and tests with unknown
names, loops in which the name of the loop is bound, and the like.  An unknown filter is let pass where it
may never be reached, that is in a conditional expression, or in a conditional block outside of all other
blocks.  A flaw of the code as a whole, such as two arguments with one name, is found only when nothing else
is wrong.
-/

namespace SetupScript.Template

/-! ## Flaws -/

/-- A step of the preparation, which may note that the code has a flaw, or refuse the template. -/
abbrev Preparation := Procedure Bool Failure

/-- Note a flaw if there is one. -/
def noteFlaw (isFlaw : Bool) : Preparation Unit :=
  Procedure.change fun flawed => flawed || isFlaw

/-- Whether a name comes up twice. -/
def hasRepetition : List String → Bool
  | [] => false
  | name :: names => names.contains name || hasRepetition names

/-- The name of an argument that is given by name. -/
def Role.name? : Role → Option String
  | .name word => some word
  | _ => none

/-- Whether arguments, together with further names, clash since they are named alike.  A reserved word among
the names lets later ones replace earlier ones. -/
def haveClash (further : List String) (arguments : Arguments) : Bool :=
  let names := arguments.filterMap (fun argument => argument.1.name?) ++ further
  hasRepetition (names.map normalName) && !names.any reservedWords.contains

/-! ## Expressions -/

mutual

/-- Check an expression with the names that are known where it stands.  Where it may never be reached,
unknown filters and tests are let pass. -/
def checkExpression (knows : String → Bool) (lax : Bool) : Expression → Preparation Unit
  | .constant literal => do if isOversized literal.greatest then throw .wrongValue
  | .name name => do if !knows name then throw .unmetAssumption
  | .captured => return
  | .attribute object _ => checkExpression knows lax object
  | .item object (.slice start stop step) => do
    checkExpression knows lax object
    checkBound knows lax start
    checkBound knows lax stop
    checkBound knows lax step
  | .item object index => do
    checkExpression knows lax object
    checkExpression knows lax index
  | .slice start stop step => do
    noteFlaw true
    checkBound knows lax start
    checkBound knows lax stop
    checkBound knows lax step
  | .call function arguments => do
    checkExpression knows lax function
    noteFlaw (haveClash [] arguments)
    checkArguments knows lax arguments
  | .filter subject name arguments => do
    if !lax && !filterNames.contains name then throw .unusable
    checkExpression knows lax subject
    noteFlaw (haveClash [] arguments)
    checkArguments knows lax arguments
  | .test subject name arguments => do
    if !lax && !testNames.contains name then throw .unusable
    checkExpression knows lax subject
    noteFlaw (haveClash [] arguments)
    checkArguments knows lax arguments
  | .negate operand | .affirm operand | .not operand => checkExpression knows lax operand
  | .arithmetic _ left right | .and left right | .or left right => do
    checkExpression knows lax left
    checkExpression knows lax right
  | .compare first rest => do
    checkExpression knows lax first
    checkCompared knows lax rest
  | .concatenate parts => checkExpressions knows lax parts
  | .choose condition consequence alternative => do
    checkExpression knows true consequence
    checkExpression knows true condition
    checkExpression knows true alternative
  | .chooseOnly _ condition consequence => do
    checkExpression knows true consequence
    checkExpression knows true condition
  | .list items | .tuple items => checkExpressions knows lax items
  | .mapping entries => checkEntries knows lax entries

/-- Check a bound of a slice. -/
def checkBound (knows : String → Bool) (lax : Bool) : Option Expression → Preparation Unit
  | none => return
  | some bound => checkExpression knows lax bound

/-- Check several expressions. -/
def checkExpressions (knows : String → Bool) (lax : Bool) : List Expression → Preparation Unit
  | [] => return
  | expression :: expressions => do
    checkExpression knows lax expression
    checkExpressions knows lax expressions

/-- Check the arguments of a call. -/
def checkArguments (knows : String → Bool) (lax : Bool) :
    List (Role × Expression) → Preparation Unit
  | [] => return
  | (_, expression) :: arguments => do
    checkExpression knows lax expression
    checkArguments knows lax arguments

/-- Check the operands of comparisons. -/
def checkCompared (knows : String → Bool) (lax : Bool) :
    List (Comparison × Expression) → Preparation Unit
  | [] => return
  | (_, expression) :: rest => do
    checkExpression knows lax expression
    checkCompared knows lax rest

/-- Check the keys and values of entries. -/
def checkEntries (knows : String → Bool) (lax : Bool) :
    List (Expression × Expression) → Preparation Unit
  | [] => return
  | (key, value) :: entries => do
    checkExpression knows lax key
    checkExpression knows lax value
    checkEntries knows lax entries

end

/-! ## Places -/

/-- Where nodes stand: what is known beforehand there, which names are known, whether they may never be
reached, whether the frame is the outermost one and they stand in no condition, how many loops are around them,
and what another template around this one means for what they put out. -/
structure Place where
  foresight : Foresight
  knows : String → Bool := fun _ => false
  mayBeUnreached : Bool := false
  isOutermost : Bool := false
  isUnconditional : Bool := false
  loops : Nat := 0
  isExtended : Bool := false
  yieldsToOther : Bool := false

namespace Place

/-- The place inside a frame. -/
def inside (place : Place) (symbols : Symbols) : Place :=
  { place with
    knows := fun name => (symbols.loads.lookup name).isSome || place.knows name
    mayBeUnreached := false
    isOutermost := false
    isUnconditional := false }

/-- The place inside a condition. -/
def conditional (place : Place) : Place :=
  { place with mayBeUnreached := true, isUnconditional := false }

/-- The place inside a frame whose text is kept, whatever template is around it. -/
def kept (place : Place) (symbols : Symbols) : Place :=
  { place.inside symbols with yieldsToOther := false }

/-- How what is put out in a place is escaped. -/
def escaping (place : Place) : Escaping :=
  if place.foresight.isOpen then .asked
  else if place.foresight.escapes then .always
  else .never

/-- Whether nothing is put out since another template takes over. -/
def isSilent (place : Place) : Bool :=
  place.isExtended && place.yieldsToOther

/-- An expression made ready. -/
def expression (place : Place) (expression : Expression) : Preparation Expression := do
  let expression ←
    if place.foresight.isOpen then pure expression else liftM (foldParts place.foresight expression)
  checkExpression place.knows place.mayBeUnreached expression
  return expression

end Place

/-- More loops than these may not stand in each other. -/
def loopLimit : Nat := 20

/-! ## Nodes -/

mutual

/-- The names that a node binds by assignments and loops, also in the bodies inside. -/
def Node.boundNames : Node → List String
  | .conditional branches otherwise => namesBoundInBranches branches ++ namesBoundIn otherwise
  | .loop head body otherwise => head.target.names ++ namesBoundIn body ++ namesBoundIn otherwise
  | .assign target _ => target.names
  | .capture target _ body => target.names ++ namesBoundIn body
  | .filtered _ body | .scope _ body | .snippet _ _ body | .invoke _ _ body | .block _ _ body
  | .escaping _ body => namesBoundIn body
  | _ => []

/-- The names that several nodes bind. -/
def namesBoundIn : List Node → List String
  | [] => []
  | node :: nodes => node.boundNames ++ namesBoundIn nodes

/-- The names that the branches of a conditional node bind. -/
def namesBoundInBranches : List (Expression × List Node) → List String
  | [] => []
  | (_, body) :: branches => namesBoundIn body ++ namesBoundInBranches branches

end

/-- Whether nodes ask for the body of a call although a parameter without a default has its name. -/
def Signature.hidesCaller (signature : Signature) (body : List Node) : Bool :=
  asksFor callerName body &&
    (signature.parameters.take (signature.parameters.length - signature.defaults.length)).contains
      callerName

/-- The place of a snippet's body. -/
def Place.ofSnippet (place : Place) (symbols : Symbols) : Place :=
  { place.kept symbols with loops := 0 }

/-- A snippet made ready, apart from its body. -/
def Place.snippetOutline (place : Place) (signature : Signature) (body : List Node) :
    Preparation SnippetOutline := do
  if signature.hidesCaller body then throw .unusable
  let symbols := snippetSymbols place.knows signature body
  noteFlaw (hasRepetition (signature.parameters.map normalName))
  let defaults ← signature.defaults.mapM (place.ofSnippet symbols).expression
  let spare := signature.spare body
  return {
    signature := { signature with defaults := defaults }
    symbols := symbols
    takesCaller := asksFor callerName body
    takesNamed := spare.contains "kwargs"
    takesMore := spare.contains "varargs"
    escaping := place.escaping }

/-- A condition of a loop made ready, with the names of its frame. -/
def Place.condition (place : Place) (head : LoopHead) : Preparation (Option (Expression × Symbols)) := do
  match head.condition with
  | none => return none
  | some condition =>
    let symbols := conditionSymbols place.knows head.target condition
    return some (← (place.inside symbols).expression condition, symbols)

mutual

/-- A node made ready; it may come to nothing. -/
def prepare (place : Place) : Node → Preparation (List Step)
  | .plain text => return if place.isSilent then [] else [.plain (String.ofList text)]
  | .output expression =>
    if place.isSilent then return []
    else
      match place.foresight.text? expression with
      | some text => return [.plain text]
      | none => return [.output (← place.expression expression)]
  | .conditional branches otherwise => do
    let branches ← prepareBranches place.conditional branches
    return [.conditional branches (← prepareAll place.conditional otherwise)]
  | .loop head body otherwise => do
    let symbols := loopSymbols place.knows head body otherwise
    let otherwiseSymbols := bodySymbols place.knows otherwise
    let condition ← place.condition head
    if (head.target.names ++ namesBoundIn body ++ namesBoundIn otherwise).contains loopName then
      throw .unusable
    let loops := (if head.recursive then 0 else place.loops) + 1
    noteFlaw (loopLimit < loops)
    let items ← place.expression head.items
    let body ← prepareAll { place.inside symbols with loops := loops } body
    let otherwise ←
      prepareAll { place.inside otherwiseSymbols with loops := loops - 1 } otherwise
    let outline : LoopOutline := {
      target := head.target
      items := items
      condition := condition
      recursive := head.recursive
      tells := symbols.stores.contains loopName
      symbols := symbols
      otherwiseSymbols := otherwiseSymbols }
    return [.loop outline body otherwise]
  | .assign target value => do return [.assign target (← place.expression value)]
  | .capture target value body => do
    let symbols := bodySymbols place.knows body
    let inside := place.kept symbols
    let body ← prepareAll inside body
    return [.capture target (← inside.expression value) symbols body]
  | .filtered value body => do
    let symbols := filteredSymbols place.knows value body
    let inside := place.inside symbols
    let body ← prepareAll inside body
    return [.filtered (← inside.expression value) symbols body]
  | .scope bindings body => do
    let symbols := scopeSymbols place.knows bindings body
    let bindings ← bindings.mapM fun binding => do
      return (binding.1, ← place.expression binding.2)
    return [.scope bindings symbols (← prepareAll (place.inside symbols) body)]
  | .snippet name signature body => do
    let outline ← place.snippetOutline signature body
    return [.snippet name outline (← prepareAll (place.ofSnippet outline.symbols) body)]
  | .invoke call signature body => do
    let outline ← place.snippetOutline signature body
    let body ← prepareAll (place.ofSnippet outline.symbols) body
    match call with
    | .call _ arguments => noteFlaw (haveClash [callerName] arguments)
    | _ => pure ()
    return [.invoke (← place.expression call) outline body]
  | .block name marks _ => return [.block name marks]
  | .escaping mode body => do
    let symbols := escapingSymbols place.knows mode body
    let inside := place.inside symbols
    let ready ← inside.expression mode
    let foresight ←
      match ← (inside.foresight.truth? mode : Result (Option Bool)) with
      | some escapes => pure { inside.foresight with escapes := escapes }
      | none => pure { inside.foresight with isOpen := true }
    let inside := { inside with foresight := foresight }
    return [.escaping ready inside.escaping symbols (← prepareAll inside body)]
  | .extend template => do
    if !place.isOutermost then throw .unusable
    return [.extend (← place.expression template)]
  | .insert template mayLack => do return [.insert (← place.expression template) mayLack]
  | .borrow template _ => do return [.borrow (← place.expression template)]

/-- Several nodes made ready.  Behind a second call for another template nothing counts. -/
def prepareAll (place : Place) : List Node → Preparation (List Step)
  | [] => return []
  | node :: nodes => do
    let steps ← prepare place node
    match node with
    | .extend _ =>
      if place.isExtended then return steps
      else
        let extended := { place with isExtended := place.isUnconditional }
        return steps ++ (← prepareAll extended nodes)
    | _ => return steps ++ (← prepareAll place nodes)

/-- The branches of a conditional node made ready. -/
def prepareBranches (place : Place) :
    List (Expression × List Node) → Preparation (List (Expression × List Step))
  | [] => return []
  | (condition, body) :: branches => do
    let condition ← place.expression condition
    let body ← prepareAll place body
    return (condition, body) :: (← prepareBranches place branches)

end

/-! ## Templates -/

/-- A block made ready. -/
def prepareBlock (foresight : Foresight) (body : List Node) : Preparation BlockOutline := do
  let symbols := blockSymbols body
  let place : Place := { foresight := foresight }
  return ⟨symbols, ← prepareAll (place.inside symbols) body⟩

/-- All nodes of a template made ready. -/
def prepareTemplate (engine : Engine) (nodes : List Node) : Preparation Prepared := do
  let foresight : Foresight := { engine := engine, escapes := false, isOpen := false }
  let blocks := blocksOf nodes
  if hasRepetition (blocks.map Prod.fst) then throw .unusable
  let symbols := outermostSymbols nodes
  let place : Place := { foresight := foresight, yieldsToOther := true }
  let body ← prepareAll
    { place.inside symbols with isOutermost := true, isUnconditional := true } nodes
  let blocks ← blocks.mapM fun block => do return (block.1, ← prepareBlock foresight block.2)
  if ← Procedure.look then throw .illFormedCode
  return ⟨symbols, body, blocks⟩

/-- Make a template ready for rendering. -/
def Prepared.ofNodes (engine : Engine) (nodes : List Node) : Result Prepared :=
  ((prepareTemplate engine nodes).run false).1

end SetupScript.Template
