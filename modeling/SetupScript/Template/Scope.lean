import SetupScript.Character.Normal
import SetupScript.Template.Node

/-!
# Names of frames

A body opens a frame, in which names have values of their own.  Which names these are, and where their
first values come from, is known before the body is rendered: a name that is bound in the body begins with
the value of the frame around it, or with none; a name that is bound only in some branch of a condition, or
not at all, begins with the value that the whole template is given for it.
-/

namespace SetupScript.Template

/-! ## Tables of names -/

/-- The normal form of a name.  In a frame, names with one normal form share one value. -/
def normalName (name : String) : String :=
  String.ofList (Character.normalForm name.toList)

/-- Where a name of a frame gets its first value. -/
inductive Load
  | given
  | missing
  | around
  | context
deriving DecidableEq

/-- The names of a frame with their first values, and those of them that are bound. -/
structure Symbols where
  loads : List (String × Load) := []
  stores : List String := []

namespace Symbols

/-- Note where a name gets its first value, whatever was noted before. -/
def put (symbols : Symbols) (name : String) (load : Load) : Symbols :=
  if (symbols.loads.lookup name).isSome then
    { symbols with
      loads := symbols.loads.map fun entry => if entry.1 = name then (name, load) else entry }
  else { symbols with loads := symbols.loads ++ [(name, load)] }

/-- Note that a name is bound. -/
def bind (symbols : Symbols) (name : String) : Symbols :=
  if symbols.stores.contains name then symbols
  else { symbols with stores := symbols.stores ++ [name] }

/-- A name that whoever opens the frame gives a value. -/
def declare (symbols : Symbols) (name : String) : Symbols :=
  (symbols.put name .given).bind name

/-- The value that a name has when its frame is opened; `around` tells the names of the frames around. -/
def firstLoad (around : String → Bool) (name : String) (otherwise : Load) : Load :=
  if around name then .around else otherwise

/-- A name that is bound. -/
def store (around : String → Bool) (symbols : Symbols) (name : String) : Symbols :=
  let symbols := symbols.bind name
  if (symbols.loads.lookup name).isSome then symbols
  else symbols.put name (firstLoad around name .missing)

/-- A name that is used. -/
def load (around : String → Bool) (symbols : Symbols) (name : String) : Symbols :=
  if (symbols.loads.lookup name).isSome || around name then symbols else symbols.put name .context

/-- The names of an expression, which are used. -/
def loadAll (around : String → Bool) (symbols : Symbols) (expression : Expression) : Symbols :=
  expression.names.foldl (load around) symbols

/-- What branches add to the names in front of them.  A name that is first bound in a branch may be left
without a value, so it begins with the value from outside. -/
def merge (around : String → Bool) (symbols : Symbols) (branches : List Symbols) : Symbols :=
  let bound := (branches.flatMap Symbols.stores).filter fun name => !symbols.stores.contains name
  let merged := branches.foldl (fun merged branch =>
    branch.stores.foldl bind
      (branch.loads.foldl (fun merged entry => merged.put entry.1 entry.2) merged)) symbols
  bound.foldl (fun merged name => merged.put name (firstLoad around name .context)) merged

end Symbols

/-! ## Names of bodies -/

/-- A target, whose names are bound. -/
def Target.store (around : String → Bool) (symbols : Symbols) (target : Target) : Symbols :=
  target.names.foldl (Symbols.store around) (target.records.foldl (Symbols.load around) symbols)

mutual

/-- The names of a node in the frame that it stands in.  Bodies with frames of their own do not count. -/
def Node.visit (around : String → Bool) (symbols : Symbols) : Node → Symbols
  | .plain _ | .escaping .. | .block .. => symbols
  | .output expression | .extend expression | .insert expression _ =>
    symbols.loadAll around expression
  | .conditional branches otherwise =>
    match branches with
    | [] => symbols
    | (condition, body) :: branches =>
      let symbols := symbols.loadAll around condition
      symbols.merge around
        [visitAll around symbols body, visitBranches around symbols branches,
          visitAll around symbols otherwise]
  | .loop head _ _ => symbols.loadAll around head.items
  | .assign target value => target.store around (symbols.loadAll around value)
  | .capture target _ _ => target.store around symbols
  | .filtered value _ => symbols.loadAll around value
  | .scope bindings _ => bindings.foldl (fun symbols binding => symbols.loadAll around binding.2) symbols
  | .snippet name _ _ => symbols.store around name
  | .invoke call _ _ => symbols.loadAll around call
  | .borrow template names => names.foldl (Symbols.store around) (symbols.loadAll around template)

/-- The names of several nodes. -/
def visitAll (around : String → Bool) (symbols : Symbols) : List Node → Symbols
  | [] => symbols
  | node :: nodes => visitAll around (node.visit around symbols) nodes

/-- The names of the later branches of a conditional node. -/
def visitBranches (around : String → Bool) (symbols : Symbols) :
    List (Expression × List Node) → Symbols
  | [] => symbols
  | (condition, body) :: branches =>
    let symbols := symbols.loadAll around condition
    visitBranches around (symbols.merge around [visitAll around symbols body]) branches

end

/-! ## Special names -/

mutual

/-- The names in a node in the order in which they stand, each with whether it is used and not bound.
Bodies inside count, those of blocks do not. -/
def Node.mentions : Node → List (String × Bool)
  | .plain _ | .block .. => []
  | .output expression | .extend expression | .insert expression _ => uses expression
  | .conditional branches otherwise => branchMentions branches ++ mentionsOf otherwise
  | .loop head body otherwise =>
    binds head.target.names ++ uses head.items ++ mentionsOf body ++ mentionsOf otherwise ++
      (head.condition.map uses).getD []
  | .assign target value => binds target.names ++ uses value
  | .capture target value body => binds target.names ++ uses value ++ mentionsOf body
  | .filtered value body => mentionsOf body ++ uses value
  | .scope bindings body =>
    bindings.flatMap (fun binding => binds binding.1.names) ++
      bindings.flatMap (fun binding => uses binding.2) ++ mentionsOf body
  | .snippet _ signature body =>
    binds signature.parameters ++ signature.defaults.flatMap uses ++ mentionsOf body
  | .invoke call signature body =>
    uses call ++ binds signature.parameters ++ signature.defaults.flatMap uses ++ mentionsOf body
  | .escaping mode body => uses mode ++ mentionsOf body
  | .borrow template _ => uses template
where
  /-- Names that are bound. -/
  binds (names : List String) : List (String × Bool) := names.map fun name => (name, false)
  /-- The names of an expression, which are used. -/
  uses (expression : Expression) : List (String × Bool) :=
    expression.names.map fun name => (name, true)

/-- The names in several nodes. -/
def mentionsOf : List Node → List (String × Bool)
  | [] => []
  | node :: nodes => node.mentions ++ mentionsOf nodes

/-- The names in the branches of a conditional node. -/
def branchMentions : List (Expression × List Node) → List (String × Bool)
  | [] => []
  | (condition, body) :: branches =>
    condition.names.map (fun name => (name, true)) ++ mentionsOf body ++ branchMentions branches

end

/-- Whether nodes use a name before they bind it. -/
def asksFor (name : String) (nodes : List Node) : Bool :=
  ((mentionsOf nodes).lookup name).getD false

/-- The name under which a loop tells about itself. -/
def loopName : String := "loop"

/-- The name under which the body of a call is handed over. -/
def callerName : String := "caller"

/-- The names under which a snippet finds what it was given beyond its parameters. -/
def spareNames : List String := ["kwargs", "varargs"]

/-- The name under which a template finds its blocks. -/
def selfName : String := "self"

/-- The name under which a block finds the one that it replaces. -/
def superName : String := "super"

/-! ## Names of whole frames -/

/-- Declare one of some names if nodes use it before they bind it. -/
def Symbols.declareAsked (symbols : Symbols) (nodes : List Node) (name : String) : Symbols :=
  if asksFor name nodes then symbols.declare name else symbols

/-- The names of the outermost frame of a template. -/
def outermostSymbols (nodes : List Node) : Symbols :=
  visitAll (fun _ => false) (Symbols.declareAsked {} nodes selfName) nodes

/-- The names of the frame of a block. -/
def blockSymbols (body : List Node) : Symbols :=
  visitAll (fun _ => false) ([selfName, superName].foldl (·.declareAsked body) {}) body

/-- The names of a frame that holds only a body. -/
def bodySymbols (around : String → Bool) (body : List Node) : Symbols :=
  visitAll around {} body

mutual

/-- Whether a block in a node sees the names around it. -/
def Node.hasSeeingBlock : Node → Bool
  | .conditional branches otherwise => branchesHaveSeeingBlock branches || haveSeeingBlock otherwise
  | .loop _ body otherwise => haveSeeingBlock body || haveSeeingBlock otherwise
  | .capture _ _ body | .filtered _ body | .scope _ body | .snippet _ _ body | .invoke _ _ body
  | .escaping _ body => haveSeeingBlock body
  | .block _ marks body => marks.seesAround || haveSeeingBlock body
  | _ => false

/-- Whether this holds of one of several nodes. -/
def haveSeeingBlock : List Node → Bool
  | [] => false
  | node :: nodes => node.hasSeeingBlock || haveSeeingBlock nodes

/-- Whether this holds of the branches of a conditional node. -/
def branchesHaveSeeingBlock : List (Expression × List Node) → Bool
  | [] => false
  | (_, body) :: branches => haveSeeingBlock body || branchesHaveSeeingBlock branches

end

/-- Whether a loop has to tell about itself. -/
def LoopHead.tells (head : LoopHead) (body otherwise : List Node) : Bool :=
  head.recursive || asksFor loopName body || haveSeeingBlock body || haveSeeingBlock otherwise

/-- The names of the frame of a loop's body. -/
def loopSymbols (around : String → Bool) (head : LoopHead) (body otherwise : List Node) : Symbols :=
  let start : Symbols := if head.tells body otherwise then ({} : Symbols).declare loopName else {}
  visitAll around (head.target.names.foldl Symbols.declare start) body

/-- The names of the frame of a loop's condition. -/
def conditionSymbols (around : String → Bool) (target : Target) (condition : Expression) : Symbols :=
  (target.names.foldl Symbols.declare {}).loadAll around condition

/-- The names of the frame of a scope. -/
def scopeSymbols (around : String → Bool) (bindings : List (Target × Expression))
    (body : List Node) : Symbols :=
  visitAll around
    ((bindings.flatMap fun binding => binding.1.names).foldl Symbols.declare {}) body

/-- The names of the frame of a body whose text is filtered. -/
def filteredSymbols (around : String → Bool) (value : Expression) (body : List Node) : Symbols :=
  (visitAll around {} body).loadAll around value

/-- The names of the frame of a body with a mode of escaping. -/
def escapingSymbols (around : String → Bool) (mode : Expression) (body : List Node) : Symbols :=
  visitAll around (({} : Symbols).loadAll around mode) body

/-- The names under which a snippet finds more than its parameters. -/
def Signature.spare (signature : Signature) (body : List Node) : List String :=
  (callerName :: spareNames).filter fun name =>
    asksFor name body && !signature.parameters.contains name

/-- The names of the frame of a snippet. -/
def snippetSymbols (around : String → Bool) (signature : Signature) (body : List Node) : Symbols :=
  let parameters := signature.parameters.foldl Symbols.declare {}
  let defaults := signature.defaults.foldl (Symbols.loadAll around) parameters
  (signature.spare body).foldl Symbols.declare (visitAll around defaults body)

end SetupScript.Template
