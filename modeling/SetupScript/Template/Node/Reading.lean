import SetupScript.Template.Expression.Reading
import SetupScript.Template.Node
import SetupScript.Template.Piece

/-!
# Reading nodes

A block tag is read by itself; then one pass over the pieces of a template keeps the blocks that are still
open on a stack.
-/

namespace SetupScript.Template

/-! ## Block tags -/

/-- The block tags. -/
inductive Tag
  | openIf (condition : Expression)
  | elseIf (condition : Expression)
  | otherwise
  | closeIf
  | openFor (head : LoopHead)
  | closeFor
  | assign (target : Target) (value : Expression)
  | openSet (target : Target) (value : Expression)
  | closeSet
  | openFilter (value : Expression)
  | closeFilter
  | openWith (bindings : List (Target × Expression))
  | closeWith
  | openSnippet (name : String) (signature : Signature)
  | closeSnippet
  | openInvoke (call : Expression) (signature : Signature)
  | closeInvoke
  | openBlock (name : String) (marks : BlockMarks)
  | closeBlock (name? : Option String)
  | openEscaping (mode : Expression)
  | closeEscaping
  | nodes (nodes : List Node)

/-! ## Targets -/

/-- A name that may be bound: none of the words that are values. -/
def bindable? (name : String) : Option String :=
  if (constantOf? name).isSome then none else some name

mutual

/-- The target that an expression stands for: a name, or a tuple of targets. -/
def target? : Expression → Option Target
  | .name name => some (.name name)
  | .tuple items => (targets? items).map .tuple
  | _ => none

/-- The targets that several expressions stand for. -/
def targets? : List Expression → Option (List Target)
  | [] => some []
  | item :: items => do return (← target? item) :: (← targets? items)

end

/-- Read a name that may be bound. -/
def readBindable : Reader String :=
  fun tokens => do
    let (name, rest) ← readName tokens
    return (← bindable? name, rest)

/-- Read a target that is no tuple without brackets. -/
def readSingleTarget (withFields : Bool) : Reader Target :=
  fun tokens =>
    match withFields, tokens with
    | true, ⟨.name record, _⟩ :: ⟨.symbol ".", _⟩ :: rest => do
      let (name, rest) ← readName rest
      return (.field (← bindable? record) name, rest)
    | _, tokens => do
      let (expression, rest) ← readPrimary (readNested (tokens.length + 1)) tokens
      return (← target? expression, rest)

/-- Read a target up to where it may end. -/
def readTarget (withFields : Bool) (isEnd : List Token → Bool) : Reader Target :=
  fun tokens => do
    let ((targets, isTuple), rest) ← readTupleItems (readSingleTarget withFields) isEnd tokens
    match targets, isTuple with
    | [target], false => return (target, rest)
    | targets, true => return (.tuple targets, rest)
    | _, false => none

/-! ## Heads of tags -/

/-- Whether a tuple of the items of a loop ends here. -/
def atItemsEnd (tokens : List Token) : Bool :=
  atTupleEnd tokens || atName "recursive" tokens

/-- Whether only a colon, which may close the opening of a block, is left. -/
def isHeadEnd (tokens : List Token) : Bool :=
  (skipSymbol ":" tokens).isEmpty

/-- What was read, provided that nothing is left behind it. -/
def alone {Item : Type} (isEnd : List Token → Bool) (read : Option (Item × List Token)) :
    Option Item :=
  match read with
  | some (item, rest) => if isEnd rest then some item else none
  | none => none

/-- Pass over a word if it is there. -/
def skipName (name : String) (tokens : List Token) : List Token :=
  if atName name tokens then tokens.tail else tokens

/-- Read the head of a loop behind its word. -/
def readLoop : Reader LoopHead :=
  fun tokens => do
    let (target, rest) ←
      readTarget false (fun tokens => atTupleEnd tokens || atName "in" tokens) tokens
    if atName "in" rest then
      let (items, rest) ← readOpenTuple readDisjunction atItemsEnd rest.tail
      let (condition, rest) ←
        if atName "if" rest then (readExpression rest.tail).map fun read => (some read.1, read.2)
        else some (none, rest)
      return (⟨target, items, condition, atName "recursive" rest⟩, skipName "recursive" rest)
    else none

/-- Read filters, each behind a bar, upon an expression. -/
def readFilters (subject : Expression) : Reader Expression :=
  fun tokens =>
    readAll (fun subject tokens =>
      if atSymbol "|" tokens then
        (readFilter (readNested (tokens.length + 1)) tokens.tail).map
          fun ((name, arguments), rest) => some (.filter subject name arguments, rest)
      else some none) subject tokens

/-- Read an assignment behind its word: with a value, or opening a block whose text is the value. -/
def readAssignment? (tokens : List Token) : Option Tag := do
  let (target, rest) ← readTarget true atTupleEnd tokens
  if atSymbol "=" rest then
    let value ← alone List.isEmpty (readOpenTuple readExpression atTupleEnd rest.tail)
    return .assign target value
  else
    let value ← alone isHeadEnd (readFilters .captured rest)
    return .openSet target value

/-- Read the bindings of a scope. -/
def readBindings (tokens : List Token) : Option (List (Target × Expression) × List Token) :=
  match readTarget false atTupleEnd tokens with
  | none => none
  | some (target, rest) =>
    if atSymbol "=" rest then
      match readExpression rest.tail with
      | none => none
      | some (value, rest) =>
        if atSymbol "," rest then
          if _ : rest.tail.length < tokens.length then
            (readBindings rest.tail).map fun read => ((target, value) :: read.1, read.2)
          else none
        else some ([(target, value)], rest)
    else none
termination_by tokens.length
decreasing_by assumption

/-- Read a parameter, perhaps with a default. -/
def readParameter : Reader (String × Option Expression) :=
  fun tokens => do
    let (name, rest) ← readBindable tokens
    if atSymbol "=" rest then
      let (value, rest) ← readExpression rest.tail
      return ((name, some value), rest)
    else return ((name, none), rest)

/-- Read parameters up to the closing bracket; there is at least one. -/
def readParameters (tokens : List Token) :
    Option (List (String × Option Expression) × List Token) :=
  match readParameter tokens with
  | none => none
  | some (parameter, rest) =>
    if atSymbol ")" rest then some ([parameter], rest.tail)
    else
      match expectSymbol "," rest with
      | none => none
      | some rest =>
        if rest.length < tokens.length then
          (readParameters rest).map fun read => (parameter :: read.1, read.2)
        else none
termination_by tokens.length

/-- The signature of parameters, if those with defaults are the last ones. -/
def signature? (parameters : List (String × Option Expression)) : Option Signature :=
  let optional := parameters.dropWhile fun parameter => parameter.2.isNone
  if optional.all fun parameter => parameter.2.isSome then
    some ⟨parameters.map Prod.fst, optional.filterMap Prod.snd⟩
  else none

/-- Read a signature. -/
def readSignature : Reader Signature :=
  fun tokens => do
    let rest ← expectSymbol "(" tokens
    if atSymbol ")" rest then return ({}, rest.tail)
    else
      let (parameters, rest) ← readParameters rest
      return (← signature? parameters, rest)

/-- Read the head of a snippet behind its word. -/
def readSnippet : Reader Tag :=
  fun tokens => do
    let (name, rest) ← readBindable tokens
    let (signature, rest) ← readSignature rest
    return (.openSnippet name signature, rest)

/-- Read the head of a call with a body behind its word. -/
def readInvoke : Reader Tag :=
  fun tokens => do
    let (signature, rest) ← if atSymbol "(" tokens then readSignature tokens else some ({}, tokens)
    let (expression, rest) ← readExpression rest
    match expression with
    | .call .. => return (.openInvoke expression signature, rest)
    | _ => none

/-- Read the head of a block behind its word. -/
def readBlock : Reader Tag :=
  fun tokens => do
    let (name, rest) ← readName tokens
    let seesAround := atName "scoped" rest
    let rest := skipName "scoped" rest
    return (.openBlock name ⟨seesAround, atName "required" rest⟩, skipName "required" rest)

/-! ## Other templates -/

/-- Pass over a remark on the context, if there is one. -/
def skipContext : List Token → List Token
  | tokens@(⟨.name first, _⟩ :: ⟨.name "context", _⟩ :: rest) =>
    if first = "with" ∨ first = "without" then rest else tokens
  | tokens => tokens

/-- Read what is inserted. -/
def readInsert : Reader Node :=
  fun tokens => do
    let (template, rest) ← readExpression tokens
    match rest with
    | ⟨.name "ignore", _⟩ :: ⟨.name "missing", _⟩ :: rest =>
      return (.insert template true, skipContext rest)
    | rest => return (.insert template false, skipContext rest)

/-- Read a template that is given a name. -/
def readBorrow : Reader Node :=
  fun tokens => do
    let (template, rest) ← readExpression tokens
    if atName "as" rest then
      let (name, rest) ← readBindable rest.tail
      return (.borrow template [name], skipContext rest)
    else none

/-- Whether a remark on the context stands here. -/
def atContext (tokens : List Token) : Bool :=
  (skipContext tokens).length < tokens.length

/-- Read the names that are taken from another template. -/
def readBorrowedNames (tokens : List Token) : Option (List String × List Token) :=
  if atContext tokens then some ([], skipContext tokens)
  else
    match readBindable tokens with
    | none => none
    | some (name, rest) =>
      if name.startsWith "_" then none
      else
        match if atName "as" rest then readBindable rest.tail else some (name, rest) with
        | none => none
        | some (taken, rest) =>
          if atContext rest then some ([taken], skipContext rest)
          else if atSymbol "," rest then
            if _ : rest.tail.length < tokens.length then
              (readBorrowedNames rest.tail).map fun read => (taken :: read.1, read.2)
            else none
          else some ([taken], rest)
termination_by tokens.length
decreasing_by assumption

/-- Read a template of which some names are taken. -/
def readBorrowFrom : Reader Node :=
  fun tokens => do
    let (template, rest) ← readExpression tokens
    if atName "import" rest then
      let (names, rest) ← readBorrowedNames rest.tail
      return (.borrow template names, rest)
    else none

/-- Read expressions with commas between them. -/
def readOutputs (tokens : List Token) : Option (List Node) :=
  if tokens.isEmpty then some []
  else
    match readExpression tokens with
    | none => none
    | some (expression, []) => some [.output expression]
    | some (expression, rest) =>
      match expectSymbol "," rest with
      | none => none
      | some rest =>
        if rest.isEmpty then none
        else if rest.length < tokens.length then
          (readOutputs rest).map fun nodes => .output expression :: nodes
        else none
termination_by tokens.length

/-! ## Tags -/

/-- Read a block tag. -/
def readBlockTag? (tokens : List Token) : Option Tag :=
  match tokens with
  | ⟨.name word, _⟩ :: rest =>
    let condition := alone isHeadEnd (readOpenTuple readDisjunction atTupleEnd rest)
    let closing (tag : Tag) : Option Tag := if rest.isEmpty then some tag else none
    let single (read : Option (Node × List Token)) : Option Tag :=
      (alone List.isEmpty read).map fun node => .nodes [node]
    match word with
    | "if" => condition.map .openIf
    | "elif" => condition.map .elseIf
    | "else" => if isHeadEnd rest then some .otherwise else none
    | "endif" => closing .closeIf
    | "for" => (alone isHeadEnd (readLoop rest)).map .openFor
    | "endfor" => closing .closeFor
    | "set" => readAssignment? rest
    | "endset" => closing .closeSet
    | "filter" =>
      (alone isHeadEnd ((readFilter (readNested (rest.length + 1)) rest).bind
        fun ((name, arguments), rest) => readFilters (.filter .captured name arguments) rest)).map
        .openFilter
    | "endfilter" => closing .closeFilter
    | "with" =>
      if rest.isEmpty then some (.openWith [])
      else (alone List.isEmpty (readBindings rest)).map .openWith
    | "endwith" => closing .closeWith
    | "macro" => alone isHeadEnd (readSnippet rest)
    | "endmacro" => closing .closeSnippet
    | "call" => alone isHeadEnd (readInvoke rest)
    | "endcall" => closing .closeInvoke
    | "block" => alone isHeadEnd (readBlock rest)
    | "endblock" =>
      match rest with
      | [] => some (.closeBlock none)
      | [⟨.name name, _⟩] => some (.closeBlock (some name))
      | _ => none
    | "autoescape" => (alone isHeadEnd (readExpression rest)).map .openEscaping
    | "endautoescape" => closing .closeEscaping
    | "print" => (readOutputs rest).map .nodes
    | "extends" => single ((readExpression rest).map fun read => (.extend read.1, read.2))
    | "include" => single (readInsert rest)
    | "import" => single (readBorrow rest)
    | "from" => single (readBorrowFrom rest)
    | _ => none
  | _ => none

/-! ## Blocks -/

/-- A block that is still open, with what is known of it before the body under way. -/
inductive Frame
  | branch (earlier : List (Expression × List Node)) (condition : Expression)
  | otherwise (branches : List (Expression × List Node))
  | loop (head : LoopHead)
  | loopOtherwise (head : LoopHead) (body : List Node)
  | capture (target : Target) (value : Expression)
  | filtered (value : Expression)
  | scope (bindings : List (Target × Expression))
  | snippet (name : String) (signature : Signature)
  | invoke (call : Expression) (signature : Signature)
  | block (name : String) (marks : BlockMarks)
  | escaping (mode : Expression)

/-- An open block, and the nodes in front of it, the latest first. -/
structure Level where
  frame : Frame
  outer : List Node

/-- A template under way: the open blocks, innermost first, and the nodes of the innermost body, the
latest first. -/
structure Progress where
  levels : List Level := []
  nodes : List Node := []

/-- Whether a node is a text of blanks. -/
def Node.isBlank : Node → Bool
  | .plain text => !text.isEmpty && text.all Character.isBlank
  | _ => false

namespace Progress

/-- Add a node. -/
def add (progress : Progress) (node : Node) : Progress :=
  { progress with nodes := node :: progress.nodes }

/-- Open a block. -/
def enter (progress : Progress) (frame : Frame) : Progress :=
  ⟨⟨frame, progress.nodes⟩ :: progress.levels, []⟩

/-- What a tag makes of a body and the frame around it: another frame, or a finished node. -/
def turn? (tag : Tag) (frame : Frame) (body : List Node) : Option (Frame ⊕ Node) :=
  match tag, frame with
  | .elseIf next, .branch earlier condition =>
    some (.inl (.branch (earlier ++ [(condition, body)]) next))
  | .otherwise, .branch earlier condition =>
    some (.inl (.otherwise (earlier ++ [(condition, body)])))
  | .closeIf, .branch earlier condition =>
    some (.inr (.conditional (earlier ++ [(condition, body)]) []))
  | .closeIf, .otherwise branches => some (.inr (.conditional branches body))
  | .otherwise, .loop head => some (.inl (.loopOtherwise head body))
  | .closeFor, .loop head => some (.inr (.loop head body []))
  | .closeFor, .loopOtherwise head first => some (.inr (.loop head first body))
  | .closeSet, .capture target value => some (.inr (.capture target value body))
  | .closeFilter, .filtered value => some (.inr (.filtered value body))
  | .closeWith, .scope bindings => some (.inr (.scope bindings body))
  | .closeSnippet, .snippet name signature => some (.inr (.snippet name signature body))
  | .closeInvoke, .invoke call signature => some (.inr (.invoke call signature body))
  | .closeBlock name?, .block name marks =>
    if name?.all (· == name) && (!marks.mustBeFilled || body.all Node.isBlank) then
      some (.inr (.block name marks body))
    else none
  | .closeEscaping, .escaping mode => some (.inr (.escaping mode body))
  | _, _ => none

/-- Go on or close the innermost block. -/
def turnInnermost? (progress : Progress) (tag : Tag) : Option Progress :=
  match progress.levels with
  | [] => none
  | level :: levels =>
    match turn? tag level.frame progress.nodes.reverse with
    | some (.inl frame) => some ⟨⟨frame, level.outer⟩ :: levels, []⟩
    | some (.inr node) => some ⟨levels, node :: level.outer⟩
    | none => none

/-- Take a block tag into account. -/
def takeTag? (progress : Progress) (tag : Tag) : Option Progress :=
  match tag with
  | .openIf condition => some (progress.enter (.branch [] condition))
  | .openFor head => some (progress.enter (.loop head))
  | .assign target value => some (progress.add (.assign target value))
  | .openSet target value => some (progress.enter (.capture target value))
  | .openFilter value => some (progress.enter (.filtered value))
  | .openWith bindings => some (progress.enter (.scope bindings))
  | .openSnippet name signature => some (progress.enter (.snippet name signature))
  | .openInvoke call signature => some (progress.enter (.invoke call signature))
  | .openBlock name marks => some (progress.enter (.block name marks))
  | .openEscaping mode => some (progress.enter (.escaping mode))
  | .nodes nodes => some (nodes.foldl add progress)
  | _ => progress.turnInnermost? tag

/-- Take a piece into account. -/
def take? (progress : Progress) (piece : Piece) : Option Progress :=
  match piece with
  | .plain text => some (progress.add (.plain text))
  | .output tokens =>
    (alone List.isEmpty (readOpenTuple readExpression atTupleEnd tokens)).map fun expression =>
      progress.add (.output expression)
  | .block tokens => (readBlockTag? tokens).bind progress.takeTag?

end Progress

/-- Why pieces make no nodes. -/
inductive ReadingFault
  | illFormed
  | faultyNumber (fault : NumberFault)

/-- Why the first number without a value in a piece has none, if there is such a number. -/
def Piece.fault? : Piece → Option NumberFault
  | .plain _ => none
  | .output tokens | .block tokens =>
    tokens.findSome? fun token =>
      match token.lexeme with
      | .faulty fault => some fault
      | _ => none

/-- The nodes that pieces make, if every block that they open is closed. -/
def readNodes (pieces : List Piece) : Except ReadingFault (List Node) := do
  let progress ← pieces.foldlM (fun progress piece =>
    match piece.fault?, Progress.take? progress piece with
    | some fault, _ => throw (.faultyNumber fault)
    | none, some progress => pure progress
    | none, none => throw .illFormed) ({} : Progress)
  if progress.levels.isEmpty then return progress.nodes.reverse else throw .illFormed

end SetupScript.Template
