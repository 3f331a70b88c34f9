import SetupScript.Template.Expression
import SetupScript.Template.Token

/-!
# Reading expressions

Readers come in layers, from the tightest binding to the loosest; an expression in brackets is read
one level deeper, and no expression is nested more deeply than it has tokens.
-/

namespace SetupScript.Template

/-! ## Readers -/

/-- Reads something from the front of a token list and leaves the rest. -/
abbrev Reader (Result : Type) := List Token → Option (Result × List Token)

/-- Whether a symbol stands at the front. -/
def atSymbol (symbol : String) : List Token → Bool
  | ⟨.symbol found, _⟩ :: _ => found == symbol
  | _ => false

/-- Whether a name stands at the front. -/
def atName (name : String) : List Token → Bool
  | ⟨.name found, _⟩ :: _ => found == name
  | _ => false

/-- Pass over a symbol. -/
def expectSymbol (symbol : String) (tokens : List Token) : Option (List Token) :=
  if atSymbol symbol tokens then some tokens.tail else none

/-- Pass over a symbol if it is there. -/
def skipSymbol (symbol : String) (tokens : List Token) : List Token :=
  if atSymbol symbol tokens then tokens.tail else tokens

/-- Read a name. -/
def readName : Reader String
  | ⟨.name name, _⟩ :: rest => some (name, rest)
  | _ => none

/-- Read operands between operators and combine them from left to right, the first being read. -/
def chainFrom (operand : Reader Expression)
    (operators : List (String × (Expression → Expression → Expression))) (left : Expression)
    (tokens : List Token) : Option (Expression × List Token) :=
  match tokens with
  | ⟨.symbol symbol, _⟩ :: rest =>
    match operators.lookup symbol with
    | none => some (left, tokens)
    | some combine =>
      match operand rest with
      | none => none
      | some (right, after) =>
        if after.length ≤ rest.length then chainFrom operand operators (combine left right) after
        else none
  | _ => some (left, tokens)
termination_by tokens.length
decreasing_by simp only [List.length_cons]; omega

/-- Read operands between operators and combine them from left to right. -/
def chain (operand : Reader Expression)
    (operators : List (String × (Expression → Expression → Expression))) : Reader Expression :=
  fun tokens => do
    let (left, rest) ← operand tokens
    chainFrom operand operators left rest

/-- Read operands between words and combine them from left to right, the first being read. -/
def wordChainFrom (operand : Reader Expression) (word : String)
    (combine : Expression → Expression → Expression) (left : Expression) (tokens : List Token) :
    Option (Expression × List Token) :=
  match tokens with
  | ⟨.name found, _⟩ :: rest =>
    if found = word then
      match operand rest with
      | none => none
      | some (right, after) =>
        if after.length ≤ rest.length then wordChainFrom operand word combine (combine left right) after
        else none
    else some (left, tokens)
  | _ => some (left, tokens)
termination_by tokens.length
decreasing_by simp only [List.length_cons]; omega

/-- Read operands between words and combine them from left to right. -/
def wordChain (operand : Reader Expression) (word : String)
    (combine : Expression → Expression → Expression) : Reader Expression :=
  fun tokens => do
    let (left, rest) ← operand tokens
    wordChainFrom operand word combine left rest

/-- Read items between commas up to a closing symbol, which is passed over.  A comma may follow the
last item. -/
def separated {Item : Type} (item : Reader Item) (closing : String) (tokens : List Token) :
    Option (List Item × List Token) :=
  if atSymbol closing tokens then some ([], tokens.tail)
  else
    match item tokens with
    | none => none
    | some (first, rest) =>
      if atSymbol closing rest then some ([first], rest.tail)
      else
        match expectSymbol "," rest with
        | none => none
        | some rest =>
          if rest.length < tokens.length then
            (separated item closing rest).map fun read => (first :: read.1, read.2)
          else none
termination_by tokens.length

/-! ## Primaries -/

/-- The words that are values. -/
def constantOf? (name : String) : Option Literal :=
  if name = "true" ∨ name = "True" then some (.boolean true)
  else if name = "false" ∨ name = "False" then some (.boolean false)
  else if name = "none" ∨ name = "None" then some .none
  else none

/-- The texts at the front, which count as one. -/
def readTexts : List Token → String × List Token
  | ⟨.text value, _⟩ :: rest =>
    let (more, after) := readTexts rest
    (value ++ more, after)
  | rest => ("", rest)

/-- Read the items of a tuple up to where it may end; the answer says whether a comma stood behind
the first one. -/
def readTupleItems {Item : Type} (item : Reader Item) (isEnd : List Token → Bool)
    (tokens : List Token) : Option ((List Item × Bool) × List Token) :=
  if isEnd tokens then some (([], false), tokens)
  else
    match item tokens with
    | none => none
    | some (first, rest) =>
      match expectSymbol "," rest with
      | none => some (([first], false), rest)
      | some rest =>
        if rest.length < tokens.length then
          (readTupleItems item isEnd rest).map fun read => ((first :: read.1.1, true), read.2)
        else none
termination_by tokens.length

/-- Read a tuple, or the single expression that stands without a comma.  Only in brackets a tuple
may be empty. -/
def readTuple (item : Reader Expression) (isEnd : List Token → Bool) (bracketed : Bool) :
    Reader Expression :=
  fun tokens => do
    let ((items, isTuple), rest) ← readTupleItems item isEnd tokens
    if isTuple then return (.tuple items, rest)
    else
      match items with
      | item :: _ => return (item, rest)
      | [] => if bracketed then return (.tuple [], rest) else none

/-- Whether a tuple in round brackets ends here. -/
def atTupleEnd (tokens : List Token) : Bool :=
  tokens.isEmpty || atSymbol ")" tokens

/-- Read an entry of a mapping. -/
def readEntry (nested : Reader Expression) : Reader (Expression × Expression) :=
  fun tokens => do
    let (key, rest) ← nested tokens
    let rest ← expectSymbol ":" rest
    let (value, rest) ← nested rest
    return ((key, value), rest)

/-- Read a name, a literal or an expression in brackets. -/
def readPrimary (nested : Reader Expression) : Reader Expression
  | ⟨.name name, _⟩ :: rest =>
    match constantOf? name with
    | some value => some (.constant value, rest)
    | none => some (.name name, rest)
  | tokens@(⟨.text _, _⟩ :: _) =>
    let (value, rest) := readTexts tokens
    some (.constant (.text value), rest)
  | ⟨.integer value, _⟩ :: rest => some (.constant (.integer value), rest)
  | ⟨.decimal value, _⟩ :: rest => some (.constant (.decimal value), rest)
  | ⟨.symbol "(", _⟩ :: rest => do
    let (inner, rest) ← readTuple nested atTupleEnd true rest
    return (inner, ← expectSymbol ")" rest)
  | ⟨.symbol "[", _⟩ :: rest => do
    let (items, rest) ← separated nested "]" rest
    return (.list items, rest)
  | ⟨.symbol "\x7b", _⟩ :: rest => do
    let (entries, rest) ← separated (readEntry nested) "\x7d" rest
    return (.mapping entries, rest)
  | _ => none

/-! ## Arguments, attributes, items -/

/-- Read one argument. -/
def readArgument (nested : Reader Expression) : Reader (Role × Expression)
  | ⟨.symbol "*", _⟩ :: rest => (nested rest).map fun read => ((.items, read.1), read.2)
  | ⟨.symbol "**", _⟩ :: rest => (nested rest).map fun read => ((.entries, read.1), read.2)
  | ⟨.name name, _⟩ :: ⟨.symbol "=", _⟩ :: rest =>
    (nested rest).map fun read => ((.name name, read.1), read.2)
  | tokens => (nested tokens).map fun read => ((.place, read.1), read.2)

/-- Whether an argument may follow others. -/
def mayFollow (earlier : Arguments) : Role → Bool
  | .place => earlier.all fun argument =>
    match argument.1 with
    | .place => true
    | _ => false
  | .name _ => earlier.all fun argument =>
    match argument.1 with
    | .entries => false
    | _ => true
  | .items => earlier.all fun argument =>
    match argument.1 with
    | .items | .entries => false
    | _ => true
  | .entries => earlier.all fun argument =>
    match argument.1 with
    | .entries => false
    | _ => true

/-- Whether every argument may follow those in front of it. -/
def areOrdered (earlier : Arguments) : Arguments → Bool
  | [] => true
  | argument :: arguments =>
    mayFollow earlier argument.1 && areOrdered (earlier ++ [argument]) arguments

/-- Arguments in the order in which their values are found: those by place, the items of a sequence,
those by name, the entries of a mapping. -/
def arranged (arguments : Arguments) : Arguments :=
  let rank (argument : Role × Expression) : Nat :=
    match argument.1 with
    | .place => 0
    | .items => 1
    | .name _ => 2
    | .entries => 3
  (List.range 4).flatMap fun place => arguments.filter fun argument => rank argument == place

/-- Read the arguments of a call behind its opening bracket. -/
def readArguments (nested : Reader Expression) : Reader Arguments :=
  fun tokens => do
    let (arguments, rest) ← separated (readArgument nested) ")" tokens
    if areOrdered [] arguments then return (arranged arguments, rest) else none

/-- Read the part of a slice behind a colon, if there is one. -/
def readSlicePart (nested : Reader Expression) (tokens : List Token) :
    Option (Option Expression × List Token) :=
  if atSymbol ":" tokens || atSymbol "]" tokens || atSymbol "," tokens then some (none, tokens)
  else (nested tokens).map fun read => (some read.1, read.2)

/-- Read what follows the start of a slice and the first colon. -/
def readSlice (nested : Reader Expression) (start : Option Expression) : Reader Expression :=
  fun tokens => do
    let (stop, rest) ← readSlicePart nested tokens
    if atSymbol ":" rest then
      let (step, rest) ← readSlicePart nested rest.tail
      return (.slice start stop step, rest)
    else return (.slice start stop none, rest)

/-- Read an index or a slice. -/
def readIndex (nested : Reader Expression) : Reader Expression :=
  fun tokens => do
    if atSymbol ":" tokens then readSlice nested none tokens.tail
    else
      let (index, rest) ← nested tokens
      if atSymbol ":" rest then readSlice nested (some index) rest.tail else return (index, rest)

/-- Read more indices, each behind a comma, up to the closing bracket. -/
def readIndices (nested : Reader Expression) (tokens : List Token) :
    Option (List Expression × List Token) :=
  if atSymbol "]" tokens then some ([], tokens.tail)
  else
    match expectSymbol "," tokens with
    | none => none
    | some rest =>
      match readIndex nested rest with
      | none => none
      | some (index, after) =>
        if after.length < tokens.length then
          (readIndices nested after).map fun read => (index :: read.1, read.2)
        else none
termination_by tokens.length

/-- Read what stands in square brackets behind the opening one: a single index, or several, or none. -/
def readSubscript (nested : Reader Expression) (object : Expression) : Reader Expression :=
  fun tokens => do
    if atSymbol "]" tokens then return (.item object (.tuple []), tokens.tail)
    else
      let (first, rest) ← readIndex nested tokens
      let (more, rest) ← readIndices nested rest
      return (.item object (if more.isEmpty then first else .tuple (first :: more)), rest)

/-- Read one attribute, index or call behind an expression, if there is one. -/
def readSuffix? (nested : Reader Expression) (object : Expression) (tokens : List Token) :
    Option (Option (Expression × List Token)) :=
  match tokens with
  | ⟨.symbol ".", _⟩ :: ⟨.name name, _⟩ :: rest => some (some (.attribute object name, rest))
  | ⟨.symbol ".", _⟩ :: ⟨.integer index, _⟩ :: rest =>
    some (some (.item object (.constant (.integer index)), rest))
  | ⟨.symbol ".", _⟩ :: _ => none
  | ⟨.symbol "[", _⟩ :: rest => (readSubscript nested object rest).map some
  | ⟨.symbol "(", _⟩ :: rest =>
    (readArguments nested rest).map fun read => some (.call object read.1, read.2)
  | _ => some none

/-- Read as many suffixes as there are. -/
def readAll (suffix? : Expression → List Token → Option (Option (Expression × List Token)))
    (object : Expression) (tokens : List Token) : Option (Expression × List Token) :=
  match suffix? object tokens with
  | none => none
  | some none => some (object, tokens)
  | some (some (longer, rest)) =>
    if rest.length < tokens.length then readAll suffix? longer rest else none
termination_by tokens.length

/-- Read the attributes, indices and calls behind an expression. -/
def readPostfix (nested : Reader Expression) (object : Expression) : Reader Expression :=
  readAll (readSuffix? nested) object

/-! ## Filters and tests -/

/-- Read a name with dots in it. -/
def readDotted : List Token → Option (String × List Token)
  | ⟨.name name, _⟩ :: ⟨.symbol ".", _⟩ :: rest =>
    (readDotted rest).map fun read => (name ++ "." ++ read.1, read.2)
  | ⟨.name name, _⟩ :: rest => some (name, rest)
  | _ => none

/-- Read a filter behind its bar: a name and arguments that may be missing. -/
def readFilter (nested : Reader Expression) : Reader (String × Arguments) :=
  fun tokens => do
    let (name, rest) ← readDotted tokens
    if atSymbol "(" rest then
      let (arguments, rest) ← readArguments nested rest.tail
      return ((name, arguments), rest)
    else return ((name, []), rest)

/-- Whether an argument without brackets stands behind the name of a test. -/
def atBareArgument : List Token → Bool
  | ⟨.name name, _⟩ :: _ => !(["else", "or", "and"].contains name)
  | ⟨.text _, _⟩ :: _ | ⟨.integer _, _⟩ :: _ | ⟨.faulty _, _⟩ :: _ | ⟨.decimal _, _⟩ :: _ => true
  | ⟨.symbol symbol, _⟩ :: _ => ["[", "\x7b"].contains symbol
  | [] => false

/-- Read the arguments of a test: in brackets, or a single one without them, or none. -/
def readTestArguments (nested : Reader Expression) : Reader Arguments :=
  fun tokens =>
    if atSymbol "(" tokens then readArguments nested tokens.tail
    else if atBareArgument tokens then
      if atName "is" tokens then none
      else do
        let (primary, rest) ← readPrimary nested tokens
        let (argument, rest) ← readPostfix nested primary rest
        return ([(.place, argument)], rest)
    else some ([], tokens)

/-- Read a test behind its `is`. -/
def readTest (nested : Reader Expression) (subject : Expression) : Reader Expression :=
  fun tokens => do
    let negated := atName "not" tokens
    let (name, rest) ← readDotted (if negated then tokens.tail else tokens)
    let (arguments, rest) ← readTestArguments nested rest
    let test := Expression.test subject name arguments
    return (if negated then .not test else test, rest)

/-- Read one filter, test or call behind an expression, if there is one. -/
def readFiltering? (nested : Reader Expression) (subject : Expression) (tokens : List Token) :
    Option (Option (Expression × List Token)) :=
  match tokens with
  | ⟨.symbol "|", _⟩ :: rest =>
    (readFilter nested rest).map fun ((name, arguments), rest) =>
      some (.filter subject name arguments, rest)
  | ⟨.name "is", _⟩ :: rest => (readTest nested subject rest).map some
  | ⟨.symbol "(", _⟩ :: rest =>
    (readArguments nested rest).map fun read => some (.call subject read.1, read.2)
  | _ => some none

/-! ## Operators -/

/-- The signs at the front, outermost first. -/
def readSigns : List Token → List (Expression → Expression) × List Token
  | ⟨.symbol "-", _⟩ :: rest =>
    let (signs, after) := readSigns rest
    (.negate :: signs, after)
  | ⟨.symbol "+", _⟩ :: rest =>
    let (signs, after) := readSigns rest
    (.affirm :: signs, after)
  | rest => ([], rest)

/-- Read a primary with its signs, suffixes, filters and tests.  Signs bind tighter than filters. -/
def readUnary (nested : Reader Expression) : Reader Expression :=
  fun tokens => do
    let (signs, rest) := readSigns tokens
    let (primary, rest) ← readPrimary nested rest
    let (object, rest) ← readPostfix nested primary rest
    let signed := signs.foldr (fun sign operand => sign operand) object
    readAll (readFiltering? nested) signed rest

/-- Read powers, which combine from left to right. -/
def readPower (nested : Reader Expression) : Reader Expression :=
  chain (readUnary nested) [("**", .arithmetic .power)]

/-- Read products and quotients. -/
def readProduct (nested : Reader Expression) : Reader Expression :=
  chain (readPower nested)
    [("*", .arithmetic .multiply), ("/", .arithmetic .divide), ("//", .arithmetic .divideFloor),
      ("%", .arithmetic .remainder)]

/-- Read joined texts. -/
def readConcatenation (nested : Reader Expression) : Reader Expression :=
  chain (readProduct nested) [("~", fun left right =>
    match left with
    | .concatenate parts => .concatenate (parts ++ [right])
    | _ => .concatenate [left, right])]

/-- Read sums and differences. -/
def readSum (nested : Reader Expression) : Reader Expression :=
  chain (readConcatenation nested) [("+", .arithmetic .add), ("-", .arithmetic .subtract)]

/-- The comparison at the front, if there is one, and what follows its operator. -/
def readComparison? : List Token → Option (Comparison × List Token)
  | ⟨.symbol "==", _⟩ :: rest => some (.equal, rest)
  | ⟨.symbol "!=", _⟩ :: rest => some (.unequal, rest)
  | ⟨.symbol "<", _⟩ :: rest => some (.less, rest)
  | ⟨.symbol "<=", _⟩ :: rest => some (.lessOrEqual, rest)
  | ⟨.symbol ">", _⟩ :: rest => some (.greater, rest)
  | ⟨.symbol ">=", _⟩ :: rest => some (.greaterOrEqual, rest)
  | ⟨.name "in", _⟩ :: rest => some (.isIn, rest)
  | ⟨.name "not", _⟩ :: ⟨.name "in", _⟩ :: rest => some (.isNotIn, rest)
  | _ => none

/-- Read the comparisons behind a first operand. -/
def readComparisons (operand : Reader Expression) (tokens : List Token) :
    Option (List (Comparison × Expression) × List Token) :=
  match readComparison? tokens with
  | none => some ([], tokens)
  | some (comparison, rest) =>
    match operand rest with
    | none => none
    | some (right, after) =>
      if after.length < tokens.length then
        (readComparisons operand after).map fun read => ((comparison, right) :: read.1, read.2)
      else none
termination_by tokens.length

/-- Read comparisons, of which several may be chained. -/
def readCompare (nested : Reader Expression) : Reader Expression :=
  fun tokens => do
    let (first, rest) ← readSum nested tokens
    let (comparisons, rest) ← readComparisons (readSum nested) rest
    return (if comparisons.isEmpty then first else .compare first comparisons, rest)

/-- Read negations. -/
def readNot (nested : Reader Expression) : Reader Expression
  | ⟨.name "not", _⟩ :: rest => (readNot nested rest).map fun read => (.not read.1, read.2)
  | tokens => readCompare nested tokens

/-- Read conjunctions. -/
def readAnd (nested : Reader Expression) : Reader Expression :=
  wordChain (readNot nested) "and" .and

/-- Read disjunctions. -/
def readOr (nested : Reader Expression) : Reader Expression :=
  wordChain (readAnd nested) "or" .or

/-- Read the conditions behind an expression. -/
def readChoices (nested : Reader Expression) (line : Nat) (consequence : Expression)
    (tokens : List Token) : Option (Expression × List Token) :=
  match tokens with
  | ⟨.name "if", _⟩ :: rest =>
    match readOr nested rest with
    | none => none
    | some (condition, after) =>
      if after.length ≤ rest.length then
        if atName "else" after then do
          let (alternative, after) ← nested after.tail
          return (.choose condition consequence alternative, after)
        else
          let line' := (after.head?.map Token.line).getD line
          readChoices nested line' (.chooseOnly line condition consequence) after
      else none
  | _ => some (consequence, tokens)
termination_by tokens.length
decreasing_by simp only [List.length_cons]; omega

/-- Read a conditional expression. -/
def readConditional (nested : Reader Expression) : Reader Expression :=
  fun tokens => do
    let (consequence, rest) ← readOr nested tokens
    readChoices nested ((tokens.head?.map Token.line).getD 1) consequence rest

/-! ## Whole expressions -/

/-- Read an expression that is nested at most so deeply. -/
def readNested : Nat → Reader Expression
  | 0 => fun _ => none
  | depth + 1 => readConditional (readNested depth)

/-- Read an expression. -/
def readExpression : Reader Expression :=
  fun tokens => readNested (tokens.length + 1) tokens

/-- Read a disjunction, which is an expression without a condition behind it. -/
def readDisjunction : Reader Expression :=
  fun tokens => readOr (readNested (tokens.length + 1)) tokens

/-- Read an expression or a tuple without brackets. -/
def readOpenTuple (item : Reader Expression) (isEnd : List Token → Bool) : Reader Expression :=
  readTuple item isEnd false

end SetupScript.Template
