import SetupScript.Document.Term

/-!
# Expressions of settings documents

An expression is a number, a text, a name, a list, a mapping, a call, or several of them with
operators, attributes and indices.  Only plain values are worked out; everything else gives a formula.
Brackets around an expression leave no trace.  Every reader takes the depth to which it may still
descend.
-/

namespace SetupScript.Document

/-! ## Operators -/

/-- The binary operators, longer ones before those they begin with. -/
def operators : List String :=
  ["==", "!=", "<=", ">=", "&&", "||", "<", ">", "-", "*", "/", "%", "+"]

/-- The operator at the front of a text, unless a comment stands there, and the rest. -/
def readOperator? : Reader String := fun text =>
  let text := skipGap text
  if (afterLineEnd? text).isSome then none
  else
    match operators.find? fun operator => operator.toList.isPrefixOf text with
    | some operator => some (operator, text.drop operator.length)
    | none => none

/-- The formula of two operands. -/
def joined (left : Term) (operator : String) (right : Term) : Term :=
  .formula (left.operand ++ ' ' :: operator.toList ++ ' ' :: right.operand)

/-- The formula of a choice. -/
def choice (condition yes no : Term) : Term :=
  .formula (condition.plain ++ " ? ".toList ++ yes.plain ++ " : ".toList ++ no.plain)

/-- Several texts with a text between them. -/
def separated (separator : String) (texts : List (List Char)) : List Char :=
  List.intercalate separator.toList texts

/-! ## Words and separators -/

/-- What follows the word `for`, if it stands here and opens a loop: a line end or a name follows it.
In a list, a line end in front of it is enough. -/
def afterFor? (isMapping : Bool) (text : List Char) : Option (List Char) := do
  let (word, rest) ← readName? (skipLineEnds text)
  if word = "for" ∧ ((!isMapping && breaksLine text) || breaksLine rest ||
      (skipGap rest).head?.any opensName) then some rest
  else none

/-- What follows a word, if it stands here. -/
def afterWord? (word : String) (text : List Char) : Option (List Char) := do
  let (found, rest) ← readName? text
  if found = word then some rest else none

/-- What separates the entries of a mapping: a comma or line ends.  Line ends are left to be read. -/
def afterSeparator? (text : List Char) : Option (List Char) :=
  match afterSymbol? "," text with
  | some rest => some rest
  | none => if breaksLine text then some text else none

/-- What follows the sign between the key and the value of an entry. -/
def afterAssignment? (text : List Char) : Option (List Char) :=
  match afterSymbol? "::" text with
  | some _ => none
  | none => (afterEquals? text).or (afterSymbol? ":" text)

/-! ## Readers -/

mutual

/-- An expression, in front of which line ends may stand if `lines` holds. -/
def readExpression : Nat → Bool → Reader Term
  | 0, _, _ => none
  | depth + 1, lines, text => do
    let (operand, rest) ← readOperand depth lines text
    readOperations depth operand rest

/-- What follows a first operand.  Operators are read from the right, so that a formula is the same
whichever of them binds tighter.  Line ends behind an operation belong to it, but no hyphen may
follow them. -/
def readOperations : Nat → Term → Reader Term
  | 0, _, _ => none
  | depth + 1, left, text =>
    match readOperator? text with
    | some (operator, rest) => do
      let (right, rest) ← readExpression depth true rest
      if breaksLine rest && (skipLineEnds rest).head? == some '-' then none
      else readOperations depth (joined left operator right) (skipLineEnds rest)
    | none =>
      match afterSymbol? "?" text with
      | some rest => do
        let (yes, rest) ← readExpression depth true rest
        let rest ← afterSymbol? ":" (skipLineEnds rest)
        let (no, rest) ← readExpression depth true rest
        return (choice left yes no, rest)
      | none => some (left, text)

/-- An operand: a term, perhaps behind a sign.  A hyphen right behind a line end is a sign and no part
of a number. -/
def readOperand : Nat → Bool → Reader Term
  | 0, _, _ => none
  | depth + 1, lines, text =>
    let isFirst := lines && breaksLine text
    let text := if lines then skipLineEnds text else skipGap text
    match text with
    | '-' :: rest =>
      if atNumber text && !isFirst then readSuffixed depth text
      else (readSuffixed depth rest).map fun read => (.formula ('-' :: read.1.operand), read.2)
    | '!' :: rest =>
      (readSuffixed depth rest).map fun read => (.formula ('!' :: read.1.operand), read.2)
    | _ => readSuffixed depth text

/-- A term with the attributes and indices behind it. -/
def readSuffixed : Nat → Reader Term
  | 0, _ => none
  | depth + 1, text => do
    let (term, rest) ← readTerm depth text
    readSuffixes depth false term rest

/-- The attributes, indices and stars behind a term.  Behind a star with only attributes in between
there are no positions. -/
def readSuffixes : Nat → Bool → Term → Reader Term
  | 0, _, _, _ => none
  | depth + 1, starred, term, text =>
    match readSuffix depth starred text with
    | none => none
    | some (none, _) => some (term, text)
    | some (some (starred, suffix), rest) =>
      readSuffixes depth starred (.formula (term.plain ++ suffix)) rest

/-- One attribute, index or star, if there is one, and whether a star stands in front of what
follows.  Of a position behind a dot only the first digit counts. -/
def readSuffix : Nat → Bool → Reader (Option (Bool × List Char))
  | 0, _, _ => none
  | depth + 1, starred, text =>
    match skipGap text with
    | '[' :: '*' :: ']' :: rest => some (some (false, "[*]".toList), rest)
    | '[' :: rest => do
      let (index, rest) ← readExpression depth true rest
      let rest ← afterSymbol? "]" (skipLineEnds rest)
      return (some (false, '[' :: index.plain ++ [']']), rest)
    | '.' :: '*' :: rest => some (some (true, ".*".toList), rest)
    | '.' :: '.' :: '.' :: _ => some (none, text)
    | '.' :: rest =>
      match readName? rest, readDigits rest with
      | some (name, rest), _ => some (some (starred, '.' :: name.toList), rest)
      | none, (digit :: _, rest) =>
        if starred || (readExponent rest).1.isSome then none
        else some (some (false, ['[', digit, ']']), rest)
      | none, ([], _) => none
    | _ => some (none, text)

/-- A term without attributes and indices. -/
def readTerm : Nat → Reader Term
  | 0, _ => none
  | depth + 1, text =>
    let text := skipGap text
    if atNumber text then (readNumber? text).map fun read => (.value read.1, read.2)
    else
      match text with
      | '(' :: rest => do
        let (inner, rest) ← readExpression depth true rest
        return (inner, ← afterSymbol? ")" (skipLineEnds rest))
      | '"' :: rest => (readQuoted depth rest).map fun read => (.formula read.1, read.2)
      | '<' :: '<' :: rest =>
        (readTagged? rest).map fun read => (.formula ('"' :: read.1 ++ ['"']), read.2)
      | '[' :: rest =>
        match afterFor? false rest with
        | some rest => readLoop depth false rest
        | none => (readItems depth rest).map fun read => (.value (.list read.1), read.2)
      | '\x7b' :: rest =>
        match afterFor? true rest with
        | some rest => readLoop depth true rest
        | none => (readEntries depth [] rest).map fun read => (.value (.mapping read.1), read.2)
      | _ => do
        let (name, rest) ← readName? text
        readNamed depth name rest

/-- A name, or a call of the function of that name, whose name may have three parts. -/
def readNamed : Nat → String → Reader Term
  | 0, _, _ => none
  | depth + 1, name, text =>
    match afterSymbol? "::" text with
    | some rest => do
      let (second, rest) ← readName? rest
      let (third, rest) ← readName? (← afterSymbol? "::" rest)
      let rest ← afterSymbol? "(" rest
      let (arguments, rest) ← readArguments depth true rest
      let whole := String.intercalate "::" [name, second, third]
      return (.formula (whole.toList ++ '(' :: separated ", " arguments ++ [')']), rest)
    | none =>
      match afterSymbol? "(" text with
      | some rest => do
        let (arguments, rest) ← readArguments depth true rest
        return (.formula (name.toList ++ '(' :: separated ", " arguments ++ [')']), rest)
      | none => some (.ofName name, text)

/-- The arguments of a call up to its closing bracket, which may stand here if `mayClose` holds: a
comma in front of it must stand on the line of the last argument. -/
def readArguments : Nat → Bool → Reader (List (List Char))
  | 0, _, _ => none
  | depth + 1, mayClose, text =>
    match afterSymbol? ")" (skipLineEnds text) with
    | some rest => if mayClose then some ([], rest) else none
    | none => do
      let (argument, rest) ← readExpression depth true text
      let behind := skipLineEnds rest
      match afterSymbol? "," behind, afterSymbol? "..." rest with
      | some after, _ =>
        let (arguments, rest) ← readArguments depth (!breaksLine rest) after
        return (argument.operand :: arguments, rest)
      | none, some after => return ([argument.operand], ← afterSymbol? ")" (skipLineEnds after))
      | none, none => return ([argument.operand], ← afterSymbol? ")" behind)

/-- A quoted text behind its opening quote, with its quotes.  An insertion holds an expression that
must be a formula. -/
def readQuoted : Nat → Reader (List Char)
  | 0, _ => none
  | depth + 1, text =>
    match readLiteral? text with
    | some (held, rest) => some ('"' :: held ++ ['"'], rest)
    | none => (readParts depth text).map fun read => ('"' :: read.1 ++ ['"'], read.2)

/-- The parts of a quoted text with insertions up to its closing quote. -/
def readParts : Nat → Reader (List Char)
  | 0, _ => none
  | depth + 1, text =>
    match readPlain text with
    | (plain, '"' :: rest) => some (plain, rest)
    | (plain, '$' :: '\x7b' :: rest) => do
      let (term, rest) ← readExpression depth false rest
      let rest ← afterSymbol? "\x7d" rest
      match term with
      | .value _ => none
      | .formula held =>
        let (parts, rest) ← readParts depth rest
        return (plain ++ "$\x7b".toList ++ held ++ '\x7d' :: parts, rest)
    | _ => none

/-- The items of a list up to its closing bracket. -/
def readItems : Nat → Reader (List Datum)
  | 0, _ => none
  | depth + 1, text =>
    match afterSymbol? "]" (skipLineEnds text) with
    | some rest => some ([], rest)
    | none => do
      let (item, rest) ← readExpression depth true text
      let rest := skipLineEnds rest
      match afterSymbol? "," rest with
      | some rest =>
        let (items, rest) ← readItems depth rest
        return (item.datum :: items, rest)
      | none => return ([item.datum], ← afterSymbol? "]" rest)

/-- The key of an entry and what follows the sign behind it.  A name that stands alone is a text, and
so is a formula; a value that holds other values is no key. -/
def readKey : Nat → Reader Datum.Key
  | 0, _ => none
  | depth + 1, text =>
    match (readName? (skipLineEnds text)).bind fun (name, rest) =>
        (afterAssignment? rest).map fun rest => (name, rest) with
    | some (name, rest) => some (.text name, rest)
    | none => do
      let (term, rest) ← readExpression depth true text
      return (← term.key?, ← afterAssignment? rest)

/-- The entries of a mapping up to its closing brace, behind those that have been read. -/
def readEntries : Nat → List (Datum.Key × Datum) → Reader (List (Datum.Key × Datum))
  | 0, _, _ => none
  | depth + 1, entries, text =>
    match afterSymbol? "\x7d" (skipLineEnds text) with
    | some rest => some (entries, rest)
    | none => do
      let (key, rest) ← readKey depth text
      let (value, rest) ← readExpression depth false rest
      let entries := Datum.putEntry entries (key, value.datum)
      match afterSeparator? rest with
      | some rest => readEntries depth entries rest
      | none => return (entries, ← afterSymbol? "\x7d" rest)

/-- A loop behind its first word, which gives a list or a mapping. -/
def readLoop : Nat → Bool → Reader Term
  | 0, _, _ => none
  | depth + 1, isMapping, text => do
    let (first, rest) ← readName? (skipLineEnds text)
    let (names, rest) ← match afterSymbol? "," rest with
      | some rest => do
        let (second, rest) ← readName? rest
        pure ([first.toList, [','], second.toList], rest)
      | none => pure ([first.toList], rest)
    let rest ← afterWord? "in" (skipLineEnds rest)
    let (items, rest) ← readExpression depth true rest
    let rest ← afterSymbol? ":" (skipLineEnds rest)
    let (body, rest) ← readExpression depth true rest
    let (body, grouped, rest) ←
      if isMapping then do
        let rest ← afterSymbol? "=>" rest
        let (value, rest) ← readExpression depth true rest
        let grouped := afterSymbol? "..." rest
        pure ([body.operand, "=>".toList, value.operand] ++
          (if grouped.isSome then ["...".toList] else []), grouped.isSome, grouped.getD rest)
      else pure ([body.operand], false, rest)
    let afterIf := if grouped && !breaksLine rest then afterSymbol? "if" rest
      else afterWord? "if" (skipLineEnds rest)
    let (condition, rest) ← match afterIf with
      | some rest => do
        let (condition, rest) ← readExpression depth true rest
        pure (["if".toList, condition.operand], rest)
      | none => pure ([], rest)
    let rest ← afterSymbol? (if isMapping then "\x7d" else "]") (skipLineEnds rest)
    let whole := separated " " (["for".toList] ++ names ++ ["in".toList, items.operand, [':']] ++
      body ++ condition)
    return (.formula (if isMapping then '\x7b' :: whole ++ ['\x7d'] else '[' :: whole ++ [']']),
      rest)

end

end SetupScript.Document
