import SetupScript.Document.Expression

/-!
# Statements of settings documents

A document is a sequence of attributes, `name = value`, and blocks, which have a kind, labels and a
body of statements.  The body of a block means a mapping: an attribute gives the value of its name,
and the blocks of one kind together give a list.  No name may be an attribute and something else.
-/

namespace SetupScript.Document

/-! ## Reading -/

/-- A statement. -/
inductive Statement
  | assignment (name : String) (value : Datum)
  | block (kind : String) (labels : List String) (body : List Statement)

mutual

/-- The labels of a block up to its opening brace. -/
def readLabels : Nat → Reader (List String)
  | 0, _ => none
  | depth + 1, text =>
    match skipGap text with
    | '"' :: rest => do
      let (held, rest) ← readQuoted depth rest
      let (labels, rest) ← readLabels depth rest
      return (String.ofList (Term.withoutQuotes held) :: labels, rest)
    | text =>
      match readName? text with
      | some (label, rest) => do
        let (labels, rest) ← readLabels depth rest
        return (label :: labels, rest)
      | none => return ([], ← afterSymbol? "\x7b" (skipLineEnds text))

/-- The statements at the front of a text, which need no line ends between them, and the rest behind
the line ends there. -/
def readStatements : Nat → Reader (List Statement)
  | 0, _ => none
  | depth + 1, text =>
    let text := skipLineEnds text
    match readName? text with
    | none => some ([], text)
    | some (name, rest) => do
      let (statement, rest) ←
        match afterEquals? rest with
        | some rest => do
          let (value, rest) ← readExpression depth false rest
          pure (Statement.assignment name value.datum, rest)
        | none => do
          let (labels, rest) ← readLabels depth rest
          let (body, rest) ← readStatements depth rest
          pure (Statement.block name labels body, ← afterSymbol? "\x7d" rest)
      let (statements, rest) ← readStatements depth rest
      return (statement :: statements, rest)

end

/-! ## Meaning -/

/-- What a name means in a body: the value of an attribute, or the list of its blocks. -/
inductive Slot
  | single (value : Datum)
  | blocks (bodies : List Datum)

/-- The value of a slot. -/
def Slot.datum : Slot → Datum
  | .single value => value
  | .blocks bodies => .list bodies

/-- Add an attribute, whose name must be new. -/
def addAttribute (slots : List (String × Slot)) (name : String) (value : Datum) :
    Option (List (String × Slot)) :=
  match slots.lookup name with
  | none => some (slots ++ [(name, .single value)])
  | some _ => none

/-- Add a block to those of its kind, which must not be the name of an attribute. -/
def addBlock (slots : List (String × Slot)) (kind : String) (body : Datum) :
    Option (List (String × Slot)) :=
  match slots.lookup kind with
  | none => some (slots ++ [(kind, .blocks [body])])
  | some (.blocks bodies) =>
    some (slots.map fun slot => if slot.1 = kind then (kind, .blocks (bodies ++ [body])) else slot)
  | some (.single _) => none

/-- The entries of the slots. -/
def entriesOf (slots : List (String × Slot)) : List (Datum.Key × Datum) :=
  slots.map fun slot => (.text slot.1, slot.2.datum)

/-- A body inside its labels, the first outermost. -/
def labelled (labels : List String) (body : Datum) : Datum :=
  labels.foldr (fun label inner => .mapping [(.text label, inner)]) body

mutual

/-- Add the meaning of a statement to that of those before it. -/
def Statement.addTo? (slots : List (String × Slot)) : Statement → Option (List (String × Slot))
  | .assignment name value => addAttribute slots name value
  | .block kind labels body => do
    let inner ← addAll? [] body
    addBlock slots kind (labelled labels (.mapping (entriesOf inner)))

/-- Add the meaning of statements to that of those before them. -/
def addAll? (slots : List (String × Slot)) : List Statement → Option (List (String × Slot))
  | [] => some slots
  | statement :: statements => do
    let slots ← statement.addTo? slots
    addAll? slots statements

end

end SetupScript.Document
