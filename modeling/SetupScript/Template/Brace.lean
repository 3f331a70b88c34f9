import SetupScript.Template.Layout

/-!
# Brace formats

A format is a text with fields in braces; a doubled brace stands for itself.  A field names a value, by its
place or by a name, with attributes and items behind it; says in which form the value is wanted; and says
in which layout.  A layout may have fields of its own.  What is ill formed matters only when all that
stands in front of it has been filled in.
-/

namespace SetupScript.Template.Brace

/-! ## Parts -/

/-- A field. -/
structure Field where
  name : List Char
  form? : Option Char := none
  layout : List Char := []

/-- A part of a format. -/
inductive Part
  | plain (character : Char)
  | field (field : Field)
  | illFormed

/-- The name of a field, which ends at a brace, a colon or an exclamation mark outside of square brackets,
and the rest. -/
def readName? (inBrackets : Bool) : List Char → Option (List Char × List Char)
  | [] => none
  | character :: rest =>
    if !inBrackets && character == '\x7b' then none
    else if !inBrackets && ['\x7d', ':', '!'].contains character then some ([], character :: rest)
    else
      let inside := if inBrackets then character != ']' else character == '['
      (readName? inside rest).map fun read => (character :: read.1, read.2)

/-- A layout up to the brace that closes its field, and the rest; `depth` counts the fields in it that are
open. -/
def readLayout? (depth : Nat) : List Char → Option (List Char × List Char)
  | [] => none
  | character :: rest =>
    if character = '\x7d' ∧ depth = 0 then some ([], rest)
    else
      let inner :=
        if character = '\x7b' then depth + 1 else if character = '\x7d' then depth - 1 else depth
      (readLayout? inner rest).map fun read => (character :: read.1, read.2)

/-- A field behind its brace, and the rest. -/
def readField? (text : List Char) : Option (Field × List Char) := do
  let (name, rest) ← readName? false text
  match rest with
  | '\x7d' :: rest => some ({ name := name }, rest)
  | ':' :: rest =>
    let (layout, rest) ← readLayout? 0 rest
    some ({ name := name, layout := layout }, rest)
  | '!' :: form :: '\x7d' :: rest => some ({ name := name, form? := some form }, rest)
  | '!' :: form :: ':' :: rest =>
    let (layout, rest) ← readLayout? 0 rest
    some ({ name := name, form? := some form, layout := layout }, rest)
  | _ => none

/-- The parts of a format, up to the first one that is ill formed. -/
def parts (text : List Char) : List Part :=
  match text with
  | [] => []
  | '\x7b' :: '\x7b' :: rest => .plain '\x7b' :: parts rest
  | '\x7d' :: '\x7d' :: rest => .plain '\x7d' :: parts rest
  | '\x7d' :: _ => [.illFormed]
  | '\x7b' :: rest =>
    match readField? rest with
    | some (field, after) =>
      if after.length ≤ rest.length then .field field :: parts after else [.illFormed]
    | none => [.illFormed]
  | character :: rest => .plain character :: parts rest
termination_by text.length
decreasing_by all_goals simp only [List.length_cons]; omega

/-! ## Names of fields -/

/-- A step from a value to another one. -/
inductive Step
  | attribute (name : List Char)
  | item (index : List Char)
  | illFormed

/-- The number that digits stand for. -/
def number? (text : List Char) : Option Nat :=
  match Layout.number? text with
  | (some number, []) => some number
  | _ => none

/-- Whether a character ends the name of a value. -/
def endsName (character : Char) : Bool :=
  character == '.' || character == '['

/-- The steps behind the name of a value. -/
def steps (text : List Char) : List Step :=
  match text with
  | [] => []
  | '.' :: rest =>
    let name := rest.takeWhile fun character => !endsName character
    if name.isEmpty then [.illFormed] else .attribute name :: steps (rest.drop name.length)
  | '[' :: rest =>
    let index := rest.takeWhile (· != ']')
    if index.isEmpty ∨ rest.length ≤ index.length then [.illFormed]
    else .item index :: steps (rest.drop (index.length + 1))
  | _ => [.illFormed]
termination_by text.length
decreasing_by all_goals simp only [List.length_drop, List.length_cons]; omega

/-- How fields without a name are counted: not yet, or up to a place, or not at all. -/
inductive Numbering
  | undecided
  | automatic (next : Nat)
  | explicit

/-- Where the values of fields come from: a list, if there is one, and a mapping of names. -/
structure Source where
  values? : Option (List Value)
  named : String → Work Value

/-- The value at a place. -/
def Source.at (source : Source) (place : Nat) : Result Value :=
  match source.values? with
  | some values =>
    match values[place]? with
    | some value => .ok value
    | none => .error .missingItem
  | none => .error .wrongValue

/-- The value that a field names at first, and how fields are counted from there on. -/
def Source.find (source : Source) (numbering : Numbering) (name : List Char) :
    Work (Value × Numbering) := do
  match name, number? name, numbering with
  | [], _, .undecided => return (← source.at 0, .automatic 1)
  | [], _, .automatic next => return (← source.at next, .automatic (next + 1))
  | [], _, .explicit => throw .wrongValue
  | _, some _, .automatic _ => throw .wrongValue
  | _, some place, _ => return (← source.at place, .explicit)
  | _, none, _ => return (← source.named (String.ofList name), numbering)

/-- Take a step from a value. -/
def Step.take (engine : Engine) (value : Value) : Step → Work Value
  | .attribute name => do
    match ← value.attribute? engine (String.ofList name) with
    | some found => return found
    | none => throw .missingAttribute
  | .item index =>
    value.mustItem (((number? index).map fun place => .integer place).getD (.ofCharacters index))
  | .illFormed => throw .wrongValue

/-! ## Filling in -/

/-- A value in the form that a field wants. -/
def inForm (form? : Option Char) (value : Value) : Work Value := do
  match form? with
  | none => return value
  | some 's' => return .text (← value.display)
  | some 'r' => return .text (← value.nested)
  | some 'a' => return .text (Text.asciiOnly (← value.nested))
  | some _ => throw .wrongValue

/-- The text of a value in a field. -/
def fieldText (escapes : Bool) (value : Value) (layout : String) : Work String := do
  match escapes, value.form with
  | true, .markup content => if layout = "" then return content else throw .wrongValue
  | true, _ => return escapeText (← value.inLayout layout)
  | false, _ => value.inLayout layout

/-- The text of parts, and how fields are counted behind them.  Fields may stand in the layouts of fields,
but no deeper than `depth`. -/
def fill (engine : Engine) (escapes : Bool) (source : Source) :
    Nat → Numbering → List Part → Work (String × Numbering)
  | 0, _, _ => throw .wrongValue
  | depth + 1, numbering, parts => do
    let mut done := ""
    let mut numbering := numbering
    for part in parts do
      match part with
      | .plain character => done := done.push character
      | .illFormed => throw .wrongValue
      | .field field =>
        let name := field.name.takeWhile fun character => !endsName character
        let (first, counted) ← source.find numbering name
        let value ← (steps (field.name.drop name.length)).foldlM (Step.take engine) first
        let value ← inForm field.form? value
        let (layout, counted) ←
          if field.layout.contains '\x7b' then
            fill engine escapes source depth counted (Brace.parts field.layout)
          else pure (String.ofList field.layout, counted)
        done := done ++ (← fieldText escapes value layout)
        numbering := counted
    return (done, numbering)

/-- A format with its fields filled in. -/
def format (engine : Engine) (escapes : Bool) (source : Source) (text : String) : Work String := do
  return (← fill engine escapes source 2 .undecided (parts text.toList)).1

end SetupScript.Template.Brace
