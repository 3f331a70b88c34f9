import SetupScript.Decimal.Text
import SetupScript.Template.Store
import SetupScript.Text.Based
import SetupScript.Text.Quoted

/-!
# Text forms of values

The form that a value has inside another one, and the form in which it is put out.  A list or mapping that
holds itself is shown by dots where it comes up again.
-/

namespace SetupScript.Template

/-! ## Numbers -/

/-- Whether an integer has too many digits to be written. -/
def isOversized (value : Nat) : Bool :=
  14000 < value.log2 && Decimal.tenTo Text.digitLimit ≤ value

/-- The decimal text of an integer. -/
def integerText (value : Int) : Result String :=
  if isOversized value.natAbs then .error .wrongValue else .ok (toString value)

/-- The text of a part of a complex number, without an idle fraction. -/
def partText (value : Float) : String :=
  let text := Decimal.text value
  if text.endsWith ".0" then String.ofList (text.toList.dropLast.dropLast) else text

/-- The text of a complex number. -/
def complexText (real imaginary : Float) : String :=
  let part := partText imaginary
  if real == 0 && !Decimal.isNegative real then part ++ "j"
  else "(" ++ partText real ++ (if part.startsWith "-" then "" else "+") ++ part ++ "j)"

/-! ## Bytes -/

/-- One byte inside quotes. -/
def byteText (quote : Char) (byte : UInt8) : List Char :=
  let character := Char.ofNat byte.toNat
  if character = quote ∨ character = '\\' then ['\\', character]
  else if character = '\t' then ['\\', 't']
  else if character = '\n' then ['\\', 'n']
  else if character = '\r' then ['\\', 'r']
  else if 0x20 ≤ byte.toNat ∧ byte.toNat < 0x7F then [character]
  else '\\' :: 'x' :: Text.hexadecimal 2 byte.toNat

/-- The quoted form of bytes. -/
def bytesText (bytes : List UInt8) : String :=
  let quote := Text.surroundingQuote (bytes.map fun byte => Char.ofNat byte.toNat)
  String.ofList ('b' :: quote :: bytes.flatMap (byteText quote) ++ [quote])

/-! ## Values -/

/-- Nothing is nested more deeply than this. -/
def depthLimit : Nat := 900

/-- Texts with commas between them. -/
def listed (texts : List String) : String :=
  String.intercalate ", " texts

/-- The parts of entries that a view shows. -/
def ViewKind.parts (kind : ViewKind) (entries : List (Value × Value)) : List Value :=
  match kind with
  | keys => entries.map Prod.fst
  | values => entries.map Prod.snd
  | items => entries.map fun entry => .tuple [entry.1, entry.2]

/-- The place of an integer among the members of a set whose table has a size. -/
def tablePlace (size : Nat) (member : Value) : Int :=
  match member.form.whole? with
  | some number =>
    let rest := Int.tmod number 0x1FFFFFFFFFFFFFFF
    (if rest = -1 then -2 else rest) % size
  | none => 0

/-- The members of a set.  Integers come in the order of their remainders by the size of the table that
they are kept in; other members in the order in which they were put into the set. -/
def Work.members (cell : Cell) : Work (List Value) := do
  let members := ViewKind.parts .keys (← Work.entries cell).toList
  if members.all fun member => member.form.whole?.isSome then
    let count := members.length
    let size := if count < 5 then 8 else Decimal.twoTo ((2 * count).log2 + 1)
    return members.mergeSort fun first second => tablePlace size first ≤ tablePlace size second
  else return members

/-- The members of a value that is like a set. -/
def Value.members? (value : Value) : Work (Option (List Value)) := do
  match value.form with
  | .set cell => return some (← Work.members cell)
  | .view .keys cell => return some (ViewKind.parts .keys (← Work.entries cell).toList)
  | .view .items cell => return some (ViewKind.parts .items (← Work.entries cell).toList)
  | _ => return Option.none

/-- How many items a value has, if it can tell at once. -/
def sizeOf? (value : Value) : Work (Option Nat) := do
  match value.form with
  | .list cell => return some (← Work.items cell).size
  | .mapping cell | .view _ cell | .set cell => return some (← Work.entries cell).size
  | .range start stop step => return some (rangeLength start stop step)
  | .bytes bytes => return some bytes.length
  | .undefined missing => return some (← (Value.useMissing missing 0 : Result Nat))
  | form =>
    match form.tuple?, form.text? with
    | some items, _ => return some items.length
    | none, some content => return some content.length
    | none, none => return none

/-- The number of items of a loop, as far as it is known. -/
def knownLength (state : LoopState) : Work Nat := do
  match state.length? with
  | some length => return length
  | none =>
    return (← sizeOf? state.iterable).getD (state.taken + if state.ahead?.isSome then 1 else 0)

/-- The form of a value inside another one; `path` holds the lists and mappings around it, and the first
number bounds the depth. -/
def nestedIn : Nat → List Cell → Value → Work String
  | 0, _, _ => throw .tooDeep
  | depth + 1, path, value => do
    let inside (cell : Cell) (values : List Value) : Work (List String) :=
      values.mapM (nestedIn depth (cell :: path))
    let pairsInside (cell : Cell) : Work String := do
      let texts ← (← Work.entries cell).toList.mapM fun entry => do
        let key ← nestedIn depth (cell :: path) entry.1
        return key ++ ": " ++ (← nestedIn depth (cell :: path) entry.2)
      return "\x7b" ++ listed texts ++ "\x7d"
    match value.form with
    | .none => return "None"
    | .boolean truth => return if truth then "True" else "False"
    | .integer number => integerText number
    | .decimal number => return Decimal.text number
    | .complex real imaginary => return complexText real imaginary
    | .text content => return Text.quotedString content
    | .markup content => return "Markup(" ++ Text.quotedString content ++ ")"
    | .bytes bytes => return bytesText bytes
    | .tuple [item] => return "(" ++ (← nestedIn depth path item) ++ ",)"
    | .tuple items => return "(" ++ listed (← items.mapM (nestedIn depth path)) ++ ")"
    | .group key items => return "(" ++ listed (← [key, items].mapM (nestedIn depth path)) ++ ")"
    | .range start stop step =>
      let bounds ← [start, stop].mapM fun bound => (integerText bound : Work String)
      if step = 1 then return "range(" ++ listed bounds ++ ")"
      else return "range(" ++ listed (bounds ++ [← integerText step]) ++ ")"
    | .list cell =>
      if path.contains cell then return "[...]"
      else return "[" ++ listed (← inside cell (← Work.items cell).toList) ++ "]"
    | .mapping cell => if path.contains cell then return "\x7b...\x7d" else pairsInside cell
    | .set cell =>
      let texts ← inside cell (← Work.members cell)
      return if texts.isEmpty then "set()" else "\x7b" ++ listed texts ++ "\x7d"
    | .view kind cell =>
      if path.contains cell then return "..."
      else
        let texts ← inside cell (kind.parts (← Work.entries cell).toList)
        return kind.name ++ "([" ++ listed texts ++ "])"
    | .loop cell =>
      match ← Work.object cell with
      | .loop state =>
        return "<LoopContext " ++ toString state.taken ++ "/" ++ toString (← knownLength state) ++ ">"
      | _ => return ""
    | .snippet cell =>
      match ← Work.object cell with
      | .snippet snippet =>
        return "<Macro " ++ ((snippet.name?.map Text.quotedString).getD "anonymous") ++ ">"
      | _ => return ""
    | .record cell => return "<Namespace " ++ (← pairsInside cell) ++ ">"
    | .kind name => return "<class '" ++ name ++ "'>"
    | .blocks _ => return "<TemplateReference None>"
    | .gone => return "missing"
    | .unanswered => return "NotImplemented"
    | .undefined _ => return "Undefined"
    | form => return "<" ++ form.typeName ++ " object>"

namespace Value

/-- The form of a value inside another one. -/
def nested (value : Value) : Work String :=
  nestedIn depthLimit [] value

/-- The text that a value is put out as. -/
def display (value : Value) : Work String :=
  match value.form with
  | .text content | .markup content => return content
  | .undefined missing => liftM (useMissing missing "")
  | _ => value.nested

/-- The value of an attribute that is missing. -/
def missingAttribute (value : Value) (name : String) : Value :=
  missing (Text.quotedString value.form.described ++ " has no attribute " ++ Text.quotedString name)

/-- The value of an item that is missing. -/
def missingItem (value index : Value) : Work Value := do
  match index.form.text? with
  | some name => return value.missingAttribute name
  | Option.none => return missing (value.form.described ++ " has no element " ++ (← index.nested))

/-- Whether a value counts as true. -/
def truth (value : Value) : Work Bool := do
  match value.form with
  | .none => return false
  | .boolean truth => return truth
  | .integer number => return number != 0
  | .decimal number => return number != 0
  | .complex real imaginary => return real != 0 || imaginary != 0
  | .text content | .markup content => return content != ""
  | .bytes bytes => return !bytes.isEmpty
  | .tuple items => return !items.isEmpty
  | .range start stop step => return rangeLength start stop step != 0
  | .list cell => return !(← Work.items cell).isEmpty
  | .mapping cell | .view _ cell | .set cell => return !(← Work.entries cell).isEmpty
  | .undefined missing => useMissing missing false
  | _ => return true

end Value

end SetupScript.Template
