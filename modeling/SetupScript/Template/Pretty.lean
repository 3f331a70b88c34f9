import SetupScript.Template.Sorting
import SetupScript.Text.Search

/-!
# Values over several lines

The form of a value spread over lines where it is too wide for one: the parts of lists, tuples and mappings
stand below each other, and so do the words of texts.  The entries of mappings are in the order of their
keys.
-/

namespace SetupScript.Template.Pretty

/-- The width of a line. -/
def width : Int := 80

/-- Whether a key comes before another one; keys without an order are in that of the names of their
types. -/
def comesFirst (first second : Value) : Work Bool :=
  try first.isOrdered .less second
  catch
    | .wrongType => return first.form.typeName < second.form.typeName
    | failure => throw failure

/-- Put an entry behind those that do not come after it. -/
def insertEntry (entry : Value × Value) : List (Value × Value) → Work (List (Value × Value))
  | [] => return [entry]
  | other :: others => do
    if ← comesFirst entry.1 other.1 then return entry :: other :: others
    else return other :: (← insertEntry entry others)

/-- The entries of a mapping in the order of their keys. -/
def sortedEntries (cell : Cell) : Work (List (Value × Value)) := do
  (← Work.entries cell).toList.foldlM (fun sorted entry => insertEntry entry sorted) []

/-- The form of a value on one line. -/
def inline : Nat → Value → Work String
  | 0, _ => throw .tooDeep
  | depth + 1, value => do
    match value.form with
    | .list cell => return "[" ++ listed (← (← Work.items cell).toList.mapM (inline depth)) ++ "]"
    | .mapping cell =>
      let texts ← (← sortedEntries cell).mapM fun entry => do
        let key ← inline depth entry.1
        return key ++ ": " ++ (← inline depth entry.2)
      return "\x7b" ++ listed texts ++ "\x7d"
    | form =>
      match form.tuple? with
      | some [item] => return "(" ++ (← inline depth item) ++ ",)"
      | some items => return "(" ++ listed (← items.mapM (inline depth)) ++ ")"
      | none => value.nested

/-! ## Texts -/

/-- The words of a line, each with the blanks behind it. -/
def wordsWithBlanks (word : List Char) : List Char → List (List Char)
  | [] => if word.isEmpty then [] else [word.reverse]
  | character :: rest =>
    if !Character.isBlank character && word.head?.any Character.isBlank then
      word.reverse :: wordsWithBlanks [character] rest
    else wordsWithBlanks (character :: word) rest

/-- The quoted parts of a line; `current` is the part under way, and `last` the room that is missing on the
last line. -/
def partsOfLine (room last : Int) (current : List Char) : List (List Char) → List String
  | [] => if current.isEmpty then [] else [Text.quotedString (String.ofList current)]
  | word :: words =>
    let room' := if words.isEmpty then room - last else room
    let candidate := current ++ word
    if room' < (Text.quoted candidate).length then
      (if current.isEmpty then [] else [Text.quotedString (String.ofList current)]) ++
        partsOfLine room last word words
    else partsOfLine room last candidate words

/-- The quoted parts of the lines of a text. -/
def partsOfLines (room allowance : Int) : List (List Char) → List String
  | [] => []
  | line :: lines =>
    let last := if lines.isEmpty then allowance else 0
    let text := Text.quoted line
    if text.length ≤ room - last then String.ofList text :: partsOfLines room allowance lines
    else partsOfLine room last [] (wordsWithBlanks [] line) ++ partsOfLines room allowance lines

/-- A text in quotes, spread over lines. -/
def quoted (indent allowance : Int) (isOutermost : Bool) (content : String) : String :=
  let extra : Int := if isOutermost then 1 else 0
  let margin := indent + extra
  let parts :=
    partsOfLines (width - margin) (allowance + extra) (Text.lines true content.toList)
  match parts with
  | [] => Text.quotedString content
  | [part] => part
  | _ =>
    let text := String.intercalate ("\n" ++ "".pushn ' ' margin.toNat) parts
    if isOutermost then "(" ++ text ++ ")" else text

/-! ## Values -/

/-- The form of a value that begins behind `indent` characters of a line and has `allowance` characters
behind it. -/
def spread : Nat → Bool → Int → Int → Value → Work String
  | 0, _, _, _, _ => throw .tooDeep
  | depth + 1, isOutermost, indent, allowance, value => do
    let plain ← inline depth value
    let separator := ",\n" ++ "".pushn ' ' (indent + 1).toNat
    let rec below (closing : Int) : List Value → Work (List String)
      | [] => return []
      | [item] => do return [← spread depth false (indent + 1) closing item]
      | item :: items => do
        let text ← spread depth false (indent + 1) 1 item
        return text :: (← below closing items)
    let rec entriesBelow : List (Value × Value) → Work (List String)
      | [] => return []
      | (key, item) :: entries => do
        let key ← inline depth key
        let behind := if entries.isEmpty then allowance + 1 else 1
        let text ← spread depth false (indent + 1 + key.length + 2) behind item
        return (key ++ ": " ++ text) :: (← entriesBelow entries)
    let enclosed (opening closing : String) (items : List Value) : Work String := do
      return opening ++
        String.intercalate separator (← below (allowance + closing.length) items) ++ closing
    if plain.length ≤ width - indent - allowance then return plain
    else
      match value.form with
      | .text content => return quoted indent allowance isOutermost content
      | .list cell => enclosed "[" "]" (← Work.items cell).toList
      | .mapping cell =>
        return "\x7b" ++ String.intercalate separator (← entriesBelow (← sortedEntries cell)) ++ "\x7d"
      | form =>
        match form.tuple? with
        | some [item] => enclosed "(" ",)" [item]
        | some items => enclosed "(" ")" items
        | none => return plain

/-- The form of a value over several lines. -/
def text (value : Value) : Work String :=
  spread depthLimit true 0 0 value

end SetupScript.Template.Pretty
