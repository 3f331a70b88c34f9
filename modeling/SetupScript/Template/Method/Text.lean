import SetupScript.Character.Identifier
import SetupScript.Template.Brace
import SetupScript.Template.Encoding
import SetupScript.Template.Iteration
import SetupScript.Text.Entity
import SetupScript.Text.Padding
import SetupScript.Text.Window

/-!
# Methods of texts

What the methods of texts answer.  Those of a text that counts as escaped give such texts again, and escape
what they put into them.
-/

namespace SetupScript.Template.TextMethod

open SetupScript.Character

/-! ## Arguments -/

/-- A number that may be left out or be none. -/
def place? : Option Value → Result (Option Int)
  | none => .ok none
  | some value => value.bound?

/-- A limit, which a negative number lifts. -/
def limitOf (value : Value) : Result (Option Nat) := do
  let number ← value.form.count
  return if number < 0 then none else some number.toNat

/-- A width, for which there must be room. -/
def roomOf (value : Value) : Result Nat := do
  let width := (← value.form.count).toNat
  checkRoom width
  return width

/-- The characters of a text, or nothing. -/
def characters? (value : Value) : Result (Option (List Char)) :=
  match value.form with
  | .none => .ok none
  | _ => value.characters.map some

/-- A separator, which must not be empty. -/
def separatorOf (value : Value) : Result (List Char) := do
  let content ← value.characters
  if content.isEmpty then throw .wrongValue else return content

/-- The characters that the text of a value has where texts count as escaped or do not. -/
def insertOf (escaped : Bool) (value : Value) : Work (List Char) := do
  if escaped then return (← value.escaped).toList else value.characters

/-- A single character that fills a text up. -/
def fillerOf (escaped : Bool) (value : Value) : Work Char := do
  match ← insertOf escaped value with
  | [character] => return character
  | _ => throw .wrongType

/-- A part of a text that is looked for, and the part of the text to look in. -/
def searchOf (content : List Char) (given : Given) : Result (Value × Option Text.Window) := do
  match ← given.inOrder with
  | [part] => return (part, Text.window? content none none)
  | [part, start] => return (part, Text.window? content (← start.bound?) none)
  | [part, start, stop] => return (part, Text.window? content (← start.bound?) (← stop.bound?))
  | _ => throw .wrongType

/-! ## Parts -/

/-- A list of parts of a text. -/
def partsOf (escaped : Bool) (texts : List (List Char)) : Work Value :=
  Work.newList (texts.map fun part => .textMarked escaped (String.ofList part))

/-- The parts of a text between separators, or its words if there is no separator. -/
def split (fromEnd escaped : Bool) (content : List Char) (given : Given) : Work Value := do
  let (separator, limit) ←
    given.two (optional "sep" .none) (optional "maxsplit" (.integer (-1)))
  let limit? ← limitOf limit
  match separator.form with
  | .none =>
    partsOf escaped <|
      match limit? with
      | none => Text.words content
      | some limit =>
        if fromEnd then Text.wordsFromEnd limit content else Text.wordsUpTo limit content
  | _ =>
    let separator ← separatorOf separator
    partsOf escaped <|
      if fromEnd then Text.cutFromEnd separator content limit? else Text.cut separator content limit?

/-- A text in three parts: in front of a separator, the separator, and behind it. -/
def partition (fromEnd escaped : Bool) (content : List Char) (given : Given) : Work Value := do
  match ← given.inOrder with
  | [separator] =>
    let separator ← separatorOf separator
    let text (part : List Char) : Value := .textMarked escaped (String.ofList part)
    let pieces :=
      if fromEnd then Text.cutFromEnd separator content (some 1)
      else Text.cut separator content (some 1)
    Work.newTuple <|
      match pieces with
      | [before, after] => [text before, text separator, text after]
      | _ =>
        if fromEnd then [text [], text [], text content] else [text content, text [], text []]
  | _ => throw .wrongType

/-- The texts of the items of a value with a text between them. -/
def join (engine : Engine) (escaped : Bool) (separator : List Char) (value : Value) :
    Work Value := do
  let texts ← (← value.items engine).mapM fun item => insertOf escaped item
  return .textMarked escaped (String.ofList (List.intercalate separator texts))

/-! ## Tables of characters -/

/-- A table that gives characters others, or none. -/
def makeTable (given : Given) : Work Value := do
  let code (character : Char) : Value := .integer character.toNat
  match ← given.inOrder with
  | [table] =>
    match table.form with
    | .mapping cell =>
      let entries ← (← Work.entries cell).toList.mapM fun (key, value) => do
        match key.form.text?.map String.toList with
        | some [character] => return (code character, value)
        | some _ => throw .wrongValue
        | none => return (.integer (← key.form.whole), value)
      Work.newMappingOf entries
    | _ => throw .wrongType
  | first :: second :: rest =>
    let first ← first.characters
    let second ← second.characters
    if first.length ≠ second.length then throw .wrongValue
    else
      let removed ← match rest with
        | [] => pure []
        | [removed] => removed.characters
        | _ => throw .wrongType
      Work.newMappingOf ((first.zip second).map (fun pair => (code pair.1, code pair.2)) ++
        removed.map fun character => (code character, .none))
  | [] => throw .wrongType

/-- A text with its characters looked up in a table. -/
def translate (content : List Char) (table : Value) : Work (List Char) := do
  let parts ← content.mapM fun character => do
    match ← table.item? (.integer character.toNat) with
    | none => return [character]
    | some found =>
      match found.form with
      | .none => return []
      | form =>
        match form.text?, form.whole? with
        | some content, _ => return content.toList
        | none, some code =>
          if 0 ≤ code ∧ code < 0x110000 then return [Char.ofNat code.toNat] else throw .wrongValue
        | none, none => throw .wrongType
  return parts.flatten

/-! ## All methods -/

/-- The forms of a text that take no arguments. -/
def changed? (name : String) (content : List Char) : Option (List Char) :=
  match name with
  | "upper" => some (Text.upper content)
  | "lower" => some (Text.lower content)
  | "casefold" => some (Text.fold content)
  | "capitalize" => some (Text.capitalize content)
  | "title" => some (Text.title content)
  | "swapcase" => some (Text.swapCase content)
  | _ => none

/-- The questions about a text that take no arguments. -/
def asked? (name : String) (content : List Char) : Option Bool :=
  let all (class? : Char → Bool) : Option Bool := some (!content.isEmpty && content.all class?)
  match name with
  | "isalpha" => all isLetter
  | "isalnum" => all isAlphanumeric
  | "isdecimal" => all isDecimal
  | "isdigit" => all isDigitLike
  | "isnumeric" => all isNumeric
  | "isspace" => all isBlank
  | "isprintable" => some (content.all isPrintable)
  | "isascii" => some (content.all fun character => character.toNat < 0x80)
  | "isidentifier" => some (isIdentifier content)
  | "isupper" => some (Text.isUpperCase content)
  | "islower" => some (Text.isLowerCase content)
  | "istitle" => some (Text.isTitled content)
  | _ => none

/-- A text without some characters at its ends. -/
def strip (trim : (Char → Bool) → List Char → List Char) (content : List Char) (given : Given) :
    Result (List Char) := do
  match ← given.inOrder with
  | [] => return trim isBlank content
  | [set] =>
    match ← characters? set with
    | some set => return trim set.contains content
    | none => return trim isBlank content
  | _ => throw .wrongType

/-- A text filled up to a width. -/
def padded (escaped : Bool) (pad : Nat → Char → List Char) (given : Given) : Work (List Char) := do
  match ← given.inOrder with
  | [width] => return pad (← roomOf width) ' '
  | [width, filler] =>
    let width ← roomOf width
    return pad width (← fillerOf escaped filler)
  | _ => throw .wrongType

/-- Whether a text, or one of several, stands at an end of another one. -/
def touches (fromEnd : Bool) (content : List Char) (given : Given) : Result Value := do
  let (parts, window?) ← searchOf content given
  let stands (part : List Char) : Bool :=
    window?.any fun window =>
      if fromEnd then Text.endsWith part window.content else Text.beginsWith part window.content
  let rec anyStands : List Value → Result Bool
    | [] => .ok false
    | part :: parts => do if stands (← part.characters) then return true else anyStands parts
  match parts.form.tuple? with
  | some parts => return .boolean (← anyStands parts)
  | none => return .boolean (← anyStands [parts])

/-- The methods whose answer is a text again. -/
def textAnswer? (escaped : Bool) (content : List Char) (name : String) (given : Given) :
    Option (Work (List Char)) :=
  let part (change : List Char → List Char) : Work (List Char) := do
    match ← given.inOrder with
    | [part] => return change (← part.characters)
    | _ => throw .wrongType
  match name with
  | "strip" => some (liftM (strip Text.trimBy content given))
  | "lstrip" => some (liftM (strip List.dropWhile content given))
  | "rstrip" => some (liftM (strip Text.trimEndBy content given))
  | "center" => some (padded escaped (fun width filler => Text.center width filler content) given)
  | "ljust" => some (padded escaped (fun width filler => Text.padEnd width filler content) given)
  | "rjust" => some (padded escaped (fun width filler => Text.padStart width filler content) given)
  | "zfill" =>
    some do
      match ← given.inOrder with
      | [width] => return Text.fillZeros (← roomOf width) content
      | _ => throw .wrongType
  | "expandtabs" =>
    some do
      let distance ← roomOf (← given.one (optional "tabsize" (.integer 8)))
      return Text.expandTabs distance 0 content
  | "removeprefix" =>
    some (part fun part =>
      if Text.beginsWith part content then content.drop part.length else content)
  | "removesuffix" =>
    some (part fun part =>
      if Text.endsWith part content then content.take (content.length - part.length) else content)
  | "replace" =>
    some do
      match ← given.inOrder with
      | old :: new :: rest =>
        let limit? ← match rest with
          | [] => pure none
          | [count] => limitOf count
          | _ => throw .wrongType
        let old ← old.characters
        return Text.replace old (← insertOf escaped new) content limit?
      | _ => throw .wrongType
  | "translate" =>
    some do
      match ← given.inOrder with
      | [table] => translate content table
      | _ => throw .wrongType
  | _ => (changed? name content).map fun characters => do
    given.nothing
    return characters

/-- The methods that find a part of a text. -/
def found? (content : List Char) (name : String) (given : Given) : Option (Result Value) :=
  let find (fromEnd : Bool) (absent : Result Value) : Option (Result Value) :=
    some do
      let (part, window?) ← searchOf content given
      let part ← part.characters
      match window?.bind fun window => window.find? fromEnd part with
      | some place => return .integer place
      | none => absent
  match name with
  | "find" => find false (.ok (.integer (-1)))
  | "rfind" => find true (.ok (.integer (-1)))
  | "index" => find false (.error .wrongValue)
  | "rindex" => find true (.error .wrongValue)
  | "count" =>
    some do
      let (part, window?) ← searchOf content given
      let part ← part.characters
      return .integer ((window?.map fun window => Text.countOf part window.content).getD 0)
  | "startswith" => some (touches false content given)
  | "endswith" => some (touches true content given)
  | "encode" => some (Encoding.encode content given)
  | _ => none

/-- A text with fields filled in. -/
def fields (engine : Engine) (escaped : Bool) (content : String) (source : Brace.Source) :
    Work Value := do
  return .textMarked escaped (← Brace.format engine escaped source content)

/-- What a method of a text answers. -/
def call (engine : Engine) (escaped : Bool) (content : String) (name : String) (given : Given) :
    Work Value := do
  let characters := content.toList
  match textAnswer? escaped characters name given, found? characters name given,
      asked? name characters with
  | some answer, _, _ => return .textMarked escaped (String.ofList (← answer))
  | _, some answer, _ => answer
  | _, _, some answer =>
    given.nothing
    return .boolean answer
  | _, _, _ =>
    match name with
    | "split" => split false escaped characters given
    | "rsplit" => split true escaped characters given
    | "splitlines" =>
      let keepEnds ← (← given.one (optional "keepends" (.boolean false))).form.whole
      partsOf escaped (Text.lines (keepEnds != 0) characters)
    | "partition" => partition false escaped characters given
    | "rpartition" => partition true escaped characters given
    | "join" =>
      match ← given.inOrder with
      | [value] => join engine escaped characters value
      | _ => throw .wrongType
    | "format" =>
      fields engine escaped content {
        values? := some given.positional
        named := fun name =>
          match given.named.lookup name with
          | some value => return value
          | none => throw .missingKey }
    | "format_map" =>
      match ← given.inOrder with
      | [mapping] =>
        fields engine escaped content {
          values? := if escaped then some [] else none
          named := fun name => mapping.mustItem (.text name) }
      | _ => throw .wrongType
    | "maketrans" => makeTable given
    | "escape" =>
      match ← given.inOrder with
      | [value] => return .markup (← value.escaped)
      | _ => throw .wrongType
    | "unescape" =>
      given.nothing
      return .ofCharacters (Text.resolveEntities characters)
    | "striptags" =>
      given.nothing
      return .ofCharacters (Text.resolveEntities (Text.withoutTags characters))
    | _ => throw .missingAttribute

end SetupScript.Template.TextMethod
