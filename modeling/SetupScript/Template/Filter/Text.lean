import SetupScript.Template.Arithmetic
import SetupScript.Template.Call
import SetupScript.Text.Link
import SetupScript.Text.Wrap

/-!
# Filters of texts

What the filters make of texts.  Most of them take the text that any value is put out as, and keep the mark
of a text that counts as escaped.
-/

namespace SetupScript.Template.TextFilter

/-! ## Plain changes -/

/-- The text of a value; one that is a text already stays as it is. -/
def asText (value : Value) : Work Value := do
  match value.form with
  | .text _ | .markup _ => return value
  | _ => return .text (← value.display)

/-- The text of a value with its characters changed. -/
def changed (value : Value) (change : List Char → List Char) : Work Value := do
  return .textMarked value.form.isMarkup (String.ofList (change (← value.display).toList))

/-- What a method makes of the text of a value. -/
def byMethod (engine : Engine) (value : Value) (name : String) (arguments : List Value) :
    Work Value := do
  let text ← asText value
  callMethod engine text name { positional := arguments }

/-- The lines of a text value. -/
def linesOf (value : Value) : Work (List (List Char)) := do
  match value.form.text? with
  | some content => return Text.lines false content.toList
  | none =>
    match value.form with
    | .undefined missing => liftM (Value.failMissing missing : Result (List (List Char)))
    | _ => throw .missingAttribute

/-! ## Layout -/

/-- The text that stands for a margin: a text, or a number of blanks. -/
def marginOf (width : Value) : Work (List Char) := do
  match width.form.text? with
  | some content => return content.toList
  | none => do
    (← Value.operate .multiply (.text " ") width).characters

/-- Lines with a margin in front of them, the first one and empty ones only where asked for. -/
def indent (value : Value) (given : Given) : Work Value := do
  let (width, first, blank) ←
    given.three (optional "width" (.integer 4)) (optional "first" (.boolean false))
      (optional "blank" (.boolean false))
  let margin ← marginOf width
  let escaped := value.form.isMarkup
  match value.form with
  | .list _ => throw .missingAttribute
  | _ => pure ()
  let lines ← linesOf (← Value.operate .add value (.text "\n"))
  let everyLine ← blank.truth
  let indented (line : List Char) : List Char :=
    if everyLine || !line.isEmpty then margin ++ line else line
  let rest := lines.tail.map fun line => '\n' :: indented line
  let start := if ← first.truth then margin else []
  return .textMarked escaped (String.ofList (start ++ lines.headD [] ++ rest.flatten))

/-- A text cut off at a length, at a blank unless words may be cut. -/
def truncate (engine : Engine) (value : Value) (given : Given) : Work Value := do
  match ← given.values [optional "length" (.integer 255), optional "killwords" (.boolean false),
      optional "end" (.text "..."), optional "leeway" .none] with
  | [length, cutWords, ending, leeway] =>
    let leeway := match leeway.form with
      | .none => .integer 5
      | _ => leeway
    let endingLength := .integer (← ending.length engine)
    if !(← Value.isOrdered .greaterOrEqual length endingLength) then throw .unmetAssumption
    if !(← Value.isOrdered .greaterOrEqual leeway (.integer 0)) then throw .unmetAssumption
    let size := .integer (← value.length engine)
    if ← Value.isOrdered .lessOrEqual size (← Value.operate .add length leeway) then return value
    let kept ← value.slice .none (← Value.operate .subtract length endingLength) .none
    if ← cutWords.truth then Value.operate .add kept ending
    else
      if kept.form.text?.isNone then throw .missingAttribute
      let parts ← byMethod engine kept "rsplit" [.text " ", .integer 1]
      Value.operate .add ((← parts.items engine).headD .none) ending
  | _ => throw .wrongType

/-- The lines of a text, each as several lines of a limited width. -/
def wrap (engine : Engine) (value : Value) (given : Given) : Work Value := do
  match ← given.values [optional "width" (.integer 79), optional "break_long_words" (.boolean true),
      optional "wrapstring" .none, optional "break_on_hyphens" (.boolean true)] with
  | [width, longWords, separator, hyphens] =>
    let separator := match separator.form with
      | .none => .text "\n"
      | _ => separator
    let lines ← linesOf value
    if lines.isEmpty then byMethod engine separator "join" [← Work.newList []]
    else
      let width ← width.form.whole
      if width ≤ 0 then throw .wrongValue
      let rule : Text.Wrap.Rule := {
        width := width.toNat
        breaksLongWords := ← longWords.truth
        breaksAtHyphens := ← hyphens.truth }
      let wrapped ← lines.mapM fun line => do
        let texts := (Text.Wrap.lines rule line).map Value.ofCharacters
        byMethod engine separator "join" [← Work.newList texts]
      byMethod engine separator "join" [← Work.newList wrapped]
  | _ => throw .wrongType

/-! ## Replacing -/

/-- A text with one part replaced by another. -/
def replace (value : Value) (given : Given) : Work Value := do
  let (old, new, count) ←
    given.three (required "old") (required "new") (optional "count" .none)
  let limit? : Result (Option Nat) :=
    match count.form with
    | .none => .ok none
    | _ => TextMethod.limitOf count
  if ← Work.isEscaping then
    let isMarked := value.form.isMarkup
    let value ←
      if old.form.isMarkup || (new.form.isMarkup && !isMarked) then
        pure (Value.markup (← value.escaped))
      else asText value
    let old ← asText old
    let new ← asText new
    let inserted ← TextMethod.insertOf value.form.isMarkup new
    let limit? ← limit?
    changed value fun content => Text.replace (old.form.text?.getD "").toList inserted content limit?
  else
    let content ← value.display
    let old ← old.display
    let new ← new.display
    return .ofCharacters (Text.replace old.toList new.toList content.toList (← limit?))

/-- The text of a format with values filled in. -/
def format (value : Value) (given : Given) : Work Value := do
  let arguments ←
    match given.positional, given.named with
    | positional, [] => pure (Value.tuple positional)
    | [], named => Work.newMappingOf (named.map fun entry => (.text entry.1, entry.2))
    | _, _ => throw .unusable
  Value.operate .remainder (← asText value) arguments

/-! ## Addresses -/

/-- Whether a byte stands for itself in the address of a resource. -/
def isUnreserved (character : Char) : Bool :=
  character.isAlphanum || ['-', '_', '.', '~'].contains character

/-- A byte in the address of a resource; inside a query slashes are escaped too, and blanks become plus
signs. -/
def percentByte (inQuery : Bool) (byte : UInt8) : List Char :=
  let character := Char.ofNat byte.toNat
  if byte.toNat < 0x80 && (isUnreserved character || (character == '/' && !inQuery)) then [character]
  else if character == ' ' && inQuery then ['+']
  else '%' :: (Text.hexadecimal 2 byte.toNat).map Char.toUpper

/-- A value in the address of a resource. -/
def percentEncoded (inQuery : Bool) (value : Value) : Work String := do
  let bytes ← match value.form with
    | .bytes bytes => pure bytes
    | _ => pure (← value.display).toUTF8.toList
  return String.ofList (bytes.flatMap (percentByte inQuery))

/-- Whether the items of a value can be gone through. -/
def isIterable (form : Form) : Bool :=
  match form with
  | .text _ | .markup _ | .bytes _ | .tuple _ | .group .. | .range .. | .list _ | .mapping _ | .set _
  | .view .. | .stream .. | .loop _ | .undefined _ => true
  | _ => false

/-- A value in the address of a resource: a text, or the pairs of a query. -/
def urlEncode (engine : Engine) (value : Value) : Work Value := do
  if value.form.text?.isSome || !isIterable value.form then
    return .text (← percentEncoded false value)
  else
    let entries ← match value.form with
      | .mapping cell => pure (← Work.entries cell).toList
      | _ => Mapping.pairsOf engine value
    let fields ← entries.mapM fun entry => do
      let key ← percentEncoded true entry.1
      return key ++ "=" ++ (← percentEncoded true entry.2)
    return .text (String.intercalate "&" fields)

/-- The beginning of a text up to a limit, with dots for what is left out. -/
def shortened (limit? : Option Int) (text : List Char) : List Char :=
  match limit? with
  | none => text
  | some limit =>
    if text.length ≤ limit then text
    else text.take (if limit < 0 then (text.length + limit).toNat else limit.toNat) ++ ['.', '.', '.']

/-- A text put among others in order, unless it is there already. -/
def insertWord (word : String) : List String → List String
  | [] => [word]
  | other :: others =>
    if word = other then other :: others
    else if word < other then word :: other :: others
    else other :: insertWord word others

/-- An attribute of a tag. -/
def tagAttribute (name value : String) : String :=
  " " ++ name ++ "=\"" ++ value ++ "\""

/-- A text with its addresses as links. -/
def urlize (engine : Engine) (value : Value) (given : Given) : Work Value := do
  match ← given.values [optional "trim_url_limit" .none, optional "nofollow" (.boolean false),
      optional "target" .none, optional "rel" .none, optional "extra_schemes" .none] with
  | [limit, nofollow, target, relation, schemes] =>
    let given ← if ← relation.truth then relation.characters else pure []
    let words := (Text.words given).map String.ofList
    let words := if ← nofollow.truth then "nofollow" :: words else words
    let relation := String.intercalate " " (("noopener" :: words).foldr insertWord [])
    let schemes ← match schemes.form with
      | .none => pure []
      | _ => (← schemes.items engine).mapM fun scheme => (scheme.characters : Work (List Char))
    if schemes.any fun scheme => !Text.Link.isScheme scheme then throw .unusable
    let limit? ← limit.bound?
    let target ← if ← target.truth then pure (tagAttribute "target" (← target.escaped)) else pure ""
    let style : Text.Link.Style := {
      shown := shortened limit?
      attributes := tagAttribute "rel" (escapeText relation) ++ target
      schemes := schemes }
    let text := Text.Link.linkAll style (← value.escaped).toList
    return .textMarked (← Work.isEscaping) (String.ofList text)
  | _ => throw .wrongType

/-- The entries of a mapping as the attributes of a tag. -/
def tagAttributes (engine : Engine) (value : Value) (given : Given) : Work Value := do
  let space ← given.one (optional "autospace" (.boolean true))
  match value.form with
  | .mapping cell =>
    let texts ← (← Work.entries cell).toList.filterMapM fun (key, item) => do
      match item.form with
      | .none | .undefined _ => return none
      | _ =>
        let name ← key.characters
        let isBad (character : Char) : Bool :=
          [' ', '\t', '\n', '\x0b', '\x0c', '\r', '/', '>', '='].contains character
        if name.any isBad then throw .wrongValue
        return some ((← key.escaped) ++ "=\"" ++ (← item.escaped) ++ "\"")
    let text := String.intercalate " " texts
    let text := if (← space.truth) && text != "" then " " ++ text else text
    return .textMarked (← Work.isEscaping) text
  | .undefined missing => liftM (Value.failMissing missing : Result Value)
  | _ =>
    discard (value.attribute? engine "items")
    throw .missingAttribute

end SetupScript.Template.TextFilter
