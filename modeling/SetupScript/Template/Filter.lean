import SetupScript.Template.Filter.Number
import SetupScript.Template.Filter.Sequence
import SetupScript.Template.Filter.Text
import SetupScript.Template.Json
import SetupScript.Template.Names
import SetupScript.Template.Pretty

/-!
# Filters

What the filters of expressions make of a value.  Those that give a stream look at its subject only when the
first item is asked for.
-/

namespace SetupScript.Template

/-- The attribute of a value under a name that is worked out. -/
def attributeNamed (engine : Engine) (value name : Value) : Work Value := do
  match name.form.text? with
  | some name => return (← value.attribute? engine name).getD (value.missingAttribute name)
  | none => throw .wrongType

/-- The margin of a JSON text for every level, if it is spread over lines. -/
def jsonMargin? (value : Value) : Work (Option String) := do
  match value.form with
  | .none => return none
  | _ => return some (String.ofList (← TextFilter.marginOf value))

/-- The filters that give a stream. -/
def streamFilter? (name : String) (given : Given) : Option (Result Generator) :=
  match name with
  | "map" => some (.ok (.map given))
  | "select" => some (.ok (.select true false given))
  | "selectattr" => some (.ok (.select true true given))
  | "reject" => some (.ok (.select false false given))
  | "rejectattr" => some (.ok (.select false true given))
  | "batch" =>
    some do
      let (size, filler) ← given.two (required "linecount") (optional "fill_with" .none)
      return .batch size filler
  | "slice" =>
    some do
      let (count, filler) ← given.two (required "slices") (optional "fill_with" .none)
      return .slice count filler
  | "unique" =>
    some do
      let (caseMatters, path) ←
        given.two (optional "case_sensitive" (.boolean false)) (optional "attribute" .none)
      return .unique caseMatters path
  | "items" =>
    some do
      given.nothing
      return .pairs
  | _ => none

/-- What a filter that takes no arguments makes of a value. -/
def simpleFilter? (engine : Engine) (name : String) (value : Value) : Option (Work Value) :=
  match name with
  | "abs" => some (liftM (value.magnitude))
  | "capitalize" => some (TextFilter.changed value Text.capitalize)
  | "count" | "length" => some do return .integer (← value.length engine)
  | "e" | "escape" => some do return .markup (← value.escaped)
  | "first" =>
    some do return (← value.first? engine).getD (.missing "No first item, sequence was empty.")
  | "forceescape" => some do return .markup (escapeText (← value.display))
  | "last" => some (SequenceFilter.last engine value)
  | "list" => some do Work.newList (← value.items engine)
  | "lower" => some (TextFilter.changed value Text.lower)
  | "pprint" => some do return .text (← Pretty.text value)
  | "random" => some (SequenceFilter.anyItem engine value)
  | "reverse" => some (SequenceFilter.reverse engine value)
  | "safe" => some do return .markup (← value.display)
  | "string" => some (TextFilter.asText value)
  | "striptags" =>
    some do
      return .ofCharacters (Text.resolveEntities (Text.withoutTags (← value.display).toList))
  | "title" => some do return .ofCharacters (Text.heading (← value.display).toList)
  | "upper" => some (TextFilter.changed value Text.upper)
  | "urlencode" => some (TextFilter.urlEncode engine value)
  | "wordcount" => some do return .integer (Text.wordCount (← value.display).toList)
  | _ => none

/-- What a filter that takes arguments makes of a value. -/
def givenFilter? (engine : Engine) (name : String) (value : Value) (given : Given) :
    Option (Work Value) :=
  match name with
  | "attr" => some do attributeNamed engine value (← given.one (required "name"))
  | "center" =>
    some do
      let width ← given.one (optional "width" (.integer 80))
      TextFilter.byMethod engine value "center" [width]
  | "d" | "default" => some (SequenceFilter.default value given)
  | "dictsort" => some (SequenceFilter.sortEntries engine value given)
  | "filesizeformat" => some (NumberFilter.fileSize value given)
  | "float" =>
    some do NumberFilter.toDecimal value (← given.one (optional "default" (.decimal 0)))
  | "format" => some (TextFilter.format value given)
  | "groupby" => some (SequenceFilter.groupBy engine value given)
  | "indent" => some (TextFilter.indent value given)
  | "int" =>
    some do
      let (fallback, base) ←
        given.two (optional "default" (.integer 0)) (optional "base" (.integer 10))
      NumberFilter.toInteger value fallback base
  | "join" => some (SequenceFilter.join engine value given)
  | "max" => some (SequenceFilter.extreme engine .greater value given)
  | "min" => some (SequenceFilter.extreme engine .less value given)
  | "replace" => some (TextFilter.replace value given)
  | "round" => some (NumberFilter.round value given)
  | "sort" => some (SequenceFilter.sort engine value given)
  | "sum" => some (SequenceFilter.sum engine value given)
  | "tojson" =>
    some do
      let margin? ← jsonMargin? (← given.one (optional "indent" .none))
      return .markup (← Json.markupText margin? value)
  | "trim" =>
    some do
      let set ← given.one (optional "chars" .none)
      TextFilter.byMethod engine value "strip" [set]
  | "truncate" => some (TextFilter.truncate engine value given)
  | "urlize" => some (TextFilter.urlize engine value given)
  | "wordwrap" => some (TextFilter.wrap engine value given)
  | "xmlattr" => some (TextFilter.tagAttributes engine value given)
  | _ => none

/-- What a filter makes of a value. -/
def filterWith (engine : Engine) (name : String) (value : Value) (given : Given) : Work Value := do
  match streamFilter? name given, simpleFilter? engine name value,
      givenFilter? engine name value given with
  | some generator, _, _ => Work.newGenerator (← generator) value
  | _, some result, _ =>
    given.nothing
    result
  | _, _, some result => result
  | none, none, none => throw .unusable

end SetupScript.Template
