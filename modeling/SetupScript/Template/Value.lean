/-!
# Values of templates

What an expression of a template may stand for.  Values that can change, or that are used up, are places in
a store; all others are what they are.
-/

namespace SetupScript.Template

/-! ## Failures -/

/-- Why an expression has no value, or a template no text.  The last cause is that the value of an expression is
not known beforehand. -/
inductive Failure
  | undefined (message : String)
  | unusable
  | wrongType
  | wrongValue
  | zeroDivision
  | overflow
  | outOfMemory
  | missingKey
  | missingItem
  | missingAttribute
  | unknownName
  | unknownCodec
  | unencodable
  | undecodable
  | wrongState
  | tooDeep
  | unmetAssumption
  | illFormedCode
  | notConstant
deriving DecidableEq

/-- A computation that may fail. -/
abbrev Result := Except Failure

/-! ## Values -/

/-- A place in the store. -/
abbrev Cell := Nat

/-- What tells a value from others that look the same: nothing as long as it is fresh, that it is written
down in the template, or the number it got when it was first kept. -/
inductive Origin
  | fresh
  | written
  | kept (number : Nat)
deriving DecidableEq

/-- What is known of a value that is missing: the message for those who use it, and whether it may
be used as if it were empty. -/
structure Missing where
  message : String
  lenient : Bool := false

/-- Which part of a mapping a view shows. -/
inductive ViewKind
  | keys
  | values
  | items
deriving DecidableEq

/-- The kinds of values whose items come one by one and are used up.  A plain stream of a value's items is
known by the name of its type. -/
inductive StreamKind
  | generator
  | plain (type : String)
  | range
  | listBack
  | back
  | viewBack (kind : ViewKind)
deriving DecidableEq

mutual

/-- What a value is, apart from its origin.  A text that counts as escaped already is markup; a group is a
pair of a key and the items that have it; what is gone is the value that a name had in a frame that has been
left; and unanswered is a question about a value of a kind that is not known. -/
inductive Form
  | none
  | boolean (value : Bool)
  | integer (value : Int)
  | decimal (value : Float)
  | complex (real imaginary : Float)
  | text (value : String)
  | markup (value : String)
  | bytes (value : List UInt8)
  | tuple (items : List Value)
  | group (key items : Value)
  | range (start stop step : Int)
  | list (cell : Cell)
  | mapping (cell : Cell)
  | set (cell : Cell)
  | view (kind : ViewKind) (cell : Cell)
  | stream (kind : StreamKind) (cell : Cell)
  | loop (cell : Cell)
  | snippet (cell : Cell)
  | record (cell : Cell)
  | cycler (cell : Cell)
  | joiner (cell : Cell)
  | blocks (context : Cell)
  | block (name : String) (context : Cell)
  | method (receiver : Value) (name : String)
  | function (name : String)
  | kind (name : String)
  | gone
  | unanswered
  | undefined (missing : Missing)

/-- A value. -/
inductive Value
  | mk (form : Form) (origin : Origin)

end

namespace Value

instance : Inhabited Value := ⟨mk .none .fresh⟩

/-- What a value is. -/
def form : Value → Form
  | mk form _ => form

/-- Where a value comes from. -/
def origin : Value → Origin
  | mk _ origin => origin

/-- A fresh value. -/
def ofForm (form : Form) : Value :=
  mk form .fresh

instance : Coe Form Value := ⟨ofForm⟩

/-- No value. -/
def none : Value := ofForm .none

/-- A truth value. -/
def boolean (value : Bool) : Value := ofForm (.boolean value)

/-- An integer. -/
def integer (value : Int) : Value := ofForm (.integer value)

/-- A floating-point number. -/
def decimal (value : Float) : Value := ofForm (.decimal value)

/-- A text. -/
def text (value : String) : Value := ofForm (.text value)

/-- A text that counts as escaped already. -/
def markup (value : String) : Value := ofForm (.markup value)

/-- A tuple. -/
def tuple (items : List Value) : Value := ofForm (.tuple items)

/-- A missing value that must not be used. -/
def missing (message : String) : Value := ofForm (.undefined ⟨message, false⟩)

/-- A text, marked as escaped or not. -/
def textMarked (escaped : Bool) (value : String) : Value :=
  if escaped then markup value else text value

/-- A text of characters. -/
def ofCharacters (characters : List Char) : Value :=
  text (String.ofList characters)

end Value

/-! ## Types -/

/-- The name of a type of streams. -/
def StreamKind.name : StreamKind → String
  | generator => "generator"
  | plain type => type
  | range => "range_iterator"
  | listBack => "list_reverseiterator"
  | back => "reversed"
  | viewBack .keys => "dict_reversekeyiterator"
  | viewBack .values => "dict_reversevalueiterator"
  | viewBack .items => "dict_reverseitemiterator"

/-- The name of a type of views. -/
def ViewKind.name : ViewKind → String
  | keys => "dict_keys"
  | values => "dict_values"
  | items => "dict_items"

/-- Whether a name is that of a special method, which stands for an operator or a conversion. -/
def isSpecial (name : String) : Bool :=
  name.startsWith "__" && name.endsWith "__"

/-- The special methods that are made like all others. -/
def plainSpecials : List String :=
  ["__ceil__", "__complex__", "__floor__", "__format__", "__getnewargs__", "__reversed__", "__round__",
    "__trunc__"]

namespace Form

/-- The methods of loops and other helpers, which are no built-in ones. -/
def isHelper : Form → Bool
  | .markup _ | .loop _ | .snippet _ | .cycler _ | .joiner _ | .block .. => true
  | _ => false

/-- The name of a value's type. -/
def typeName : Form → String
  | .none => "NoneType"
  | .boolean _ => "bool"
  | .integer _ => "int"
  | .decimal _ => "float"
  | .complex .. => "complex"
  | .text _ => "str"
  | .markup _ => "markupsafe.Markup"
  | .bytes _ => "bytes"
  | .tuple _ => "tuple"
  | .group .. => "jinja2.filters._GroupTuple"
  | .range .. => "range"
  | .list _ => "list"
  | .mapping _ => "dict"
  | .set _ => "set"
  | .view part _ => part.name
  | .stream sort _ => sort.name
  | .loop _ => "jinja2.runtime.LoopContext"
  | .snippet _ => "jinja2.runtime.Macro"
  | .record _ => "jinja2.utils.Namespace"
  | .cycler _ => "jinja2.utils.Cycler"
  | .joiner _ => "jinja2.utils.Joiner"
  | .blocks _ => "jinja2.runtime.TemplateReference"
  | .block .. => "jinja2.runtime.BlockReference"
  | .method receiver name =>
    if receiver.form.isHelper then "method"
    else if isSpecial name && !plainSpecials.contains name then "method-wrapper"
    else "builtin_function_or_method"
  | .function _ => "function"
  | .kind _ => "type"
  | .gone => "jinja2.utils.MissingType"
  | .unanswered => "NotImplementedType"
  | .undefined missing =>
    if missing.lenient then "jinja2.runtime.Undefined" else "jinja2.runtime.StrictUndefined"

/-- Whether a value that is not missing can be called. -/
def isCallable : Form → Bool
  | .method .. | .function _ | .kind _ | .snippet _ | .loop _ | .joiner _ | .block .. => true
  | _ => false

/-- Whether a value can never be a key, since it may change. -/
def isUnhashable : Form → Bool
  | .list _ | .mapping _ | .set _ | .view .keys _ | .view .items _ => true
  | _ => false

/-- How messages speak of a value. -/
def described : Form → String
  | .none => "None"
  | form => form.typeName ++ " object"

/-- The text of a value that is a text. -/
def text? : Form → Option String
  | .text value | .markup value => some value
  | _ => Option.none

/-- Whether a value counts as escaped already. -/
def isMarkup : Form → Bool
  | .markup _ => true
  | _ => false

/-- The items of a value that is a tuple. -/
def tuple? : Form → Option (List Value)
  | .tuple items => some items
  | .group key items => some [key, items]
  | _ => Option.none

/-- The integer that a value is; truth values are zero and one. -/
def whole? : Form → Option Int
  | .boolean value => some (if value then 1 else 0)
  | .integer value => some value
  | _ => Option.none

/-- The integer that a value must be. -/
def whole (form : Form) : Result Int :=
  match form.whole? with
  | some value => .ok value
  | Option.none => .error .wrongType

/-- The number of items or the place that a value must be; there are bounds to it. -/
def count (form : Form) : Result Int := do
  let number ← form.whole
  if -0x8000000000000000 ≤ number ∧ number < 0x8000000000000000 then return number else throw .overflow

end Form

/-- Fail unless there is room for a number of items. -/
def checkRoom (count : Nat) : Result Unit :=
  if count < 0x400000000 then .ok () else .error .outOfMemory

namespace Value

/-- The text that a value must be. -/
def content (value : Value) : Result String :=
  match value.form.text? with
  | some content => .ok content
  | Option.none => .error .wrongType

/-- The characters of the text that a value must be. -/
def characters (value : Value) : Result (List Char) :=
  value.content.map String.toList

/-- Whether a value is a missing one. -/
def isUndefined (value : Value) : Bool :=
  match value.form with
  | .undefined _ => true
  | _ => false

/-- Fail where a missing value is used, unless it may be used. -/
def useMissing {Answer : Type} (missing : Missing) (lenient : Answer) : Result Answer :=
  if missing.lenient then .ok lenient else .error (.undefined missing.message)

/-- Fail where a missing value is used, even if it is a lenient one. -/
def failMissing {Answer : Type} (missing : Missing) : Result Answer :=
  .error (.undefined missing.message)

end Value

/-! ## Ranges -/

/-- How many numbers a range holds. -/
def rangeLength (start stop step : Int) : Nat :=
  if 0 < step then ((stop - start + step - 1) / step).toNat
  else if step < 0 then ((start - stop - step - 1) / -step).toNat
  else 0

/-! ## Calls -/

/-- The values that a call is given, in order and by name. -/
structure Given where
  positional : List Value := []
  named : List (String × Value) := []

end SetupScript.Template
