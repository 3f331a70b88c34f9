import SetupScript.Decimal.Text
import SetupScript.Text.Quoted

/-!
# Data

Plain values, as a settings document or the values for a template hold them, and their text forms:
the plain form, which a text value has as itself, and the form inside another value, in which a text
is quoted.
-/

namespace SetupScript

/-- The key of an entry of a mapping. -/
inductive Datum.Key
  | none
  | boolean (value : Bool)
  | text (value : String)
  | integer (value : Int)
  | decimal (value : Float)

/-- A plain value.  A mapping keeps the order of its entries. -/
inductive Datum
  | none
  | boolean (value : Bool)
  | integer (value : Int)
  | decimal (value : Float)
  | text (value : String)
  | list (items : List Datum)
  | mapping (entries : List (Datum.Key × Datum))
deriving Inhabited

namespace Datum

/-! ## Keys -/

namespace Key

/-- The value that a key is. -/
def datum : Key → Datum
  | none => .none
  | boolean value => .boolean value
  | text value => .text value
  | integer value => .integer value
  | decimal value => .decimal value

/-- The integer that a key is as a number, where a truth value is one or zero. -/
def integer? : Key → Option Int
  | boolean value => some (if value then 1 else 0)
  | integer value => some value
  | decimal value => Decimal.integer? value
  | _ => Option.none

/-- Whether two keys are the same: numbers and truth values by their numeric value. -/
def same : Key → Key → Bool
  | none, none => true
  | text first, text second => first == second
  | decimal first, decimal second => first == second
  | first, second => first.integer?.isSome && first.integer? == second.integer?

/-- The form of a key inside its mapping. -/
def nested : Key → String
  | none => "None"
  | boolean value => if value then "True" else "False"
  | text value => Text.quotedString value
  | integer value => toString value
  | decimal value => Decimal.text value

/-- The plain form of a key. -/
def display : Key → String
  | text value => value
  | key => key.nested

end Key

/-- The key that a value is, unless it holds other values. -/
def key? : Datum → Option Key
  | none => some .none
  | boolean value => some (.boolean value)
  | integer value => some (.integer value)
  | decimal value => some (.decimal value)
  | text value => some (.text value)
  | list _ | mapping _ => Option.none

/-! ## Text forms -/

mutual

/-- The form of a value inside another one. -/
def nested : Datum → String
  | .none => "None"
  | boolean value => if value then "True" else "False"
  | integer value => toString value
  | decimal value => Decimal.text value
  | text value => Text.quotedString value
  | list items => "[" ++ String.intercalate ", " (nestedItems items) ++ "]"
  | mapping entries => "\x7b" ++ String.intercalate ", " (nestedEntries entries) ++ "\x7d"

/-- The forms of the items of a list. -/
def nestedItems : List Datum → List String
  | [] => []
  | item :: items => item.nested :: nestedItems items

/-- The forms of the entries of a mapping. -/
def nestedEntries : List (Key × Datum) → List String
  | [] => []
  | (key, value) :: entries => (key.nested ++ ": " ++ value.nested) :: nestedEntries entries

end

/-- The plain form of a value: a text as it is, all else as inside another value. -/
def display : Datum → String
  | text value => value
  | value => value.nested

/-! ## Entries -/

/-- Put an entry into a mapping, in the place of an older one for the same key. -/
def putEntry (entries : List (Key × Datum)) (entry : Key × Datum) : List (Key × Datum) :=
  if entries.any fun other => other.1.same entry.1 then
    entries.map fun other => if other.1.same entry.1 then (other.1, entry.2) else other
  else entries ++ [entry]

/-- The entries of a mapping whose keys are texts. -/
def fields (entries : List (Key × Datum)) : List (String × Datum) :=
  entries.filterMap fun entry =>
    match entry.1 with
    | .text name => some (name, entry.2)
    | _ => Option.none

end Datum

end SetupScript
