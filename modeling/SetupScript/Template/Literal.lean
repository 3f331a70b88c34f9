/-!
# Literals

The constants of expressions: those that are written down, and those that come of working out the
constant parts of an expression beforehand.
-/

namespace SetupScript.Template

/-- A constant. -/
inductive Literal
  | none
  | boolean (value : Bool)
  | integer (value : Int)
  | decimal (value : Float)
  | complex (real imaginary : Float)
  | text (value : String)
  | markup (value : String)
  | range (start stop step : Int)
  | list (items : List Literal)
  | tuple (items : List Literal)
  | mapping (entries : List (Literal × Literal))

namespace Literal

/-- Whether a floating-point number has digits. -/
def isFinite (value : Float) : Bool :=
  !value.isNaN && !value.isInf

mutual

/-- Whether all floating-point numbers in a constant have digits, so that it can be written down. -/
def isWritable : Literal → Bool
  | .decimal value => isFinite value
  | .complex real imaginary => isFinite real && isFinite imaginary
  | .list items | .tuple items => allWritable items
  | .mapping entries => allEntriesWritable entries
  | _ => true

/-- Whether this holds of several constants. -/
def allWritable : List Literal → Bool
  | [] => true
  | item :: items => item.isWritable && allWritable items

/-- Whether this holds of the keys and values of entries. -/
def allEntriesWritable : List (Literal × Literal) → Bool
  | [] => true
  | (key, value) :: entries => key.isWritable && value.isWritable && allEntriesWritable entries

end

mutual

/-- The greatest magnitude of the integers in a constant. -/
def greatest : Literal → Nat
  | .integer value => value.natAbs
  | .list items | .tuple items => greatestOf items
  | .mapping entries => greatestOfEntries entries
  | _ => 0

/-- The greatest magnitude of the integers in several constants. -/
def greatestOf : List Literal → Nat
  | [] => 0
  | item :: items => max item.greatest (greatestOf items)

/-- The greatest magnitude of the integers in the keys and values of entries. -/
def greatestOfEntries : List (Literal × Literal) → Nat
  | [] => 0
  | (key, value) :: entries => max (max key.greatest value.greatest) (greatestOfEntries entries)

end

end Literal

end SetupScript.Template
