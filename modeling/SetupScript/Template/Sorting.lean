import SetupScript.Template.Comparison

/-!
# Sorting

Items in the order of their keys.  The run at the front that is in order already is left, or turned
around if it goes strictly down, and every later item is put behind those whose keys are not greater.
Comparing keys may fail, so it matters which ones are compared, and in which order.
-/

namespace SetupScript.Template

/-- How many entries go on with a run that goes down, or does not, behind a key. -/
def runLength (down : Bool) (last : Value) : List (Value × Value) → Work Nat
  | [] => return 0
  | (key, _) :: entries => do
    if (← key.isOrdered .less last) == down then return (← runLength down key entries) + 1
    else return 0

/-- The length of the run at the front, and whether it goes down. -/
def frontRun : List (Value × Value) → Work (Nat × Bool)
  | [] => return (0, false)
  | [_] => return (1, false)
  | (first, _) :: (second, _) :: entries => do
    let down ← second.isOrdered .less first
    return ((← runLength down second entries) + 2, down)

/-- The place for a key between two places of sorted entries. -/
def placeFor (sorted : Array (Value × Value)) (key : Value) (low high : Nat) : Work Nat :=
  if low < high then
    let middle := low + (high - low) / 2
    match sorted[middle]? with
    | some (other, _) => do
      if ← key.isOrdered .less other then placeFor sorted key low middle
      else placeFor sorted key (middle + 1) high
    | none => return low
  else return low
termination_by high - low

/-- Put entries among sorted ones, one after the other. -/
def insertAll (sorted : Array (Value × Value)) :
    List (Value × Value) → Work (Array (Value × Value))
  | [] => return sorted
  | entry :: entries => do
    let place ← placeFor sorted entry.1 0 sorted.size
    insertAll (sorted.insertIdxIfInBounds place entry) entries

/-- Entries in the order of their keys.  Entries with equal keys keep their order. -/
def sortUp (entries : List (Value × Value)) : Work (List (Value × Value)) := do
  let (length, down) ← frontRun entries
  let run := entries.take length
  let sorted ← insertAll (if down then run.reverse else run).toArray (entries.drop length)
  return sorted.toList

/-- The items of entries in the order of their keys, or in the opposite one. -/
def sortByKey (backwards : Bool) (entries : List (Value × Value)) : Work (List Value) := do
  if backwards then return ((← sortUp entries.reverse).map Prod.snd).reverse
  else return (← sortUp entries).map Prod.snd

end SetupScript.Template
