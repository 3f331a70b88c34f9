import SetupScript.Template.Given
import SetupScript.Template.Iteration

/-!
# Sets

A set is kept like a mapping whose values do not matter.  Sets come from the views of mappings: a view of
keys or entries is put together with the items of any other value, a set by an operator only with another
set or view.
-/

namespace SetupScript.Template

/-! ## Sets in the store -/

namespace Work

/-- A new set. -/
def newSet (members : List Value) : Work Value := do
  let cell ← add (.mapping #[])
  putEntries cell (members.map fun member => (member, .none))
  return .ofForm (.set cell)

/-- Give a set other members. -/
def putMembers (cell : Cell) (members : List Value) : Work Unit := do
  let entries ← members.mapM fun member => do return (← keep member, Value.none)
  changeEntries cell fun _ => entries.toArray

end Work

namespace SetMethod

/-! ## Combinations -/

/-- How two sets are put together. -/
inductive Combination
  | union
  | intersection
  | difference
  | symmetricDifference
deriving DecidableEq

/-- The combination that an operator of sets stands for. -/
def Combination.ofWord? (word : String) : Option Combination :=
  match word with
  | "or" => some union
  | "and" => some intersection
  | "sub" => some difference
  | "xor" => some symmetricDifference
  | _ => none

/-- The members that are among others, or those that are not. -/
def filtered (wanted : Bool) (members others : List Value) : Work (List Value) :=
  members.filterM fun member => do return (← occurs Value.agrees member others) == wanted

/-- Each of several members once. -/
def distinct (members : List Value) : Work (List Value) := do
  let cell ← Work.add (.mapping #[])
  Work.putEntries cell (members.map fun member => (member, .none))
  Work.members cell

/-- Two sets put together. -/
def combine (combination : Combination) (members others : List Value) : Work (List Value) := do
  let others ← distinct others
  match combination with
  | .union => return members ++ (← filtered false others members)
  | .intersection => filtered true members others
  | .difference => filtered false members others
  | .symmetricDifference =>
    return (← filtered false members others) ++ (← filtered false others members)

/-- Whether a value is a view that is like a set. -/
def isView (value : Value) : Bool :=
  match value.form with
  | .view .keys _ | .view .items _ => true
  | _ => false

/-- The items that two values share, of which one is a view; the view is asked for the items of the other
value. -/
def shared (engine : Engine) (first second : Value) : Work (List Value) := do
  let (view, other) := if isView first then (first, second) else (second, first)
  (← other.items engine).filterM fun item => view.contains engine item

/-- Two sets put together, or a view and any value; nothing if they do not go together. -/
def combined? (engine : Engine) (combination : Combination) (first second : Value) :
    Work (Option Value) := do
  match first.form, second.form, isView first || isView second with
  | .undefined _, _, _ => return none
  | .set left, .set right, _ =>
    return some (← Work.newSet
      (← combine combination (← Work.members left) (← Work.members right)))
  | _, _, true =>
    if combination = .intersection then return some (← Work.newSet (← shared engine first second))
    else
      let members ← distinct (← first.items engine)
      return some (← Work.newSet (← combine combination members (← second.items engine)))
  | _, _, false => return none

/-! ## Methods -/

/-- A set put together with the items of one value after another. -/
def combineAll (engine : Engine) (combination : Combination) (members : List Value) :
    List Value → Work (List Value)
  | [] => return members
  | other :: others => do
    combineAll engine combination (← combine combination members (← other.items engine)) others

/-- The combination that a method makes, and whether it changes the set. -/
def combination? (name : String) : Option (Combination × Bool) :=
  match name with
  | "union" => some (.union, false)
  | "update" => some (.union, true)
  | "intersection" => some (.intersection, false)
  | "intersection_update" => some (.intersection, true)
  | "difference" => some (.difference, false)
  | "difference_update" => some (.difference, true)
  | "symmetric_difference" => some (.symmetricDifference, false)
  | "symmetric_difference_update" => some (.symmetricDifference, true)
  | _ => none

/-- Take a member out of a set, and say whether it was there.  A set is never a member. -/
def remove (cell : Cell) (member : Value) : Work Bool := do
  match member.form with
  | .set _ => return false
  | _ =>
    match ← member.placeAmong? (← Work.entries cell) with
    | some place =>
      Work.removeEntry cell place
      return true
    | none => return false

/-- What a question about a set and another value answers. -/
def compare? (engine : Engine) (members : List Value) (name : String) (other : Value) :
    Work (Option Bool) := do
  match name with
  | "isdisjoint" => return some (← combine .intersection members (← other.items engine)).isEmpty
  | "issubset" => return some (← combine .difference members (← other.items engine)).isEmpty
  | "issuperset" =>
    return some (← filtered false (← distinct (← other.items engine)) members).isEmpty
  | _ => return none

/-- What a method of a set answers. -/
def call (engine : Engine) (cell : Cell) (name : String) (given : Given) : Work Value := do
  let members ← Work.members cell
  let others ← given.inOrder
  match combination? name, others with
  | some (combination, changes), _ =>
    if combination = .symmetricDifference ∧ others.length ≠ 1 then throw .wrongType
    else
      let combined ← combineAll engine combination members others
      if changes then
        Work.putMembers cell combined
        return .none
      else Work.newSet combined
  | none, [] =>
    match name, members with
    | "copy", _ => Work.newSet members
    | "clear", _ =>
      Work.putMembers cell []
      return .none
    | "pop", member :: _ =>
      discard (remove cell member)
      return member
    | "pop", [] => throw .missingKey
    | _, _ => throw .wrongType
  | none, [other] =>
    match name with
    | "add" =>
      Work.putEntry cell other .none
      return .none
    | "discard" =>
      discard (remove cell other)
      return .none
    | "remove" => if ← remove cell other then return .none else throw .missingKey
    | _ =>
      match ← compare? engine members name other with
      | some answer => return .boolean answer
      | none => throw .wrongType
  | none, _ => throw .wrongType

end SetMethod

end SetupScript.Template
