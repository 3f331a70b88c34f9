import SetupScript.Template.Display
import SetupScript.Template.Number

/-!
# Comparing values

Equality and order of values, and the keys of mappings.  Items of containers that are one and the same
count as equal without a look at them.  How deep two values are compared is bounded, since lists and
mappings may hold themselves.
-/

namespace SetupScript.Template

/-! ## Equality -/

/-- Whether two sequences agree item by item. -/
def agree (same : Value → Value → Work Bool) : List Value → List Value → Work Bool
  | [], [] => return true
  | first :: firsts, second :: seconds => do
    if ← same first second then agree same firsts seconds else return false
  | _, _ => return false

/-- Whether some value agrees with an item. -/
def occurs (same : Value → Value → Work Bool) (item : Value) : List Value → Work Bool
  | [] => return false
  | value :: values => do
    if ← same value item then return true else occurs same item values

/-- Whether every value agrees with one of the others. -/
def areAmong (same : Value → Value → Work Bool) (others : List Value) : List Value → Work Bool
  | [] => return true
  | value :: values => do
    if ← occurs same value others then areAmong same others values else return false

/-- The place of the entry whose key agrees with another key. -/
def placeOfKey? (same : Value → Value → Work Bool) (key : Value) (place : Nat) :
    List (Value × Value) → Work (Option Nat)
  | [] => return none
  | entry :: entries => do
    if ← same entry.1 key then return some place else placeOfKey? same key (place + 1) entries

/-- Whether every entry is found among others. -/
def entriesAgree (same : Value → Value → Work Bool) (others : List (Value × Value)) :
    List (Value × Value) → Work Bool
  | [] => return true
  | (key, value) :: entries => do
    match (← placeOfKey? same key 0 others).bind fun place => others[place]? with
    | some (_, other) =>
      if ← same value other then entriesAgree same others entries else return false
    | none => return false

/-- Whether a missing value equals a value that is none. -/
def missingEquals (missing : Missing) : Result Bool :=
  Value.useMissing missing false

/-- Whether two values are equal, looked at to a certain depth. -/
def equalAt : Nat → Value → Value → Work Bool
  | 0, _, _ => throw .tooDeep
  | depth + 1, first, second => do
    let same (left right : Value) : Work Bool :=
      if left.isSame right then return true else equalAt depth left right
    match first.form, second.form with
    | .undefined left, .undefined right =>
      if left.lenient then
        if right.lenient then return true else Value.failMissing right
      else Value.failMissing left
    | .undefined missing, _ | _, .undefined missing => missingEquals missing
    | .bytes left, .bytes right => return left == right
    | .range start stop step, .range start' stop' step' =>
      let length := rangeLength start stop step
      return length == rangeLength start' stop' step' &&
        (length == 0 || start == start' && (length == 1 || step == step'))
    | .list left, .list right => agree same (← Work.items left).toList (← Work.items right).toList
    | .mapping left, .mapping right => do
      let entries ← Work.entries left
      let others ← Work.entries right
      if entries.size = others.size then entriesAgree same others.toList entries.toList
      else return false
    | .method left name, .method right name' => return name == name' && left.isSame right
    | left, right =>
      match left.text?, right.text?, left.tuple?, right.tuple?, left.number?, right.number? with
      | some content, some other, _, _, _, _ => return content == other
      | _, _, some items, some others, _, _ => agree same items others
      | _, _, _, _, some number, some other => return number.isEqual other
      | _, _, _, _, _, _ =>
        match ← first.members?, ← second.members? with
        | some members, some others =>
          if members.length = others.length then areAmong same others members else return false
        | _, _ => return first.isSame second

namespace Value

/-- Whether two values are equal. -/
def equal (first second : Value) : Work Bool :=
  equalAt depthLimit first second

/-- Whether two items of containers are one and the same, or equal. -/
def agrees (first second : Value) : Work Bool :=
  if first.isSame second then return true else equal first second

end Value

/-! ## Keys -/

/-- Fail for a value that cannot be a key, looked at to a certain depth. -/
def checkKeyAt : Nat → Value → Result Unit
  | 0, _ => .error .tooDeep
  | depth + 1, value =>
    match value.form with
    | .undefined missing => Value.useMissing missing ()
    | form =>
      if form.isUnhashable then .error .wrongType
      else ((form.tuple?).getD []).forM (checkKeyAt depth)

namespace Value

/-- Fail for a value that cannot be a key. -/
def checkKey (value : Value) : Result Unit :=
  checkKeyAt depthLimit value

/-- The place of a key among entries. -/
def placeAmong? (key : Value) (entries : Array (Value × Value)) : Work (Option Nat) := do
  key.checkKey
  placeOfKey? agrees key 0 entries.toList

end Value

namespace Work

/-- The value of a key in a mapping or a record. -/
def lookUp? (cell : Cell) (key : Value) : Work (Option Value) := do
  let entries ← Work.entries cell
  return (← key.placeAmong? entries).bind fun place => entries[place]?.map Prod.snd

/-- Change the entries of a mapping or a record in their place. -/
def changeEntries (cell : Cell) (update : Array (Value × Value) → Array (Value × Value)) :
    Work Unit :=
  Procedure.change fun store =>
    { store with
      objects := store.objects.modify cell fun
        | .mapping entries => .mapping (update entries)
        | .record fields => .record (update fields)
        | object => object }

/-- Give a key of a mapping or a record a value. -/
def putEntry (cell : Cell) (key value : Value) : Work Unit := do
  let place? ← key.placeAmong? (← Work.entries cell)
  let value ← keep value
  match place? with
  | some place =>
    changeEntries cell fun entries => entries.modify place fun entry => (entry.1, value)
  | none => do
    let key ← keep key
    changeEntries cell fun entries => entries.push (key, value)

/-- Give several keys values, one after the other. -/
def putEntries (cell : Cell) (entries : List (Value × Value)) : Work Unit :=
  entries.forM fun entry => putEntry cell entry.1 entry.2

/-- Remove the entry at a place. -/
def removeEntry (cell : Cell) (place : Nat) : Work Unit :=
  changeEntries cell fun entries => entries.eraseIdxIfInBounds place

/-- A new mapping with several entries, of which later ones replace earlier ones with equal keys. -/
def newMappingOf (entries : List (Value × Value)) : Work Value := do
  let cell ← add (.mapping #[])
  putEntries cell entries
  return .ofForm (.mapping cell)

end Work

/-! ## Order -/

/-- Whether a comparison by order accepts the order that two values have. -/
def Comparison.accepts (comparison : Comparison) (order : Ordering) : Bool :=
  match comparison with
  | less => order == .lt
  | lessOrEqual => order != .gt
  | greater => order == .gt
  | _ => order != .lt

/-- The first items of two sequences that are not equal, else the order of the lengths. -/
def firstDifference (same : Value → Value → Work Bool) :
    List Value → List Value → Work (Ordering ⊕ Value × Value)
  | [], [] => return .inl .eq
  | [], _ :: _ => return .inl .lt
  | _ :: _, [] => return .inl .gt
  | first :: firsts, second :: seconds => do
    if ← same first second then firstDifference same firsts seconds
    else return .inr (first, second)

/-- Whether a comparison by order holds of two values, looked at to a certain depth. -/
def orderedAt (comparison : Comparison) : Nat → Value → Value → Work Bool
  | 0, _, _ => throw .tooDeep
  | depth + 1, first, second => do
    let sequences (firsts seconds : List Value) : Work Bool := do
      match ← firstDifference Value.agrees firsts seconds with
      | .inl order => return comparison.accepts order
      | .inr (left, right) => orderedAt comparison depth left right
    match first.form, second.form with
    | .undefined missing, _ | _, .undefined missing => Value.failMissing missing
    | .bytes left, .bytes right => return comparison.accepts (compare left right)
    | .list left, .list right => sequences (← Work.items left).toList (← Work.items right).toList
    | left, right =>
      match left.text?, right.text?, left.tuple?, right.tuple?, left.number?, right.number? with
      | some content, some other, _, _, _, _ => return comparison.accepts (compare content other)
      | _, _, some items, some others, _, _ => sequences items others
      | _, _, _, _, some (.complex ..), _ | _, _, _, _, _, some (.complex ..) => throw .wrongType
      | _, _, _, _, some number, some other => return (number.order? other).any comparison.accepts
      | _, _, _, _, _, _ =>
        match ← first.members?, ← second.members? with
        | some members, some others =>
          let order := compare members.length others.length
          if !comparison.accepts order then return false
          else if order == .gt then areAmong Value.agrees members others
          else areAmong Value.agrees others members
        | _, _ => throw .wrongType

/-- Whether a comparison by order holds of two values. -/
def Value.isOrdered (comparison : Comparison) (first second : Value) : Work Bool :=
  orderedAt comparison depthLimit first second

end SetupScript.Template
