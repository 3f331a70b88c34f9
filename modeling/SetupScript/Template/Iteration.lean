import SetupScript.Template.Attribute
import SetupScript.Text.Based
import SetupScript.Text.Case
import SetupScript.Text.Search

/-!
# Going through values

The streams of the items of values.  A stream of a list, a mapping or a range follows it as it changes; a
stream that a filter makes begins only when its first item is asked for, and is over once it has failed.
-/

namespace SetupScript.Template

/-! ## Paths -/

/-- A part of a path: a place if it consists of digits, else a name. -/
def pathPart (part : List Char) : Result Value :=
  if !part.isEmpty && part.all Character.isDigitLike then
    match Text.integerInBase? 10 part with
    | some place => .ok (.integer place)
    | none => .error .wrongValue
  else .ok (.ofCharacters part)

/-- The parts of a path, which are separated by dots if it is a text. -/
def pathParts (path : Value) : Result (List Value) :=
  match path.form with
  | .none => .ok []
  | form =>
    match form.text? with
    | some content => (Text.fields '.' content.toList).mapM pathPart
    | none => .ok [path]

/-- What a path leads to from an item, with a fallback for every part that is missing. -/
def follow (engine : Engine) (fallback item : Value) : List Value → Work Value
  | [] => return item
  | part :: parts => do
    let found ← item.getItem engine part
    match fallback.form with
    | .none => follow engine fallback found parts
    | _ => follow engine fallback (if found.isUndefined then fallback else found) parts

/-- What a path leads to from an item. -/
def valueAt (engine : Engine) (path item : Value) : Work Value := do
  follow engine .none item (← pathParts path)

/-- A key in which the case of letters does not matter. -/
def foldCase (key : Value) : Value :=
  match key.form.text? with
  | some content =>
    .textMarked key.form.isMarkup (String.ofList (Text.lower content.toList))
  | none => key

/-- The key that a path leads to from an item. -/
def keyAt (engine : Engine) (caseMatters : Bool) (path item : Value) : Work Value := do
  let key ← valueAt engine path item
  return if caseMatters then key else foldCase key

/-! ## Filters and tests by name -/

/-- The name of a filter or test that a value gives. -/
def nameOf (value : Value) : Result String := do
  value.checkKey
  match value.form.text? with
  | some name => return name
  | none => throw .unusable

/-- What is made of the items of a stream. -/
def Change.ofGiven (given : Given) : Result Change :=
  match given.positional, given.named.lookup "attribute" with
  | [], some path =>
    if given.named.all fun entry => entry.1 == "attribute" || entry.1 == "default" then do
      discard (pathParts path)
      return .attribute path ((given.named.lookup "default").getD .none)
    else .error .unusable
  | [], none => .error .unusable
  | name :: rest, _ => .ok (.filter name { given with positional := rest })

/-- What is made of an item. -/
def Change.apply (engine : Engine) (item : Value) : Change → Work Value
  | .attribute path fallback => do follow engine fallback item (← pathParts path)
  | .filter name given => do engine.filter (← nameOf name) item given

/-- What decides on the items of a stream. -/
def Sieve.ofGiven (wanted byAttribute : Bool) (given : Given) : Result Sieve := do
  let (path?, rest) ←
    match byAttribute, given.positional with
    | false, rest => pure (none, rest)
    | true, path :: rest => do
      discard (pathParts path)
      pure (some path, rest)
    | true, [] => throw .unusable
  return {
    wanted := wanted
    path? := path?
    test? :=
      match rest with
      | [] => none
      | name :: rest => some (name, { given with positional := rest }) }

/-- Whether an item passes. -/
def Sieve.passes (engine : Engine) (item : Value) (sieve : Sieve) : Work Bool := do
  let looked ←
    match sieve.path? with
    | some path => valueAt engine path item
    | none => pure item
  let holds ←
    match sieve.test? with
    | some (name, given) => do engine.test (← nameOf name) looked given
    | none => looked.truth
  return holds == sieve.wanted

/-! ## Streams -/

namespace Value

/-- How the stream of a value's items begins. -/
def firstStep (value : Value) : Work Iteration := do
  match value.form with
  | .list cell => return .listItems cell 0
  | .mapping cell => return .parts .keys cell 0 (← Work.entries cell).size
  | .view kind cell => return .parts kind cell 0 (← Work.entries cell).size
  | .set cell => return .members cell (← Work.members cell) (← Work.entries cell).size
  | .range start stop step => return .numbers start step (rangeLength start stop step)
  | .bytes bytes => return .values (bytes.map fun byte => .integer byte.toNat)
  | .loop cell => return .loopItems cell
  | .undefined missing => useMissing missing .finished
  | form =>
    match form.tuple?, form.text? with
    | some items, _ => return .values items
    | Option.none, some content => return .letters content.toList
    | Option.none, Option.none => throw .wrongType

/-- The stream of a value's items; that of a stream is the stream itself. -/
def stream (value : Value) : Work Cell := do
  match value.form with
  | .stream _ cell => return cell
  | _ => Work.add (.stream (← value.firstStep))

/-- The items of a value, which are used up if it is a stream. -/
def items (engine : Engine) (value : Value) : Work (List Value) := do
  match value.form with
  | .list cell => return (← Work.items cell).toList
  | .mapping cell => return ViewKind.parts .keys (← Work.entries cell).toList
  | .view kind cell => return kind.parts (← Work.entries cell).toList
  | .set cell => Work.members cell
  | _ => return (← drain engine (← value.stream) itemLimit #[]).toList

/-- The first item of a value. -/
def first? (engine : Engine) (value : Value) : Work (Option Value) := do
  engine.advance (← value.stream)

/-- How many items a value has. -/
def length (engine : Engine) (value : Value) : Work Nat := do
  match value.form, ← sizeOf? value with
  | .loop cell, _ => Loop.length engine cell
  | _, some length => return length
  | _, Option.none => throw .wrongType

end Value

/-- The entry of a mapping that a view shows. -/
def ViewKind.part (kind : ViewKind) (entry : Value × Value) : Value :=
  match kind with
  | keys => entry.1
  | values => entry.2
  | items => .tuple [entry.1, entry.2]

/-! ## Groups of items -/

/-- A group filled up to a size, if there is something to fill it with. -/
def filledUp (size filler : Value) (group : List Value) : Work (List Value) := do
  match filler.form with
  | .none => return group
  | _ =>
    if ← Value.isOrdered .less (.integer group.length) size then
      return group ++ List.replicate ((← size.form.whole) - group.length).toNat filler
    else return group

/-- The next group of a size: the items of the stream behind those of the group that has begun. -/
def nextGroup (engine : Engine) (cell source : Cell) (size filler : Value) :
    Nat → Array Value → Work (Option Value)
  | 0, _ => throw .tooDeep
  | fuel + 1, group => do
    match ← engine.advance source with
    | some item =>
      if ← Value.equal (.integer group.size) size then
        Work.putIteration cell (.batches source [item] size filler)
        return some (← Work.newList group.toList)
      else nextGroup engine cell source size filler fuel (group.push item)
    | none =>
      if group.isEmpty then return none
      else return some (← Work.newList (← filledUp size filler group.toList))

/-- The items in a number of groups of nearly equal sizes, the larger ones first. -/
def slicesOf (count filler : Value) (items : List Value) : Result (List (List Value)) := do
  match count.form with
  | .undefined missing => Value.failMissing missing
  | .decimal number => throw (if number == 0 then .zeroDivision else .wrongType)
  | form =>
    let count ← form.whole
    if count = 0 then throw .zeroDivision
    else
      let size := items.length / count.toNat
      let larger := items.length % count.toNat
      return (List.range count.toNat).map fun number =>
        let start := number * size + min number larger
        let group := (items.drop start).take (size + if number < larger then 1 else 0)
        match filler.form with
        | .none => group
        | _ => if number < larger then group else group ++ [filler]

/-! ## Steps -/

/-- How a stream begins that a filter has made. -/
def Generator.begin (engine : Engine) (subject : Value) : Generator → Work Iteration
  | map given => do
    if ← subject.truth then
      let change ← Change.ofGiven given
      return .changing (← subject.stream) change
    else return .finished
  | select wanted byAttribute given => do
    if ← subject.truth then
      let sieve ← Sieve.ofGiven wanted byAttribute given
      return .sifting (← subject.stream) sieve
    else return .finished
  | batch size filler => do return .batches (← subject.stream) [] size filler
  | slice count filler => do return .slices (← slicesOf count filler (← subject.items engine))
  | unique caseMatters path => do
    let caseMatters ← caseMatters.truth
    discard (liftM (pathParts path))
    return .firsts (← subject.stream) [] caseMatters path
  | pairs => do
    match subject.form with
    | .undefined _ => return .finished
    | .mapping cell => return .parts .items cell 0 (← Work.entries cell).size
    | _ => throw .wrongType
  | choose target condition symbols frame => do
    let inner ← engine.openFrame frame symbols
    return .chosen (← subject.stream) target condition inner

/-- The first item of a stream that is not left out. -/
def firstKept (engine : Engine) (source : Cell) (keep : Value → Work (Option Value)) :
    Nat → Work (Option Value)
  | 0 => throw .tooDeep
  | fuel + 1 => do
    match ← engine.advance source with
    | none => return none
    | some item =>
      match ← keep item with
      | some kept => return some kept
      | none => firstKept engine source keep fuel

/-- The next item of a stream, which is over unless it notes how it goes on. -/
def Iteration.step (engine : Engine) (cell : Cell) : Iteration → Work (Option Value)
  | finished | waiting .. => return none
  | listItems list place => do
    match (← Work.items list)[place]? with
    | some item => goOn (listItems list (place + 1)) item
    | none => return none
  | listBack _ 0 => return none
  | listBack list (left + 1) => do
    match (← Work.items list)[left]? with
    | some item => goOn (listBack list left) item
    | none => return none
  | parts kind mapping place size => do
    let entries ← Work.entries mapping
    if entries.size != size then stay (parts kind mapping place size)
    else
      match entries[place]? with
      | some entry => goOn (parts kind mapping (place + 1) size) (kind.part entry)
      | none => return none
  | partsBack _ _ 0 _ => return none
  | partsBack kind mapping (left + 1) size => do
    let entries ← Work.entries mapping
    if entries.size != size then stay (partsBack kind mapping (left + 1) size)
    else
      match entries[left]? with
      | some entry => goOn (partsBack kind mapping left size) (kind.part entry)
      | none => return none
  | members set left size => do
    if (← Work.entries set).size != size then stay (members set left size)
    else
      match left with
      | member :: left => goOn (members set left size) member
      | [] => return none
  | numbers _ _ 0 => return none
  | numbers next step (left + 1) => goOn (numbers (next + step) step left) (.integer next)
  | values [] | letters [] | slices [] => return none
  | values (item :: items) => goOn (values items) item
  | letters (character :: characters) => goOn (letters characters) (.text character.toString)
  | slices (group :: groups) => do goOn (slices groups) (← Work.newList group)
  | loopItems loop => do
    match ← Loop.next? engine loop with
    | some item => goOn (loopItems loop) (.tuple [item, .ofForm (.loop loop)])
    | none => return none
  | changing source change => do
    match ← engine.advance source with
    | some item => do goOn (changing source change) (← change.apply engine item)
    | none => return none
  | sifting source sieve => do
    let found? ← firstKept engine source (fun item => do
      return if ← sieve.passes engine item then some item else none) itemLimit
    stayIfSome (sifting source sieve) found?
  | batches source current size filler => do
    nextGroup engine cell source size filler itemLimit current.toArray
  | firsts source seen caseMatters path => do
    let found? ← firstKept engine source (fun item => do
      let key ← keyAt engine caseMatters path item
      key.checkKey
      if ← occurs Value.agrees key seen then return none
      else
        let key ← Work.keep key
        Work.putIteration cell (firsts source (key :: seen) caseMatters path)
        return some item) itemLimit
    return found?
  | chosen source target condition frame => do
    let found? ← firstKept engine source (fun item => do
      let taken ← engine.bind frame target item
      return if ← engine.holds frame condition then some taken else none) itemLimit
    stayIfSome (chosen source target condition frame) found?
where
  /-- Give an item out and go on behind it. -/
  goOn (iteration : Iteration) (item : Value) : Work (Option Value) := do
    Work.putIteration cell iteration
    return some item
  /-- Go on as before if there was an item. -/
  stayIfSome (iteration : Iteration) (item? : Option Value) : Work (Option Value) := do
    if item?.isSome then Work.putIteration cell iteration
    return item?
  /-- Fail at a mapping that has changed, now and later. -/
  stay (iteration : Iteration) : Work (Option Value) := do
    Work.putIteration cell iteration
    throw .wrongState

/-- The next item of a stream. -/
def advanceWith (engine : Engine) (cell : Cell) : Work (Option Value) := do
  let iteration ← Work.iteration cell
  Work.putIteration cell .finished
  match iteration with
  | .waiting generator subject => do
    let begun ← generator.begin engine subject
    begun.step engine cell
  | iteration => iteration.step engine cell

/-- The stream of a value's items from the last one on, if it can be gone through backwards. -/
def Value.backwards? (value : Value) : Work (Option Value) := do
  match value.form with
  | .list cell => return some (← Work.newStream .listBack (.listBack cell (← Work.items cell).size))
  | .mapping cell =>
    let size := (← Work.entries cell).size
    return some (← Work.newStream (.viewBack .keys) (.partsBack .keys cell size size))
  | .view kind cell =>
    let size := (← Work.entries cell).size
    return some (← Work.newStream (.viewBack kind) (.partsBack kind cell size size))
  | .range start stop step =>
    let length := rangeLength start stop step
    return some (← Work.newStream .range
      (.numbers (start + ((length : Int) - 1) * step) (-step) length))
  | .bytes bytes =>
    return some (← Work.newStream .back
      (.values (bytes.reverse.map fun byte => .integer byte.toNat)))
  | .undefined missing =>
    discard (liftM (Value.useMissing missing () : Result Unit) : Work Unit)
    return some (← Work.newStream .back .finished)
  | form =>
    match form.tuple?, form.text? with
    | some items, _ => return some (← Work.newStream .back (.values items.reverse))
    | Option.none, some content => return some (← Work.newStream .back (.letters content.toList.reverse))
    | Option.none, Option.none => return Option.none

/-! ## Membership -/

/-- Whether an item comes up in a stream, which is used up to the item. -/
def occursIn (engine : Engine) (source : Cell) (item : Value) : Nat → Work Bool
  | 0 => throw .tooDeep
  | fuel + 1 => do
    match ← engine.advance source with
    | none => return false
    | some other => do
      if ← other.agrees item then return true else occursIn engine source item fuel

/-- Whether an integer is among the numbers of a range. -/
def isInRange (start stop step item : Int) : Bool :=
  if 0 < step then start ≤ item && item < stop && (item - start) % step == 0
  else stop < item && item ≤ start && (start - item) % -step == 0

namespace Value

/-- Whether a value contains an item: a text a part of it, a mapping a key, anything else an item. -/
def contains (engine : Engine) (container item : Value) : Work Bool := do
  match container.form with
  | .mapping cell | .view .keys cell => return (← Work.lookUp? cell item).isSome
  | .set cell =>
    match item.form with
    | .set _ => return false
    | _ => return (← Work.lookUp? cell item).isSome
  | .view .items cell =>
    match item.form.tuple? with
    | some [key, value] =>
      match ← Work.lookUp? cell key with
      | some other => other.agrees value
      | Option.none => return false
    | _ => return false
  | .range start stop step =>
    match item.form with
    | .undefined missing =>
      if rangeLength start stop step = 0 then return false else useMissing missing false
    | form =>
      match form.number? with
      | some (.whole number) => return isInRange start stop step number
      | some (.fractional number) => return (Decimal.integer? number).any (isInRange start stop step)
      | some (.complex real imaginary) =>
        return imaginary == 0 && (Decimal.integer? real).any (isInRange start stop step)
      | Option.none => return false
  | .bytes bytes =>
    match item.form with
    | .bytes part =>
      let characters (bytes : List UInt8) : List Char := bytes.map fun byte => Char.ofNat byte.toNat
      return Text.occursIn (characters part) (characters bytes)
    | form => do
      let byte ← form.whole
      if 0 ≤ byte ∧ byte < 256 then return bytes.any fun other => other.toNat == byte.toNat
      else throw .wrongValue
  | .text content | .markup content =>
    return Text.occursIn (← item.characters) content.toList
  | _ => occursIn engine (← container.stream) item itemLimit

end Value

end SetupScript.Template
