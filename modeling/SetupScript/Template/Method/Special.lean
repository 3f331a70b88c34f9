import SetupScript.Template.Arithmetic
import SetupScript.Template.Layout
import SetupScript.Template.Method.Collection
import SetupScript.Template.Method.Set
import SetupScript.Template.Rounding

/-!
# Special methods

What the methods answer that stand for operators and conversions.  One that is given a value of a kind that
it does not know leaves the question unanswered, so that the other value may be asked.
-/

namespace SetupScript.Template.SpecialMethod

/-! ## Comparisons -/

/-- Whether a number knows how to deal with another one: integers with integers only, and floating-point
numbers with all that are not complex. -/
def knows : Number → Number → Bool
  | .whole _, .whole _ => true
  | .fractional _, .whole _ | .fractional _, .fractional _ => true
  | .complex .., _ => true
  | _, _ => false

/-- Whether a value says itself if it equals another one. -/
def isComparable (first second : Form) : Bool :=
  let isLikeSet : Form → Bool
    | .set _ | .view .keys _ | .view .items _ => true
    | _ => false
  match first, second with
  | .bytes _, .bytes _ | .list _, .list _ | .mapping _, .mapping _ | .range .., .range .. => true
  | .set _, .set _ => true
  | .view .keys _, form | .view .items _, form => isLikeSet form
  | _, _ =>
    (first.text?.isSome && second.text?.isSome) || (first.tuple?.isSome && second.tuple?.isSome) ||
      match first.number?, second.number? with
      | some number, some other => knows number other
      | _, _ => false

/-- Whether a value says itself if it comes before another one. -/
def isOrderable (first second : Form) : Bool :=
  match first with
  | .mapping _ | .range .. | .complex .. => false
  | _ => isComparable first second

/-- Whether two values are equal, if the first one can tell. -/
def equality? (first second : Value) : Work (Option Bool) := do
  if isComparable first.form second.form then return some (← first.equal second)
  else if first.isSame second then return some true
  else return none

/-- An answer, or none. -/
def orUnanswered (answer? : Option Bool) : Value :=
  match answer? with
  | some answer => .boolean answer
  | none => Form.unanswered

/-- The comparison by order that a word stands for. -/
def orderOf? (word : String) : Option Comparison :=
  match word with
  | "lt" => some .less
  | "le" => some .lessOrEqual
  | "gt" => some .greater
  | "ge" => some .greaterOrEqual
  | _ => none

/-! ## Hashes -/

/-- The number by which an integer is found among keys: what is left of it for a prime. -/
def hashOfInteger (value : Int) : Int :=
  let rest := Int.tmod value 0x1FFFFFFFFFFFFFFF
  if rest = -1 then -2 else rest

/-- The number by which a floating-point number is found: that of the integer it equals, where halves are
divisions by two for the prime. -/
def hashOfDecimal (value : Float) : Int :=
  if value.isNaN then 0
  else if value.isInf then if value < 0 then -314159 else 314159
  else
    let (numerator, denominator) := Number.fraction value
    let shift := (61 - denominator.log2 % 61) % 61
    hashOfInteger (numerator * Decimal.twoTo shift)

/-- The number by which a value is found among keys.  Only for numbers is it always the same. -/
def hashOf (value : Value) : Result Value := do
  value.checkKey
  match value.form.number? with
  | some (.whole number) => return .integer (hashOfInteger number)
  | some (.fractional number) => return .integer (hashOfDecimal number)
  | _ => return .integer 0

/-! ## Arithmetic -/

/-- The operators that words stand for. -/
def operatorOf? (word : String) : Option Operator :=
  match word with
  | "add" => some .add
  | "sub" => some .subtract
  | "mul" => some .multiply
  | "truediv" => some .divide
  | "floordiv" => some .divideFloor
  | "mod" => some .remainder
  | "pow" => some .power
  | _ => none

/-- The binary digits that two integers share; a negative one has endless digits in front. -/
def sharedDigits : Int → Int → Int
  | .ofNat first, .ofNat second => Nat.land first second
  | .ofNat first, .negSucc second | .negSucc second, .ofNat first =>
    (first : Int) - Nat.land first second
  | .negSucc first, .negSucc second => .negSucc (Nat.lor first second)

/-- An integer with binary digits put behind it, or taken off. -/
def shifted (value places : Int) : Result Int :=
  if value = 0 then .ok 0
  else if 0 ≤ places then
    if 0x8000000000000000 ≤ places then .error .overflow
    else do
      checkRoom (places.toNat / 8)
      return value * Decimal.twoTo places.toNat
  else if value.natAbs.log2 < places.natAbs then .ok (if value < 0 then -1 else 0)
  else .ok (Int.fdiv value (Decimal.twoTo places.natAbs))

/-- What a word makes of two integers digit by digit. -/
def digitwise? (word : String) (first second : Int) : Option (Result Int) :=
  let shared := sharedDigits first second
  match word with
  | "and" => some (.ok shared)
  | "or" => some (.ok (first + second - shared))
  | "xor" => some (.ok (first + second - 2 * shared))
  | "lshift" => some (if second < 0 then .error .wrongValue else shifted first second)
  | "rshift" => some (if second < 0 then .error .wrongValue else shifted first (-second))
  | _ => none

/-- What a word makes of two numbers. -/
def calculate? (word : String) (first second : Number) : Option (Result Value) :=
  match operatorOf? word, word, first, second with
  | some operator, _, _, _ => some (first.operate operator second)
  | none, "divmod", _, _ =>
    some do
      return .tuple
        [← first.operate .divideFloor second, ← first.operate .remainder second]
  | none, _, .whole left, .whole right =>
    (digitwise? word left right).map fun answer => answer.map Value.integer
  | _, _, _, _ => none

/-- The word for an operator with its operands exchanged. -/
def exchanged? (word : String) : Option String :=
  match word.toList with
  | 'r' :: rest => some (String.ofList rest)
  | _ => none

/-- The value of an operator on a number and another value. -/
def calculate (first : Number) (word : String) (value other : Value) : Option (Result Value) :=
  let areTruths : Bool :=
    match value.form, other.form with
    | .boolean _, .boolean _ => ["and", "or", "xor", "rand", "ror", "rxor"].contains word
    | _, _ => false
  let finish (answer : Result Value) : Result Value := do
    let answer ← answer
    if areTruths then return .boolean (answer.form.whole? != some 0) else return answer
  let isOperator (word : String) : Bool := (calculate? word (.whole 1) (.whole 1)).isSome
  let known? : Option Number := other.form.number?.filter (knows first)
  match known?, exchanged? word with
  | some second, some plain =>
    ((calculate? word first second).or (calculate? plain second first)).map finish
  | some second, none => (calculate? word first second).map finish
  | none, plain? =>
    if isOperator word || plain?.any isOperator then some (.ok Form.unanswered) else none

/-- The inverse of an integer for a modulus, by following divisions down to one. -/
def inverseFrom : Nat → Int → Int → Int → Int → Option Int
  | 0, _, _, _, _ => none
  | fuel + 1, divisor, rest, before, now =>
    if rest = 0 then if divisor = 1 then some before else none
    else inverseFrom fuel rest (divisor % rest) now (before - divisor / rest * now)

/-- A power, of which only what is left for a modulus is kept. -/
def powerFor (modulus : Nat) (base : Nat) (exponent : Nat) : Nat :=
  (Nat.toDigits 2 exponent).foldl (fun power digit =>
    if digit = '1' then power * power % modulus * base % modulus else power * power % modulus)
    (1 % modulus)

/-- What is left of a power for a modulus, whose sign it has. -/
def modularPower (base exponent modulus : Int) : Result Value := do
  let size := modulus.natAbs
  if size = 0 then throw .wrongValue
  else
    let reduced := base % size
    let base ←
      if 0 ≤ exponent then pure reduced
      else
        match inverseFrom (2 * size.log2 + 4) size reduced 0 1 with
        | some inverse => pure (inverse % size)
        | none => throw .wrongValue
    let power : Int := powerFor size base.toNat exponent.natAbs
    return .integer (if modulus < 0 ∧ power ≠ 0 then power - size else power)

/-! ## Numbers -/

/-- What a special method of a number answers that takes no arguments. -/
def unary? (value : Value) (word : String) : Option (Result Value) :=
  let plain? : Option (Result Value) := some value.affirm
  match word, value.form with
  | "neg", _ => some value.negate
  | "pos", _ | "index", _ => plain?
  | "abs", _ => some value.magnitude
  | "invert", form => some do return .integer (-1 - (← form.whole))
  | "int", _ | "trunc", _ => some (value.numberToInteger.map Value.integer)
  | "float", _ => some (value.numberToDecimal.map Value.decimal)
  | "complex", _ => plain?
  | "floor", _ => some (value.nextInteger false)
  | "ceil", _ => some (value.nextInteger true)
  | "getnewargs", .complex real imaginary => some (.ok (.tuple [.decimal real, .decimal imaginary]))
  | "getnewargs", _ => some (value.affirm.map fun number => .tuple [number])
  | _, _ => none

/-- A number rounded to decimal places or to an integer. -/
def round (value : Value) (given : List Value) : Result Value :=
  match value.form, given with
  | _, [] => value.roundCommon .none
  | .decimal _, [places] => value.roundCommon places
  | _, [places] => do
    let places ← places.form.whole
    value.roundCommon (.integer places)
  | _, _ => .error .wrongType

/-- What a special method of a number answers. -/
def callNumber (number : Number) (value : Value) (word : String) (given : List Value) :
    Result Value := do
  match word, given with
  | "round", _ => round value given
  | "pow", [exponent, modulus] =>
    match modulus.form, value.form.whole?, exponent.form.whole?, modulus.form.whole? with
    | .none, _, _, _ => (calculate number word value exponent).getD (.error .wrongType)
    | _, some base, some exponent, some modulus => modularPower base exponent modulus
    | _, some _, _, _ => return Form.unanswered
    | _, none, _, _ => throw .wrongType
  | _, [] => (unary? value word).getD (.error .wrongType)
  | _, [other] => (calculate number word value other).getD (.error .wrongType)
  | _, _ => throw .wrongType

/-! ## Collections -/

/-- The type of the stream of a value's items. -/
def streamKind (form : Form) : StreamKind :=
  match form with
  | .list _ => .plain "list_iterator"
  | .mapping _ | .view .keys _ => .plain "dict_keyiterator"
  | .view .values _ => .plain "dict_valueiterator"
  | .view .items _ => .plain "dict_itemiterator"
  | .set _ => .plain "set_iterator"
  | .bytes _ => .plain "bytes_iterator"
  | .range .. => .range
  | form =>
    match form.text? with
    | some content =>
      if content.toList.all fun character => character.toNat < 0x80 then
        .plain "str_ascii_iterator"
      else .plain "str_iterator"
    | none => .plain "tuple_iterator"

/-- The stream of a value's items as a value. -/
def streamOf (value : Value) : Work Value := do
  match value.form with
  | .stream .. | .loop _ => return value
  | form => return Form.stream (streamKind form) (← value.stream)

/-- The message of a stream that is asked for an item when it has none. -/
def exhausted : Value :=
  .missing "value was undefined because a callable raised a StopIteration exception"

/-- The place in a list that an index leads to. -/
def placeIn (cell : Cell) (index : Value) : Work Nat := do
  let size := (← Work.items cell).size
  let place ← index.form.count
  let place := if place < 0 then place + size else place
  if 0 ≤ place ∧ place < size then return place.toNat else throw .missingItem

/-- Put a value into a list or a mapping. -/
def putItem (container index value : Value) : Work Unit := do
  match container.form with
  | .list cell =>
    let place ← placeIn cell index
    let value ← Work.keep value
    Work.changeItems cell fun items => items.setIfInBounds place value
  | .mapping cell => Work.putEntry cell index value
  | _ => throw .wrongType

/-- Take an item out of a list, or an entry out of a mapping. -/
def removeItem (container index : Value) : Work Unit := do
  match container.form with
  | .list cell =>
    let place ← placeIn cell index
    Work.changeItems cell fun items => items.eraseIdxIfInBounds place
  | .mapping cell => discard (Mapping.pop cell index none)
  | _ => throw .wrongType

/-- A new mapping with the entries of one mapping and then those of another. -/
def merged (first second : Cell) : Work Value := do
  Work.newMappingOf ((← Work.entries first).toList ++ (← Work.entries second).toList)

/-- What a special method answers that puts two mappings together. -/
def mergedBy? (engine : Engine) (cell : Cell) (word : String) (value other : Value) :
    Work (Option Value) := do
  match word, other.form with
  | "or", .mapping second => return some (← merged cell second)
  | "ror", .mapping second => return some (← merged second cell)
  | "or", _ | "ror", _ => return some Form.unanswered
  | "ior", _ =>
    Mapping.update engine cell ⟨[other], []⟩
    return some value
  | _, _ => return none

/-- What a special method of a list answers that changes it. -/
def changedList? (engine : Engine) (cell : Cell) (word : String) (value other : Value) :
    Work (Option Value) := do
  match word with
  | "iadd" =>
    ListMethod.extend engine cell other
    return some value
  | "imul" =>
    let items ← Value.repeatItems (← Work.items cell).toList (← other.form.count)
    Work.changeItems cell fun _ => items.toArray
    return some value
  | _ => return none

/-- What a special method answers that puts two sets together, or a view and another value; those of sets
may change the first one. -/
def combinedBy? (engine : Engine) (word : String) (value other : Value) : Work (Option Value) := do
  let combined (combination : SetMethod.Combination) (first second : Value) : Work (Option Value) := do
    match value.form, other.form with
    | .set _, .set _ | .view .., _ =>
      return some ((← SetMethod.combined? engine combination first second).getD Form.unanswered)
    | _, _ => return some Form.unanswered
  match SetMethod.Combination.ofWord? word, word.toList with
  | some combination, _ => combined combination value other
  | none, mark :: rest =>
    match SetMethod.Combination.ofWord? (String.ofList rest), mark, value.form, other.form with
    | some combination, 'r', _, _ => combined combination other value
    | some combination, 'i', .set cell, .set others => do
      Work.putMembers cell
        (← SetMethod.combine combination (← Work.members cell) (← Work.members others))
      return some value
    | some _, 'i', _, _ => return some Form.unanswered
    | _, _, _, _ => return none
  | none, [] => return none

/-- What a special method answers that takes one argument and joins, repeats or combines values. -/
def joinedBy? (engine : Engine) (word : String) (value other : Value) : Work (Option Value) := do
  match value.form with
  | .mapping cell => mergedBy? engine cell word value other
  | .set _ | .view .. => combinedBy? engine word value other
  | form =>
    match word, form with
    | "iadd", .list cell | "imul", .list cell => changedList? engine cell word value other
    | "add", _ => value.joined? other
    | "mul", _ | "rmul", _ => value.repeated? (← other.form.count)
    | "mod", .text content => return some (.text (← Percent.format false content other))
    | "mod", .markup content => return some (.markup (← Percent.format true content other))
    | "rmod", _ =>
      if other.form.text?.isSome then return some (← other.operate .remainder value)
      else return some Form.unanswered
    | _, _ => return none

/-- What a special method answers that looks at a value's items. -/
def callCollection (engine : Engine) (value : Value) (word : String) (given : List Value) :
    Work Value := do
  match word, given with
  | "len", [] => return .integer (← value.length engine)
  | "iter", [] => streamOf value
  | "next", [] =>
    match value.form with
    | .stream _ cell => return (← engine.advance cell).getD exhausted
    | .loop cell =>
      match ← Loop.next? engine cell with
      | some item => return .tuple [item, value]
      | none => return exhausted
    | _ => throw .wrongType
  | "reversed", [] =>
    match ← value.backwards? with
    | some stream => return stream
    | none => throw .wrongType
  | "bool", [] => return .boolean (← value.truth)
  | "bytes", [] => return value
  | "html", [] => return value
  | "getnewargs", [] =>
    match value.form.tuple?, value.form.text? with
    | some items, _ => return .tuple [.tuple items]
    | none, some content => return .tuple [.text content]
    | none, none => return .tuple [value]
  | "contains", [item] => return .boolean (← value.contains engine item)
  | "getitem", [index] => value.mustItem index
  | "delitem", [index] =>
    removeItem value index
    return .none
  | "setitem", [index, item] =>
    putItem value index item
    return .none
  | _, [other] =>
    match ← joinedBy? engine word value other with
    | some answer => return answer
    | none => throw .wrongType
  | _, _ => throw .wrongType

/-! ## All special methods -/

/-- What a special method answers that all values have; nothing if it is another one. -/
def callCommon? (engine : Engine) (value : Value) (word : String) (given : List Value) :
    Work (Option Value) := do
  match word, given, orderOf? word with
  | "eq", [other], _ => return some (orUnanswered (← equality? value other))
  | "ne", [other], _ => return some (orUnanswered ((← equality? value other).map (!·)))
  | "hash", [], _ => return some (← hashOf value)
  | "repr", [], _ => return some (.text (← value.nested))
  | "str", [], _ => return some (.textMarked value.form.isMarkup (← value.display))
  | "format", [layout], _ => return some (.text (← value.inLayout (← layout.content)))
  | "getattribute", [name], _ =>
    match ← value.attribute? engine (← name.content) with
    | some found => return some found
    | none => throw .missingAttribute
  | _, [other], some comparison =>
    if isOrderable value.form other.form then
      return some (.boolean (← value.isOrdered comparison other))
    else return some Form.unanswered
  | _, _, some _ => throw .wrongType
  | _, _, none =>
    if commonWords.contains word then throw .wrongType else return none

/-- What a special method of a value answers. -/
def call (engine : Engine) (value : Value) (name : String) (given : Given) : Work Value := do
  if name = "__call__" then engine.call value given
  else
    let word := specialWord name
    let given ← given.inOrder
    match ← callCommon? engine value word given, value.form.number? with
    | some answer, _ => return answer
    | none, some number =>
      if word = "bool" ∧ given.isEmpty then return .boolean (← value.truth)
      else liftM (callNumber number value word given)
    | none, none => callCollection engine value word given

end SetupScript.Template.SpecialMethod
