import SetupScript.Decimal.Complex
import SetupScript.Decimal.Division
import SetupScript.Template.Percent

/-!
# Arithmetic

The operators of expressions on the values of templates.  Division and remainder go to the floor; a
sum or product of texts and sequences joins or repeats them; a remainder of a text fills in a
format.
-/

namespace SetupScript.Template

/-! ## Numbers -/

namespace Number

/-- A number as a complex one. -/
def toComplex : Number → Result Decimal.Complex
  | whole value => do return .ofReal (← decimalOf value)
  | fractional value => .ok (.ofReal value)
  | complex real imaginary => .ok ⟨real, imaginary⟩

/-- A complex number as a value. -/
def ofComplex (number : Decimal.Complex) : Value :=
  Form.complex number.real number.imaginary

/-- An integer divided by another one. -/
def quotient (first second : Int) : Result Value :=
  if second = 0 then .error .zeroDivision
  else
    let negative : Bool := (first < 0) != (second < 0)
    let quotient := Decimal.ofRatio false first.natAbs second.natAbs
    if quotient.isInf then .error .overflow
    else .ok (.decimal (if negative then -quotient else quotient))

/-- A power of complex numbers. -/
def complexPower (base exponent : Decimal.Complex) : Result Value :=
  match base.power? exponent with
  | none => .error .zeroDivision
  | some power => if power.isInfinite then .error .overflow else .ok (ofComplex power)

/-- A power of floating-point numbers, which is complex for a root of a negative number. -/
def decimalPower (base exponent : Float) : Result Value :=
  let isFinite := Literal.isFinite base && Literal.isFinite exponent
  if base == 0 && exponent < 0 && isFinite then .error .zeroDivision
  else if base < 0 && exponent != exponent.floor && isFinite then
    complexPower (.ofReal base) (.ofReal exponent)
  else
    let power := base.pow exponent
    if power.isInf && isFinite then .error .overflow else .ok (.decimal power)

/-- Apply one operation to integers, another one to floating-point numbers, and a third one to complex
numbers. -/
def combine (first second : Number) (wholes : Int → Int → Result Value)
    (decimals : Float → Float → Result Value)
    (complexes : Decimal.Complex → Decimal.Complex → Result Value) : Result Value :=
  match first, second with
  | whole left, whole right => wholes left right
  | complex .., _ | _, complex .. => do complexes (← first.toComplex) (← second.toComplex)
  | _, _ => do decimals (← first.toDecimal) (← second.toDecimal)

/-- The value of an operator on two numbers. -/
def operate (operator : Operator) (first second : Number) : Result Value :=
  match operator with
  | .add =>
    combine first second (fun left right => .ok (.integer (left + right)))
      (fun left right => .ok (.decimal (left + right)))
      fun left right => .ok (ofComplex (left.add right))
  | .subtract =>
    combine first second (fun left right => .ok (.integer (left - right)))
      (fun left right => .ok (.decimal (left - right)))
      fun left right => .ok (ofComplex (left.subtract right))
  | .multiply =>
    combine first second (fun left right => .ok (.integer (left * right)))
      (fun left right => .ok (.decimal (left * right)))
      fun left right => .ok (ofComplex (left.multiply right))
  | .divide =>
    combine first second quotient
      (fun left right => if right == 0 then .error .zeroDivision else .ok (.decimal (left / right)))
      fun left right =>
        match left.divide? right with
        | some quotient => .ok (ofComplex quotient)
        | none => .error .zeroDivision
  | .divideFloor =>
    combine first second
      (fun left right =>
        if right = 0 then .error .zeroDivision else .ok (.integer (Int.fdiv left right)))
      (fun left right =>
        if right == 0 then .error .zeroDivision
        else .ok (.decimal (Decimal.floorQuotient left right)))
      fun _ _ => .error .wrongType
  | .remainder =>
    combine first second
      (fun left right =>
        if right = 0 then .error .zeroDivision else .ok (.integer (Int.fmod left right)))
      (fun left right =>
        if right == 0 then .error .zeroDivision
        else .ok (.decimal (Decimal.floorRemainder left right)))
      fun _ _ => .error .wrongType
  | .power =>
    combine first second
      (fun left right =>
        if 0 ≤ right then .ok (.integer (Int.pow left right.toNat))
        else do decimalPower (← decimalOf left) (← decimalOf right))
      decimalPower complexPower

end Number

/-! ## Texts and sequences -/

namespace Value

/-- Items repeated a number of times, if there is room for them. -/
def repeatItems {Item : Type} (items : List Item) (times : Int) : Result (List Item) := do
  let times := (← (Form.integer times).count).toNat
  if items.isEmpty then return []
  else
    checkRoom (items.length * times)
    return (List.replicate times items).flatten

/-- The sum of two texts or sequences, if they are ones. -/
def joined? (first second : Value) : Work (Option Value) := do
  match first.form, second.form with
  | .text left, .text right => return some (text (left ++ right))
  | .list left, .list right =>
    return some (← Work.newList ((← Work.items left) ++ (← Work.items right)).toList)
  | .bytes left, .bytes right => return some (Form.bytes (left ++ right))
  | left, right =>
    match left.text?, right.text?, left.tuple?, right.tuple? with
    | some _, some _, _, _ => return some (markup ((← first.escaped) ++ (← second.escaped)))
    | _, _, some items, some others => return some (tuple (items ++ others))
    | _, _, _, _ => return Option.none

/-- A text or sequence repeated, if the value is one. -/
def repeated? (value : Value) (times : Int) : Work (Option Value) := do
  match value.form with
  | .list cell => return some (← Work.newList (← repeatItems (← Work.items cell).toList times))
  | .bytes bytes => return some (Form.bytes (← repeatItems bytes times))
  | form =>
    match form.text?, form.tuple? with
    | some content, _ =>
      return some (textMarked form.isMarkup (String.ofList (← repeatItems content.toList times)))
    | _, some items => return some (tuple (← repeatItems items times))
    | _, _ => return Option.none

/-- What an operator makes of values that are no numbers, if it makes anything of them. -/
def combined? (operator : Operator) (first second : Value) : Work (Option Value) := do
  match operator with
  | .add => joined? first second
  | .multiply =>
    match first.form.whole?, second.form.whole? with
    | _, some times =>
      if first.form.whole?.isSome then return Option.none else first.repeated? times
    | some times, Option.none => second.repeated? times
    | Option.none, Option.none => return Option.none
  | .remainder =>
    match first.form with
    | .text content => return some (text (← Percent.format false content second))
    | .markup content => return some (markup (← Percent.format true content second))
    | _ => return Option.none
  | _ => return Option.none

/-- The value of an operator. -/
def operate (operator : Operator) (first second : Value) : Work Value := do
  match first.form, second.form, operator with
  | .undefined missing, _, _ => failMissing missing
  | .text _, .undefined _, .remainder | .markup _, .undefined _, .remainder =>
    return (← combined? operator first second).getD first
  | _, .undefined missing, _ => failMissing missing
  | left, right, _ =>
    match ← combined? operator first second with
    | some value => return value
    | Option.none =>
      match left.number?, right.number? with
      | some number, some other => number.operate operator other
      | _, _ => throw .wrongType

/-! ## Signs and joining -/

/-- The negative of a value. -/
def negate (value : Value) : Result Value :=
  match value.form with
  | .undefined missing => failMissing missing
  | form =>
    match form.number? with
    | some (.whole number) => .ok (.integer (-number))
    | some (.fractional number) => .ok (.decimal (-number))
    | some (.complex real imaginary) => .ok (Form.complex (-real) (-imaginary))
    | Option.none => .error .wrongType

/-- A number as it is. -/
def affirm (value : Value) : Result Value :=
  match value.form with
  | .undefined missing => failMissing missing
  | form =>
    match form.number? with
    | some (.whole number) => .ok (.integer number)
    | some (.fractional number) => .ok (.decimal number)
    | some (.complex real imaginary) => .ok (Form.complex real imaginary)
    | Option.none => .error .wrongType

/-- The texts of values, one behind the other.  If values are escaped, one that is markup makes all of
them markup. -/
def concatenate (escapes : Bool) (values : List Value) : Work Value := do
  let texts ← values.mapM fun value => value.display
  if escapes && values.any fun value => value.form.isMarkup then
    return markup (String.join (← values.mapM fun value => value.escaped))
  else return text (String.join texts)

end Value

end SetupScript.Template
