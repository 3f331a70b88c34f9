import SetupScript.Decimal.Notation
import SetupScript.Template.Attribute
import SetupScript.Template.Conversion
import SetupScript.Template.Escape

/-!
# Percent formats

A format is a text with places to fill in.  A place is a percent sign, perhaps a key in round
brackets, flags, a least width, a precision, and a letter that says how the value is written.  A star
takes the width or the precision from the values.  Where the format counts as escaped, the texts of the
values are escaped.
-/

namespace SetupScript.Template.Percent

/-! ## Places -/

/-- How a value is written at a place. -/
structure Style where
  minus : Bool
  plus : Bool
  blank : Bool
  zero : Bool
  sharp : Bool
  width : Nat
  precision? : Option Nat
  letter : Char

/-- A text brought to the width of a place. -/
def Style.pad (style : Style) (text : String) : String :=
  let filler := "".pushn ' ' (style.width - text.length)
  if style.minus then text ++ filler else filler ++ text

/-- A number brought to the width of a place, with zeros between its mark and its digits if the place
says so. -/
def Style.padNumber (style : Style) (negative : Bool) (mark digits : String) : String :=
  let sign := if negative then "-" else if style.plus then "+" else if style.blank then " " else ""
  let head := sign ++ mark
  if style.zero && !style.minus then
    head ++ "".pushn '0' (style.width - head.length - digits.length) ++ digits
  else style.pad (head ++ digits)

/-- The text of a floating-point number in one of the styles with a letter, without its sign. -/
def decimalText (letter : Char) (keepPoint : Bool) (precision : Nat) (number : Float) : String :=
  let text :=
    match letter.toLower with
    | 'e' => Decimal.exponential keepPoint precision number.abs
    | 'g' => Decimal.general keepPoint precision (max precision 1) number.abs
    | _ =>
      let text := Decimal.fixed precision number.abs
      if keepPoint && precision = 0 && Literal.isFinite number then text ++ "." else text
  if letter.isUpper then text.map Char.toUpper else text

/-- The digits of an integer in the base of a letter. -/
def integerDigits (letter : Char) (value : Nat) : Result String :=
  match letter with
  | 'x' => .ok (String.ofList (Nat.toDigits 16 value))
  | 'X' => .ok ((String.ofList (Nat.toDigits 16 value)).map Char.toUpper)
  | 'o' => .ok (String.ofList (Nat.toDigits 8 value))
  | 'b' => .ok (String.ofList (Nat.toDigits 2 value))
  | _ => integerText value

/-- The text of a value, as it is put out or as it is shown inside others. -/
def valueText (escapes : Bool) (letter : Char) (value : Value) : Work String := do
  if letter = 's' then if escapes then value.escaped else value.display
  else
    let shown ← value.nested
    let shown := if escapes then escapeText shown else shown
    return if letter = 'a' then Text.asciiOnly shown else shown

/-- The text of an integer at a place. -/
def Style.fillInteger (style : Style) (number : Int) : Result String := do
  let digits ← integerDigits style.letter number.natAbs
  let zeros := "".pushn '0' (style.precision?.getD 0 - digits.length)
  let mark :=
    if style.sharp && ['x', 'X', 'o'].contains style.letter then "0" ++ style.letter.toString else ""
  return style.padNumber (number < 0) mark (zeros ++ digits)

/-- The text of a value at a place. -/
def Style.fill (style : Style) (escapes : Bool) (value : Value) : Work String := do
  match style.letter with
  | 's' | 'r' | 'a' =>
    let text ← valueText escapes style.letter value
    return style.pad <|
      match style.precision? with
      | some limit => String.ofList (text.toList.take limit)
      | none => text
  | 'd' | 'i' | 'u' =>
    let number ← if escapes then value.toInteger else value.numberToInteger
    style.fillInteger number
  | 'x' | 'X' | 'o' =>
    if escapes then throw .wrongType else style.fillInteger (← value.form.whole)
  | 'e' | 'E' | 'f' | 'F' | 'g' | 'G' =>
    let number ← if escapes then value.toDecimal else value.numberToDecimal
    let text := decimalText style.letter style.sharp (style.precision?.getD 6) number
    return style.padNumber (Decimal.isNegative number && !number.isNaN) "" text
  | 'c' =>
    match value.form.text?, value.form.whole? with
    | some text, _ => if text.length = 1 && !escapes then return style.pad text else throw .wrongType
    | none, some number =>
      if escapes then throw .wrongType
      else if 0 ≤ number ∧ number < 0x110000 then
        return style.pad (Char.ofNat number.toNat).toString
      else throw .overflow
    | none, none => throw .wrongType
  | _ => throw .wrongValue

/-! ## Values -/

/-- What the places of a format are filled from: values in order, and a mapping for keys. -/
structure Supply where
  values : List Value
  mapping? : Option Value

/-- Whether keys may be looked up in a value. -/
def hasKeys (form : Form) : Bool :=
  match form with
  | .list _ | .mapping _ | .range .. | .bytes _ | .undefined _ | .blocks _ => true
  | _ => false

/-- The supply that the values behind a format give. -/
def Supply.ofValue (value : Value) : Supply where
  values := value.form.tuple?.getD [value]
  mapping? := if hasKeys value.form then some value else none

/-- The next value in order. -/
def Supply.next (supply : Supply) : Result (Value × Supply) :=
  match supply.values with
  | value :: values => .ok (value, { supply with values := values })
  | [] => .error .wrongType

/-! ## Reading places -/

/-- A key up to the bracket that closes it, and the rest; `depth` counts the brackets that are open. -/
def readKey? (depth : Nat) : List Char → Option (List Char × List Char)
  | [] => none
  | ')' :: rest =>
    if depth = 0 then some ([], rest)
    else (readKey? (depth - 1) rest).map fun read => (')' :: read.1, read.2)
  | '(' :: rest => (readKey? (depth + 1) rest).map fun read => ('(' :: read.1, read.2)
  | character :: rest => (readKey? depth rest).map fun read => (character :: read.1, read.2)

/-- The supply behind the key of a place, and the rest of the place. -/
def takeKey (supply : Supply) (text : List Char) : Work (Supply × List Char) := do
  match text with
  | '(' :: rest =>
    match supply.mapping?, readKey? 0 rest with
    | none, _ => throw .wrongType
    | _, none => throw .wrongValue
    | some mapping, some (key, rest) =>
      return ({ supply with values := [← mapping.mustItem (.ofCharacters key)] }, rest)
  | _ => return (supply, text)

/-- The digits at the front of a text as a number, and the rest. -/
def readNumber (text : List Char) : Nat × List Char :=
  (Text.digitsValue (text.takeWhile Char.isDigit), text.dropWhile Char.isDigit)

/-- A number at the front of a text, or from the supply if a star stands for it. -/
def takeNumber (supply : Supply) (text : List Char) : Result (Int × Supply × List Char) := do
  match text with
  | '*' :: rest =>
    let (value, supply) ← supply.next
    return (← value.form.whole, supply, rest)
  | _ =>
    let (number, rest) := readNumber text
    return (number, supply, rest)

/-- Whether a character is a flag. -/
def isFlag (character : Char) : Bool :=
  ['-', '+', ' ', '0', '#'].contains character

/-- The style of a place behind its key, the supply behind it, and the rest. -/
def takeStyle (supply : Supply) (text : List Char) : Result (Style × Supply × List Char) := do
  let flags := text.takeWhile isFlag
  let (width, supply, text) ← takeNumber supply (text.dropWhile isFlag)
  let (precision?, supply, text) ←
    match text with
    | '.' :: rest => do
      let (precision, supply, text) ← takeNumber supply rest
      pure (some precision.toNat, supply, text)
    | _ => pure (none, supply, text)
  let text :=
    match text with
    | 'h' :: rest | 'l' :: rest | 'L' :: rest => rest
    | _ => text
  match text with
  | [] => throw .wrongValue
  | letter :: rest =>
    return ({
      minus := flags.contains '-' || width < 0
      plus := flags.contains '+'
      blank := flags.contains ' '
      zero := flags.contains '0'
      sharp := flags.contains '#'
      width := width.natAbs
      precision? := precision?
      letter := letter }, supply, rest)

/-! ## Filling in -/

/-- The text of a format, the texts of its parts in reverse, and the supply that is left. -/
def fillAll (escapes : Bool) (supply : Supply) (done : List String) (text : List Char) :
    Work (String × Supply) := do
  match text with
  | [] => return (String.join done.reverse, supply)
  | '%' :: rest => do
    let (supply, inner) ← takeKey supply rest
    let (style, supply, after) ← takeStyle supply inner
    if after.length ≤ rest.length then
      if style.letter = '%' then fillAll escapes supply ("%" :: done) after
      else
        let (value, supply) ← supply.next
        let filled ← style.fill escapes value
        fillAll escapes supply (filled :: done) after
    else throw .wrongValue
  | character :: rest => fillAll escapes supply (character.toString :: done) rest
termination_by text.length
decreasing_by all_goals simp only [List.length_cons]; omega

/-- A format with its places filled in from the items of a tuple, the entries of a mapping, or a single
value.  Values must not be left over, unless keys may be looked up in them. -/
def format (escapes : Bool) (text : String) (value : Value) : Work String := do
  let (filled, rest) ← fillAll escapes (Supply.ofValue value) [] text.toList
  if rest.values.isEmpty || rest.mapping?.isSome then return filled else throw .wrongType

end SetupScript.Template.Percent
