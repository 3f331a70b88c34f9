import SetupScript.Template.Percent

/-!
# Layouts

A layout says how a value is written at a place: what fills it up to a width, and on which side, how its
sign, its base and its groups of digits are shown, how precise it is, and in which style.
-/

namespace SetupScript.Template

/-! ## Layouts -/

/-- How a value is written. -/
structure Layout where
  fill : Char := ' '
  align? : Option Char := none
  sign? : Option Char := none
  noNegativeZero : Bool := false
  alternate : Bool := false
  width : Nat := 0
  grouping? : Option Char := none
  precision? : Option Nat := none
  style? : Option Char := none

namespace Layout

/-- The number at the front of a text, if there is one, and the rest. -/
def number? (text : List Char) : Option Nat × List Char :=
  let digits := text.takeWhile Character.isDecimal
  if digits.isEmpty then (none, text)
  else
    (some (digits.foldl (fun value digit => 10 * value + (Character.decimal? digit).getD 0) 0),
      text.dropWhile Character.isDecimal)

/-- Whether a character says on which side a value is filled up. -/
def isAlignment (character : Char) : Bool :=
  ['<', '>', '=', '^'].contains character

/-- The filler and the side at the front of a layout, whether they are given, and the rest. -/
def readSide (text : List Char) : Layout × Bool × List Char :=
  match text with
  | filler :: side :: rest =>
    if isAlignment side then ({ fill := filler, align? := some side }, true, rest)
    else if isAlignment filler then ({ align? := some filler }, false, side :: rest)
    else ({}, false, text)
  | [side] => if isAlignment side then ({ align? := some side }, false, []) else ({}, false, text)
  | [] => ({}, false, [])

/-- The character at the front of a text if it is one of some, and the rest. -/
def one? (characters text : List Char) : Option Char × List Char :=
  match text with
  | character :: rest =>
    if characters.contains character then (some character, rest) else (none, text)
  | [] => (none, [])

/-- The layout that a text describes, for values that are filled up on one side if nothing else is
said. -/
def read? (usualSide : Char) (text : List Char) : Option Layout := do
  let (layout, filled, text) := readSide text
  let (sign?, text) := one? ['+', '-', ' '] text
  let (zero?, text) := one? ['z'] text
  let (alternate?, text) := one? ['#'] text
  let (padding?, text) := if filled then (none, text) else one? ['0'] text
  let layout :=
    if padding?.isSome then
      { layout with
        fill := '0'
        align? := layout.align?.or (if usualSide = '>' then some '=' else none) }
    else layout
  let (width?, text) := number? text
  let (comma?, text) := one? [','] text
  let (mark?, text) := one? ['_'] text
  let (other?, text) := one? [','] text
  if (comma?.isSome && mark?.isSome) || other?.isSome then none
  else
    let (precision?, text) ←
      match text with
      | '.' :: rest =>
        match number? rest with
        | (some precision, rest) => some (some precision, rest)
        | _ => none
      | _ => some (none, text)
    let style? ←
      match text with
      | [] => some none
      | [style] => some (some style)
      | _ => none
    let grouping? := comma?.or mark?
    let decimalStyles := ['d', 'e', 'f', 'g', 'E', 'G', '%', 'F']
    let suits : Bool :=
      match grouping?, style? with
      | none, _ | _, none => true
      | some mark, some style =>
        decimalStyles.contains style || (mark == '_' && ['b', 'o', 'x', 'X'].contains style)
    if suits then
      some { layout with
        sign? := sign?
        noNegativeZero := zero?.isSome
        alternate := alternate?.isSome
        width := width?.getD 0
        grouping? := grouping?
        precision? := precision?
        style? := style? }
    else none

/-! ## Filling up -/

/-- A text filled up to the width of a layout. -/
def pad (layout : Layout) (usualSide : Char) (text : List Char) : String :=
  let missing := layout.width - text.length
  let filler (count : Nat) : List Char := List.replicate count layout.fill
  String.ofList <|
    match layout.align?.getD usualSide with
    | '<' => text ++ filler missing
    | '^' => filler (missing / 2) ++ text ++ filler (missing - missing / 2)
    | _ => filler missing ++ text

/-- Digits in reverse, in groups with a mark between them, and filled up with zeros to a width. -/
def groupFrom (mark : Char) (size : Nat) : Nat → List Char → Int → List Char
  | 0, digits, _ => digits
  | fuel + 1, digits, width =>
    let count := min size (max (max digits.length width.toNat) 1)
    let group := digits.take count ++ List.replicate (count - digits.length) '0'
    let rest := digits.drop count
    let left := width - count
    if rest.isEmpty ∧ left ≤ 0 then group
    else group ++ mark :: groupFrom mark size fuel rest (left - 1)

/-- Digits in groups, filled up with zeros to a width. -/
def grouped (layout : Layout) (size : Nat) (digits : List Char) (width : Int) : List Char :=
  match layout.grouping? with
  | some mark =>
    (groupFrom mark size (digits.length + width.toNat + 1) digits.reverse width).reverse
  | none => List.replicate (width - digits.length).toNat '0' ++ digits

/-- A number from its sign, the mark of its base, its digits, and what follows them. -/
def padNumber (layout : Layout) (negative : Bool) (mark : String) (groupSize : Nat)
    (digits rest : List Char) : String :=
  let sign := if negative then ['-'] else layout.sign?.toList.filter (· != '-')
  let head := sign ++ mark.toList
  let side := layout.align?.getD '>'
  let zeros := layout.fill == '0' && side == '='
  let width : Int := if zeros then layout.width - head.length - rest.length else 0
  let body := grouped layout groupSize digits width ++ rest
  if side = '=' then
    let missing := layout.width - head.length - body.length
    String.ofList (head ++ List.replicate missing layout.fill ++ body)
  else layout.pad '>' (head ++ body)

/-! ## Values -/

/-- A text in a layout. -/
def ofText (layout : Layout) (text : String) : Result String :=
  if layout.sign?.isSome || layout.noNegativeZero || layout.alternate || layout.align? == some '=' ||
      layout.grouping?.isSome || (layout.style?.getD 's') != 's' then .error .wrongValue
  else
    let characters := text.toList
    .ok (layout.pad '<' ((layout.precision?.map characters.take).getD characters))

/-- A floating-point number in a layout. -/
def ofDecimal (layout : Layout) (number : Float) : Result String :=
  let style := layout.style?.getD ' '
  if !([' ', 'e', 'E', 'f', 'F', 'g', 'G', 'n', '%'].contains style) then .error .wrongValue
  else
    let shown := if style = '%' then number * 100 else number
    let text :=
      match style, layout.precision? with
      | ' ', none => Decimal.text shown.abs
      | ' ', some precision =>
        let text := Decimal.general layout.alternate precision (max precision 1 - 1) shown.abs
        if text.toList.all Char.isDigit then text ++ ".0" else text
      | '%', precision? => Percent.decimalText 'f' layout.alternate (precision?.getD 6) shown ++ "%"
      | 'n', precision? => Percent.decimalText 'g' layout.alternate (precision?.getD 6) shown
      | _, precision? => Percent.decimalText style layout.alternate (precision?.getD 6) shown
    let characters := text.toList
    let digits := characters.takeWhile Char.isDigit
    let isZero := characters.all fun character => !('1' ≤ character && character ≤ '9')
    let negative := Decimal.isNegative number && !number.isNaN &&
      !(layout.noNegativeZero && isZero)
    .ok (layout.padNumber negative "" 3 digits (characters.dropWhile Char.isDigit))

/-- An integer in a layout. -/
def ofInteger (layout : Layout) (number : Int) : Result String := do
  let style := layout.style?.getD 'd'
  if ['e', 'E', 'f', 'F', 'g', 'G', '%'].contains style then
    layout.ofDecimal (← Number.decimalOf number)
  else if layout.precision?.isSome || layout.noNegativeZero then throw .wrongValue
  else
    match style with
    | 'c' =>
      if layout.sign?.isSome || layout.alternate then throw .wrongValue
      else if 0 ≤ number ∧ number < 0x110000 then
        return layout.padNumber false "" 3 [] [Char.ofNat number.toNat]
      else throw .overflow
    | 'd' | 'n' | 'b' | 'o' | 'x' | 'X' =>
      let digits ← Percent.integerDigits style number.natAbs
      let isMarked := layout.alternate && ['b', 'o', 'x', 'X'].contains style
      return layout.padNumber (number < 0) (if isMarked then "0" ++ style.toString else "")
        (if style = 'd' || style = 'n' then 3 else 4)
        digits.toList []
    | _ => throw .wrongValue

end Layout

/-- A value in the layout that a text describes; an empty text asks for the value as it is put out. -/
def Value.inLayout (value : Value) (layout : String) : Work String := do
  let read (usualSide : Char) : Result Layout :=
    match Layout.read? usualSide layout.toList with
    | some layout => .ok layout
    | Option.none => .error .wrongValue
  if layout = "" then value.display
  else
    match value.form with
    | .text content | .markup content => (← read '<').ofText content
    | .boolean _ | .integer _ => (← read '>').ofInteger (← value.form.whole)
    | .decimal number => (← read '>').ofDecimal number
    | .complex .. => throw .wrongValue
    | _ => throw .wrongType

end SetupScript.Template
