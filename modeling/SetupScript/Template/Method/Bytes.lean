import SetupScript.Template.Method.Text

/-!
# Methods of bytes

What the methods of bytes answer.  Most of them are those of the text in which a byte in ASCII is its
character and any other byte is a character of no class and no case.
-/

namespace SetupScript.Template.BytesMethod

/-! ## Bytes as characters -/

/-- Whether a byte is a character that separates something in texts only: parts of files, or pages where
they do not end a line. -/
def separatesTexts (keepsPages : Bool) (byte : UInt8) : Bool :=
  (0x1C ≤ byte && byte < 0x20) || (keepsPages && (byte == 0x0B || byte == 0x0C))

/-- A byte as a character: one in ASCII, or one for private use, which has no class and no case. -/
def characterOf (keepsPages : Bool) (byte : UInt8) : Char :=
  if byte < 0x80 && !separatesTexts keepsPages byte then Char.ofNat byte.toNat
  else Char.ofNat (0xE000 + byte.toNat)

/-- The byte that a character stands for. -/
def byteOf (character : Char) : UInt8 :=
  (character.toNat % 0x100).toUInt8

/-- Bytes as a text. -/
def textOf (keepsPages : Bool) (bytes : List UInt8) : String :=
  String.ofList (bytes.map (characterOf keepsPages))

/-- The bytes that a text stands for. -/
def bytesOf (text : String) : Value :=
  Form.bytes (text.toList.map byteOf)

/-! ## Arguments and answers -/

/-- An argument with bytes as texts, which takes no other text. -/
def argumentOf (value : Value) : Result Value :=
  match value.form with
  | .bytes bytes => .ok (.text (textOf false bytes))
  | .text _ | .markup _ => .error .wrongType
  | .tuple items => do
    return .tuple (← items.mapM fun item =>
      match item.form with
      | .bytes bytes => (.ok (.text (textOf false bytes)) : Result Value)
      | _ => .error .wrongType)
  | _ => .ok value

/-- What is looked for: bytes, or a single byte given as a number. -/
def partOf (value : Value) : Result Value :=
  match value.form.whole? with
  | some byte =>
    if 0 ≤ byte ∧ byte < 0x100 then .ok (.text (textOf false [byte.toNat.toUInt8]))
    else .error .wrongValue
  | none => argumentOf value

/-- The arguments of a method. -/
def argumentsOf (engine : Engine) (name : String) (given : Given) : Work Given := do
  let named ← given.named.mapM fun entry => do return (entry.1, ← argumentOf entry.2)
  match given.positional with
  | [] => return ⟨[], named⟩
  | first :: rest =>
    let rest ← rest.mapM fun value => (argumentOf value : Work Value)
    let first ←
      if name = "join" then do
        let items ← (← first.items engine).mapM fun item => (argumentOf item : Work Value)
        pure (Value.tuple items)
      else if ["count", "find", "index", "rfind", "rindex"].contains name then liftM (partOf first)
      else liftM (argumentOf first)
    return ⟨first :: rest, named⟩

/-- An answer with texts as bytes. -/
def answerOf (value : Value) : Work Value := do
  let answers (values : List Value) : List Value :=
    values.map fun value => ((value.form.text?).map bytesOf).getD value
  match value.form with
  | .text content => return bytesOf content
  | .list cell => Work.newList (answers (← Work.items cell).toList)
  | .tuple items => Work.newTuple (answers items)
  | _ => return value

/-! ## Hexadecimal digits -/

/-- Groups of a size, the first of which may be smaller. -/
def groupsFromEnd {Item : Type} (size : Nat) (items : List Item) : List (List Item) :=
  let first := items.length % size
  let rest := (List.range (items.length / size)).map fun place =>
    (items.drop (first + place * size)).take size
  if first = 0 then rest else items.take first :: rest

/-- The hexadecimal digits of bytes, with a separator between groups of them, which are counted from the
end unless their size is negative. -/
def hexadecimal (bytes : List UInt8) (given : Given) : Result Value := do
  let digits (bytes : List UInt8) : List Char :=
    bytes.flatMap fun byte => Text.hexadecimal 2 byte.toNat
  if given.positional.isEmpty ∧ given.named.isEmpty then return .ofCharacters (digits bytes)
  else
    let (separator, size) ← given.two (required "sep") (optional "bytes_per_sep" (.integer 1))
    let separator ←
      match separator.form with
      | .bytes bytes => pure (Value.byteCharacters bytes)
      | _ => separator.characters
    let size ← size.form.whole
    if separator.length ≠ 1 ∨ separator.any (fun character => 0x80 ≤ character.toNat) then
      throw .wrongValue
    else if size = 0 then return .ofCharacters (digits bytes)
    else
      let groups :=
        if 0 < size then groupsFromEnd size.toNat bytes
        else ((groupsFromEnd size.natAbs bytes.reverse).map List.reverse).reverse
      return .ofCharacters (separator.intercalate (groups.map digits))

/-- The bytes that pairs of hexadecimal digits stand for; blanks may stand between the pairs. -/
def ofHexadecimal? (text : List Char) : Option (List UInt8) :=
  match text with
  | [] => some []
  | [first] => if isBlank first then some [] else none
  | first :: second :: rest =>
    if isBlank first then ofHexadecimal? (second :: rest)
    else if isHexadecimal first && isHexadecimal second then
      (ofHexadecimal? rest).map fun bytes => (numberValue 16 [first, second]).toUInt8 :: bytes
    else none
where
  /-- The blanks between pairs. -/
  isBlank (character : Char) : Bool :=
    [' ', '\t', '\n', '\x0b', '\x0c', '\r'].contains character

/-- The bytes of a text of hexadecimal digits. -/
def fromHexadecimal (given : Given) : Result Value := do
  match ← given.inOrder with
  | [text] =>
    match ofHexadecimal? (← text.characters) with
    | some bytes => return Form.bytes bytes
    | none => throw .wrongValue
  | _ => throw .wrongType

/-! ## Tables -/

/-- The bytes that a value must be. -/
def bytesIn (value : Value) : Result (List UInt8) :=
  match value.form with
  | .bytes bytes => .ok bytes
  | _ => .error .wrongType

/-- A table that gives every byte another one. -/
def makeTable (given : Given) : Result Value := do
  match ← given.inOrder with
  | [first, second] =>
    let first ← bytesIn first
    let second ← bytesIn second
    if first.length ≠ second.length then throw .wrongValue
    else
      let pairs := (first.zip second).reverse
      return Form.bytes ((List.range 0x100).map fun byte =>
        (pairs.lookup byte.toUInt8).getD byte.toUInt8)
  | _ => throw .wrongType

/-- Bytes looked up in a table, without some of them. -/
def translate (bytes : List UInt8) (given : Given) : Result Value := do
  let (table, removed) ← given.two (required "table") (optional "delete" (Form.bytes []))
  let removed ← bytesIn removed
  let kept := bytes.filter fun byte => !removed.contains byte
  match table.form with
  | .none => return Form.bytes kept
  | _ =>
    let table := (← bytesIn table).toArray
    if table.size ≠ 0x100 then throw .wrongValue
    else return Form.bytes (kept.map fun byte => table.getD byte.toNat byte)

/-! ## All methods -/

/-- What a method of bytes answers. -/
def call (engine : Engine) (bytes : List UInt8) (name : String) (given : Given) : Work Value := do
  match name with
  | "decode" => Encoding.decode bytes given
  | "hex" => hexadecimal bytes given
  | "fromhex" => fromHexadecimal given
  | "maketrans" => makeTable given
  | "translate" => translate bytes given
  | "isascii" =>
    given.nothing
    return .boolean (bytes.all (· < 0x80))
  | _ =>
    let given ← argumentsOf engine name given
    answerOf (← TextMethod.call engine false (textOf (name == "splitlines") bytes) name given)

end SetupScript.Template.BytesMethod
