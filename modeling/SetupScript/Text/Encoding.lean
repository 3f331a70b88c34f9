import SetupScript.Text.CodePage
import SetupScript.Text.Fields
import SetupScript.Text.Quoted

/-!
# Encodings

Texts as bytes and bytes as texts.  A character that an encoding lacks, and bytes that stand for no
character, are replaced as the caller says, who may refuse to.
-/

namespace SetupScript.Text

/-! ## Encodings -/

/-- Which byte of a unit comes first. -/
inductive ByteOrder
  | little
  | big
deriving DecidableEq

/-- An encoding.  A text in units of bytes begins with a mark if the order of the bytes is not fixed, and
one in single bytes reaches up to a code point; what is written in escapes is ASCII. -/
inductive Encoding
  | single (limit : Nat)
  | table (page : CodePage)
  | octets (marked : Bool)
  | pairs (order? : Option ByteOrder)
  | quadruples (order? : Option ByteOrder)
  | escapes

namespace Encoding

/-- The name of an encoding in small letters, with one underscore for whatever stands between letters,
digits and points. -/
def normalName (name : List Char) : String :=
  let isPart (character : Char) : Bool := character.isAlphanum || character == '.'
  let parts := fields ' ' (name.map fun character => if isPart character then character.toLower else ' ')
  String.ofList (['_'].intercalate (parts.filter fun part => !part.isEmpty))

/-- The encodings that are no code pages, with their names. -/
def known : List (List String × Encoding) :=
  [(["utf_8", "utf8", "u8", "utf", "utf8_ucs2", "utf8_ucs4", "cp65001"], .octets false),
    (["utf_8_sig"], .octets true),
    (["ascii", "us_ascii", "us", "646", "ansi_x3.4_1968", "ansi_x3_4_1968", "ansi_x3.4_1986", "cp367",
      "csascii", "ibm367", "iso646_us", "iso_646.irv_1991", "iso_ir_6"], .single 0x80),
    (["latin_1", "latin1", "latin", "l1", "8859", "cp819", "csisolatin1", "ibm819", "iso8859",
      "iso8859_1", "iso_8859_1", "iso_8859_1_1987", "iso_ir_100"], .single 0x100),
    (["utf_16", "utf16", "u16"], .pairs none),
    (["utf_16_le", "utf_16le", "unicodelittleunmarked"], .pairs (some .little)),
    (["utf_16_be", "utf_16be", "unicodebigunmarked"], .pairs (some .big)),
    (["utf_32", "utf32", "u32"], .quadruples none),
    (["utf_32_le", "utf_32le"], .quadruples (some .little)),
    (["utf_32_be", "utf_32be"], .quadruples (some .big)),
    (["unicode_escape"], .escapes)]

/-- The encoding that a name stands for. -/
def ofName? (name : List Char) : Option Encoding :=
  let name := normalName name
  match known.find? fun entry => entry.1.contains name with
  | some (_, encoding) => some encoding
  | none => (codePages.find? fun page => page.names.contains name).map table

/-! ## From characters to bytes -/

/-- The bytes of a number, of which the last ones count least. -/
def bytesOf (value : Nat) : Nat → List UInt8
  | 0 => []
  | count + 1 => bytesOf (value / 256) count ++ [(value % 256).toUInt8]

/-- Bytes in an order, given with the most significant one in front. -/
def ordered (order : ByteOrder) (bytes : List UInt8) : List UInt8 :=
  match order with
  | .little => bytes.reverse
  | .big => bytes

/-- The units of two bytes that a code point has. -/
def unitsOf (codePoint : Nat) : List Nat :=
  if codePoint < 0x10000 then [codePoint]
  else [0xD800 + (codePoint - 0x10000) / 0x400, 0xDC00 + (codePoint - 0x10000) % 0x400]

/-- A character in a text of escapes. -/
def escaped (character : Char) : List Char :=
  match character with
  | '\\' => ['\\', '\\']
  | '\t' => ['\\', 't']
  | '\n' => ['\\', 'n']
  | '\r' => ['\\', 'r']
  | _ =>
    if 0x20 ≤ character.toNat ∧ character.toNat < 0x7F then [character] else codePointEscape character

/-- The bytes of a character, if it has any. -/
def bytesOf? (encoding : Encoding) (character : Char) : Option (List UInt8) :=
  match encoding with
  | single limit => if character.toNat < limit then some [character.toNat.toUInt8] else none
  | table page => (page.byte? character).map fun byte => [byte]
  | octets _ => some character.toString.toUTF8.toList
  | pairs order? =>
    some ((unitsOf character.toNat).flatMap fun unit => ordered (order?.getD .little) (bytesOf unit 2))
  | quadruples order? => some (ordered (order?.getD .little) (bytesOf character.toNat 4))
  | escapes => some ((escaped character).map fun escape => escape.toNat.toUInt8)

/-- The mark in front of a text. -/
def mark : Encoding → List UInt8
  | octets true => [0xEF, 0xBB, 0xBF]
  | pairs none => [0xFF, 0xFE]
  | quadruples none => [0xFF, 0xFE, 0, 0]
  | _ => []

/-- The bytes of a text, with other bytes for the characters that have none. -/
def encode {Fault : Type} (encoding : Encoding) (mend : Char → Except Fault (List UInt8))
    (text : List Char) : Except Fault (List UInt8) := do
  let parts ← text.mapM fun character =>
    match encoding.bytesOf? character with
    | some bytes => (.ok bytes : Except Fault (List UInt8))
    | none => mend character
  return encoding.mark ++ parts.flatten

/-! ## From bytes to characters -/

/-- What stands at the front of bytes: a character, or bytes that are none; and how many bytes it is. -/
structure Front where
  character? : Option Char
  size : Nat

/-- The character of a code point, if it is one. -/
def characterOf? (codePoint : Nat) : Option Char :=
  if codePoint.isValidChar then some (Char.ofNat codePoint) else none

/-- The number of bytes behind the first one of a character, and the least and the greatest second
byte. -/
def leadOf? (byte : Nat) : Option (Nat × Nat × Nat) :=
  if 0xC2 ≤ byte ∧ byte < 0xE0 then some (1, 0x80, 0xBF)
  else if byte = 0xE0 then some (2, 0xA0, 0xBF)
  else if byte = 0xED then some (2, 0x80, 0x9F)
  else if 0xE1 ≤ byte ∧ byte < 0xF0 then some (2, 0x80, 0xBF)
  else if byte = 0xF0 then some (3, 0x90, 0xBF)
  else if byte = 0xF4 then some (3, 0x80, 0x8F)
  else if 0xF1 ≤ byte ∧ byte < 0xF4 then some (3, 0x80, 0xBF)
  else none

/-- How many of the next bytes go on with a character. -/
def continuation (least greatest : Nat) : Nat → List UInt8 → Nat
  | count + 1, byte :: bytes =>
    if least ≤ byte.toNat ∧ byte.toNat ≤ greatest then continuation 0x80 0xBF count bytes + 1 else 0
  | _, _ => 0

/-- A character of one to four bytes.  What could have become a character but does not go on as one is
no character as a whole. -/
def frontOfBytes (first : UInt8) (rest : List UInt8) : Front :=
  if first.toNat < 0x80 then ⟨some (Char.ofNat first.toNat), 1⟩
  else
    match leadOf? first.toNat with
    | none => ⟨none, 1⟩
    | some (count, least, greatest) =>
      let found := continuation least greatest count rest
      if found < count then ⟨none, found + 1⟩
      else
        let head := first.toNat % Nat.shiftLeft 1 (6 - count)
        let value := (rest.take count).foldl (fun value byte => 64 * value + byte.toNat % 64) head
        ⟨characterOf? value, count + 1⟩

/-- The number that bytes in an order stand for. -/
def valueOf (order : ByteOrder) (bytes : List UInt8) : Nat :=
  (ordered order bytes).foldl (fun value byte => 256 * value + byte.toNat) 0

/-- A character of one or two units of two bytes. -/
def frontOfPairs (order : ByteOrder) (bytes : List UInt8) : Front :=
  if bytes.length < 2 then ⟨none, bytes.length⟩
  else
    let unit := valueOf order (bytes.take 2)
    if 0xD800 ≤ unit ∧ unit < 0xDC00 then
      if bytes.length < 4 then ⟨none, bytes.length⟩
      else
        let low := valueOf order ((bytes.drop 2).take 2)
        if 0xDC00 ≤ low ∧ low < 0xE000 then
          ⟨characterOf? (0x10000 + (unit - 0xD800) * 0x400 + (low - 0xDC00)), 4⟩
        else ⟨none, 2⟩
    else ⟨characterOf? unit, 2⟩

/-- A character of one unit of four bytes. -/
def frontOfQuadruples (order : ByteOrder) (bytes : List UInt8) : Front :=
  if bytes.length < 4 then ⟨none, bytes.length⟩ else ⟨characterOf? (valueOf order (bytes.take 4)), 4⟩

/-- What stands at the front of bytes that have a first one. -/
def front (encoding : Encoding) (order : ByteOrder) (first : UInt8) (rest : List UInt8) : Front :=
  match encoding with
  | single limit => ⟨if first.toNat < limit then some (Char.ofNat first.toNat) else none, 1⟩
  | table page => ⟨page.character? first, 1⟩
  | octets _ => frontOfBytes first rest
  | pairs _ => frontOfPairs order (first :: rest)
  | quadruples _ => frontOfQuadruples order (first :: rest)
  | escapes => ⟨some (Char.ofNat first.toNat), 1⟩

/-- The characters of bytes in an order; each step takes a byte at least. -/
def decodeFrom {Fault : Type} (encoding : Encoding) (order : ByteOrder)
    (mend : List UInt8 → Except Fault (List Char)) : Nat → List UInt8 → Except Fault (List Char)
  | fuel + 1, first :: rest => do
    let front := encoding.front order first rest
    let after := rest.drop (front.size - 1)
    match front.character? with
    | some character => return character :: (← decodeFrom encoding order mend fuel after)
    | none =>
      let mended ← mend ((first :: rest).take front.size)
      return mended ++ (← decodeFrom encoding order mend fuel after)
  | _, _ => return []

/-- The order of the bytes, and the bytes without the mark that tells it. -/
def withoutMark (encoding : Encoding) (bytes : List UInt8) : ByteOrder × List UInt8 :=
  match encoding, bytes with
  | .octets true, 0xEF :: 0xBB :: 0xBF :: rest => (.little, rest)
  | .pairs (some order), _ | .quadruples (some order), _ => (order, bytes)
  | .quadruples none, 0xFF :: 0xFE :: 0 :: 0 :: rest => (.little, rest)
  | .quadruples none, 0 :: 0 :: 0xFE :: 0xFF :: rest => (.big, rest)
  | .pairs none, 0xFF :: 0xFE :: rest => (.little, rest)
  | .pairs none, 0xFE :: 0xFF :: rest => (.big, rest)
  | _, _ => (.little, bytes)

/-- The text of bytes, with other characters for the bytes that stand for none.  Escapes are left as they
are. -/
def decode {Fault : Type} (encoding : Encoding) (mend : List UInt8 → Except Fault (List Char))
    (bytes : List UInt8) : Except Fault (List Char) :=
  let (order, bytes) := encoding.withoutMark bytes
  decodeFrom encoding order mend bytes.length bytes

end Encoding

end SetupScript.Text
