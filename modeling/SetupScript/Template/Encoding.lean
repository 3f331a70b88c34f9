import SetupScript.Template.Conversion
import SetupScript.Template.Given
import SetupScript.Template.Token
import SetupScript.Text.Encoding

/-!
# Encodings by name

Texts as bytes and bytes as texts, in an encoding that a template names.  It also names what becomes of
what cannot be converted; that name matters only where there is such a thing.
-/

namespace SetupScript.Template.Encoding

/-- The names of an encoding and of what is done about faults. -/
def namesOf (given : Given) : Result (List Char × String) := do
  let (encoding, remedy) ←
    given.two (optional "encoding" (.text "utf-8")) (optional "errors" (.text "strict"))
  let name ← encoding.characters
  if name.contains '\x00' then throw .wrongValue else return (name, ← remedy.content)

/-- The encoding with a name. -/
def named (name : List Char) : Result Text.Encoding :=
  match Text.Encoding.ofName? name with
  | some encoding => .ok encoding
  | none => .error .unknownCodec

/-- The bytes in place of a character that an encoding lacks. -/
def substituteFor (remedy : String) (character : Char) : Result (List UInt8) :=
  match remedy with
  | "strict" | "surrogateescape" | "surrogatepass" => .error .unencodable
  | "ignore" => .ok []
  | "replace" => .ok [63]
  | "backslashreplace" =>
    .ok ((Text.codePointEscape character).map fun escape => escape.toNat.toUInt8)
  | "xmlcharrefreplace" => .ok ("&#" ++ toString character.toNat ++ ";").toUTF8.toList
  | _ => .error .unknownCodec

/-- The bytes of a text. -/
def encode (content : List Char) (given : Given) : Result Value := do
  let (name, remedy) ← namesOf given
  return Form.bytes (← (← named name).encode (substituteFor remedy) content)

/-- The characters in place of bytes that stand for none. -/
def substituteForBytes (remedy : String) (bytes : List UInt8) : Result (List Char) :=
  match remedy with
  | "strict" | "surrogateescape" | "surrogatepass" => .error .undecodable
  | "ignore" => .ok []
  | "replace" => .ok ['\ufffd']
  | "backslashreplace" =>
    .ok (bytes.flatMap fun byte => '\\' :: 'x' :: Text.hexadecimal 2 byte.toNat)
  | "namereplace" | "xmlcharrefreplace" => .error .wrongType
  | _ => .error .unknownCodec

/-- The text of bytes.  There is nothing to decode where there are none, whatever the encoding. -/
def decode (bytes : List UInt8) (given : Given) : Result Value := do
  let (name, remedy) ← namesOf given
  if bytes.isEmpty then return .text ""
  else
    let encoding ← named name
    let text ← encoding.decode (substituteForBytes remedy) bytes
    match encoding with
    | .escapes =>
      match unescape? text with
      | some text => return .ofCharacters text
      | none => throw .undecodable
    | _ => return .ofCharacters text

end SetupScript.Template.Encoding
