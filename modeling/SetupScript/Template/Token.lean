import SetupScript.Character.Digit
import SetupScript.Character.Identifier
import SetupScript.Character.Name
import SetupScript.Decimal.Text
import SetupScript.Text.Based
import SetupScript.Text.Integer
import SetupScript.Text.Quoted

/-!
# Tokens of templates

The inside of a tag is a sequence of names, texts, numbers and symbols.  A tag ends at its closing
delimiter, provided that every bracket opened in it is closed.
-/

namespace SetupScript.Template

open SetupScript.Character

/-! ## Tokens -/

/-- Why a number has no value: it is an integer of too many digits, or it has a fraction or an exponent
and digits outside of ASCII. -/
inductive NumberFault
  | tooManyDigits
  | foreignDigits

/-- What a token says. -/
inductive Lexeme
  | name (name : String)
  | text (value : String)
  | integer (value : Nat)
  | faulty (fault : NumberFault)
  | decimal (value : Float)
  | symbol (symbol : String)

/-- A token and the line on which it starts. -/
structure Token where
  lexeme : Lexeme
  line : Nat

/-! ## Numbers -/

/-- More digits of a class, between which single underscores may stand, and the rest. -/
def readDigits (class? : Char → Bool) : List Char → List Char × List Char
  | [] => ([], [])
  | character :: rest =>
    if class? character then
      let (digits, after) := readDigits class? rest
      (character :: digits, after)
    else if character = '_' ∧ rest.head?.any class? then readDigits class? rest
    else ([], character :: rest)

/-- The value of a digit in bases up to sixteen.  The decimal digits may be those of any script. -/
def digitValue (digit : Char) : Nat :=
  match decimal? digit with
  | some value => value
  | none => digit.toLower.toNat - 'a'.toNat + 10

/-- The number that digits stand for in a base. -/
def numberValue (base : Nat) (digits : List Char) : Nat :=
  digits.foldl (fun value digit => base * value + digitValue digit) 0

/-- Whether a character is a hexadecimal digit in ASCII. -/
def isHexadecimal (character : Char) : Bool :=
  character.isDigit || ('a' ≤ character && character ≤ 'f') || ('A' ≤ character && character ≤ 'F')

/-- Whether a character is an octal digit. -/
def isOctal (character : Char) : Bool :=
  '0' ≤ character && character ≤ '7'

/-- Whether a character is a binary digit. -/
def isBinary (character : Char) : Bool :=
  character == '0' || character == '1'

/-- The base that a mark behind a leading zero announces, and its digits. -/
def baseOf? : Char → Option (Nat × (Char → Bool))
  | 'x' | 'X' => some (16, fun digit => isDecimal digit || isHexadecimal digit)
  | 'o' | 'O' => some (8, isOctal)
  | 'b' | 'B' => some (2, isBinary)
  | _ => none

/-- An integer.  Behind a leading zero that announces no base only zeros follow. -/
def readInteger (text : List Char) : Lexeme × List Char :=
  let zeros := readDigits (· == '0') text
  match text with
  | '0' :: mark :: rest =>
    match baseOf? mark with
    | some (base, class?) =>
      let (digits, after) := readDigits class? rest
      if digits.isEmpty then (.integer 0, zeros.2) else (.integer (numberValue base digits), after)
    | none => (.integer 0, zeros.2)
  | '0' :: _ => (.integer 0, zeros.2)
  | _ =>
    let (digits, after) := readDigits isDecimal text
    if Text.digitLimit < digits.length then (.faulty .tooManyDigits, after)
    else (.integer (numberValue 10 digits), after)

/-- The fraction at the front of a text: its digits, and the rest. -/
def readFraction (text : List Char) : List Char × List Char :=
  match text with
  | '.' :: rest => if rest.head?.any isDecimal then readDigits isDecimal rest else ([], text)
  | _ => ([], text)

/-- The sign and the digits of the exponent at the front of a text, if there is one, and the rest. -/
def readExponent (text : List Char) : Option (Bool × List Char) × List Char :=
  match text with
  | mark :: rest =>
    let (negative, unsigned) := Text.splitSign rest
    if (mark = 'e' ∨ mark = 'E') ∧ unsigned.head?.any isDecimal then
      let (digits, after) := readDigits isDecimal unsigned
      (some (negative, digits), after)
    else (none, text)
  | [] => (none, text)

/-- The number of a whole part, a fraction and an exponent, whose digits must be in ASCII. -/
def decimalLexeme (whole fraction : List Char) (exponent : Option (Bool × List Char)) : Lexeme :=
  let (negative, digits) := exponent.getD (false, [])
  if (whole ++ fraction ++ digits).all Char.isDigit then
    .decimal (Decimal.ofScientific (numberValue 10 (whole ++ fraction))
      (Text.signedValue negative digits - fraction.length))
  else .faulty .foreignDigits

/-- A number with a fraction or an exponent, if one stands at the front of a text, and the rest. -/
def readDecimal? (text : List Char) : Option (Lexeme × List Char) :=
  let (whole, rest) := readDigits isDecimal text
  let (fraction, rest) := readFraction rest
  match readExponent rest, fraction with
  | (none, _), [] => none
  | (exponent, rest), fraction => some (decimalLexeme whole fraction exponent, rest)

/-- A number, if one stands at the front of a text, and the rest.  Behind a point only an integer is
read; an integer begins with a digit in ASCII. -/
def readNumber? (afterPoint : Bool) (text : List Char) : Option (Lexeme × List Char) :=
  match if afterPoint || !text.head?.any isDecimal then none else readDecimal? text with
  | some read => some read
  | none => if text.head?.any Char.isDigit then some (readInteger text) else none

/-! ## Texts -/

/-- What stands between quotes behind the opening one, escapes untouched, and the rest. -/
def readQuoted? (quote : Char) : List Char → Option (List Char × List Char)
  | [] => none
  | ['\\'] => none
  | '\\' :: code :: rest =>
    (readQuoted? quote rest).map fun read => ('\\' :: code :: read.1, read.2)
  | character :: rest =>
    if character = quote then some ([], rest)
    else (readQuoted? quote rest).map fun read => (character :: read.1, read.2)

/-- The character of a code point, if it is one. -/
def codePoint? (value : Nat) : Option Char :=
  if value < 0xD800 ∨ (0xE000 ≤ value ∧ value < 0x110000) then some (Char.ofNat value) else none

/-- The characters that simple escapes stand for. -/
def simpleEscape? : Char → Option Char
  | '\\' => some '\\'
  | '\'' => some '\''
  | '"' => some '"'
  | 'a' => some '\x07'
  | 'b' => some '\x08'
  | 'f' => some '\x0c'
  | 'n' => some '\n'
  | 'r' => some '\r'
  | 't' => some '\t'
  | 'v' => some '\x0b'
  | _ => none

/-- The character of an escape with a fixed count of hexadecimal digits. -/
def hexadecimalEscape? (digits : List Char) : Option Char :=
  if digits.all isHexadecimal then codePoint? (numberValue 16 digits) else none

/-- A text in which escapes stand for the characters outside of ASCII. -/
def inAscii (text : List Char) : List Char :=
  text.flatMap fun character =>
    if character.toNat < 0x80 then [character] else Text.codePointEscape character

/-- The character whose name stands in braces at the front of a text, and the rest. -/
def readCharacterName? : List Char → Option (Char × List Char)
  | '\x7b' :: text => do
    let name := text.takeWhile (· != '\x7d')
    let character ← if name.length < text.length then named? name else none
    return (character, text.drop (name.length + 1))
  | _ => none

/-- A quoted text with its escapes decoded.  An unknown escape stands for itself; a malformed one is
refused. -/
def unescape? (text : List Char) : Option (List Char) :=
  match text with
  | [] => some []
  | '\\' :: code =>
    match code with
    | [] => none
    | '\n' :: rest => unescape? rest
    | 'x' :: a :: b :: rest => do return (← hexadecimalEscape? [a, b]) :: (← unescape? rest)
    | 'u' :: a :: b :: c :: d :: rest => do
      return (← hexadecimalEscape? [a, b, c, d]) :: (← unescape? rest)
    | 'U' :: a :: b :: c :: d :: e :: f :: g :: h :: rest => do
      return (← hexadecimalEscape? [a, b, c, d, e, f, g, h]) :: (← unescape? rest)
    | 'N' :: rest =>
      match readCharacterName? rest with
      | some (character, after) =>
        if after.length ≤ rest.length then do return character :: (← unescape? after) else none
      | none => none
    | a :: b :: c :: rest =>
      if isOctal a ∧ isOctal b ∧ isOctal c then do
        return (← codePoint? (numberValue 8 [a, b, c])) :: (← unescape? rest)
      else if isOctal a ∧ isOctal b then do
        return (← codePoint? (numberValue 8 [a, b])) :: (← unescape? (c :: rest))
      else escaped? a (unescape? (b :: c :: rest))
    | [a, b] =>
      if isOctal a ∧ isOctal b then do return [← codePoint? (numberValue 8 [a, b])]
      else escaped? a (unescape? [b])
    | [a] => escaped? a (some [])
  | character :: rest => do return character :: (← unescape? rest)
termination_by text.length
decreasing_by all_goals simp only [List.length_cons]; omega
where
  /-- One escape of a single letter in front of a decoded text. -/
  escaped? (code : Char) (rest : Option (List Char)) : Option (List Char) :=
    if isOctal code then do return (← codePoint? (digitValue code)) :: (← rest)
    else if ['x', 'u', 'U', 'N'].contains code then none
    else
      match simpleEscape? code with
      | some character => do return character :: (← rest)
      | none => do return '\\' :: code :: (← rest)

/-! ## One token -/

/-- The symbols of two characters and of one. -/
def symbols : List String :=
  ["//", "**", "==", "!=", ">=", "<=", "+", "-", "/", "*", "%", "~", "[", "]", "(", ")", "\x7b",
    "\x7d", ">", "<", "=", ".", ":", "|", ",", ";"]

/-- The token at the front of a text that begins with no number, and the rest. -/
def readWord? (text : List Char) : Option (Lexeme × List Char) :=
  match text with
  | [] => none
  | first :: rest =>
    if isNameCharacter first then
      let name := text.takeWhile isNameCharacter
      if isIdentifier name then some (.name (String.ofList name), text.dropWhile isNameCharacter)
      else none
    else if first = '\'' ∨ first = '"' then do
      let (raw, after) ← readQuoted? first rest
      let value ← unescape? (inAscii raw)
      return (.text (String.ofList value), after)
    else
      match symbols.find? fun symbol => symbol.toList.isPrefixOf text with
      | some symbol => some (.symbol symbol, text.drop symbol.length)
      | none => none

/-- The token at the front of a text, and the rest. -/
def readLexeme? (afterPoint : Bool) (text : List Char) : Option (Lexeme × List Char) :=
  match readNumber? afterPoint text with
  | some read => some read
  | none => readWord? text

/-! ## Tags -/

/-- The two kinds of tag that hold tokens. -/
inductive TagKind
  | output
  | block
deriving DecidableEq

/-- The rest behind the closing delimiter of a tag, if it stands here.  A hyphen in it drops the
blanks that follow. -/
def afterClosing? (kind : TagKind) (text : List Char) : Option (List Char) :=
  match kind, text with
  | .output, '-' :: '\x7d' :: '\x7d' :: rest => some (rest.dropWhile isBlank)
  | .output, '\x7d' :: '\x7d' :: rest => some rest
  | .block, '-' :: '%' :: '\x7d' :: rest => some (rest.dropWhile isBlank)
  | .block, '+' :: '%' :: '\x7d' :: rest => some rest
  | .block, '%' :: '\x7d' :: rest => some rest
  | _, _ => none

/-- The brackets that are open behind a symbol, unless it closes one that is not. -/
def openAfter? (brackets : List String) (symbol : String) : Option (List String) :=
  if symbol = "(" then some (")" :: brackets)
  else if symbol = "[" then some ("]" :: brackets)
  else if symbol = "\x7b" then some ("\x7d" :: brackets)
  else if symbol = ")" ∨ symbol = "]" ∨ symbol = "\x7d" then
    match brackets with
    | bracket :: rest => if bracket = symbol then some rest else none
    | [] => none
  else some brackets

/-- The number of line ends between a text and a rest of it. -/
def linesBetween (text rest : List Char) : Nat :=
  (text.take (text.length - rest.length)).count '\n'

/-- The tokens of a tag up to its closing delimiter, and the rest. -/
def readTag? (kind : TagKind) (brackets : List String) (afterPoint : Bool) (line : Nat)
    (text : List Char) : Option (List Token × List Char) :=
  match if brackets.isEmpty then afterClosing? kind text else none with
  | some rest => some ([], rest)
  | none =>
    match text with
    | [] => none
    | first :: rest =>
      if isBlank first then
        readTag? kind brackets false (if first = '\n' then line + 1 else line) rest
      else
        match readLexeme? afterPoint text with
        | none => none
        | some (lexeme, after) =>
          if after.length ≤ rest.length then
            let brackets? :=
              match lexeme with
              | .symbol symbol => openAfter? brackets symbol
              | _ => some brackets
            let point :=
              match lexeme with
              | .symbol "." => true
              | _ => false
            match brackets? with
            | none => none
            | some brackets =>
              (readTag? kind brackets point (line + linesBetween text after) after).map
                fun read => (⟨lexeme, line⟩ :: read.1, read.2)
          else none
termination_by text.length
decreasing_by all_goals simp only [List.length_cons]; omega

end SetupScript.Template
