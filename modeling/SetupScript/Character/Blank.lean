/-!
# Blank characters

A blank is a character that Unicode counts as white space, or one of the four information
separators U+001C to U+001F.  There are twenty-nine of them.
-/

namespace SetupScript.Character

/-- The blank characters. -/
def isBlank (character : Char) : Bool :=
  let codePoint := character.toNat
  (0x09 ≤ codePoint && codePoint ≤ 0x0D) || (0x1C ≤ codePoint && codePoint ≤ 0x20) ||
    codePoint == 0x85 || codePoint == 0xA0 || codePoint == 0x1680 ||
    (0x2000 ≤ codePoint && codePoint ≤ 0x200A) || codePoint == 0x2028 || codePoint == 0x2029 ||
    codePoint == 0x202F || codePoint == 0x205F || codePoint == 0x3000

end SetupScript.Character
