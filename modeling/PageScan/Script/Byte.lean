/-!
# Bytes of a script

A script is a byte sequence and is never decoded, so what may begin or continue a token is a
question about single bytes. Bytes from `0x7F` on are taken for parts of words: every character
outside ASCII may then stand in a name, whichever bytes it is made of.
-/

namespace PageScan.Script

/-! ### Bytes with a name -/

abbrev lineFeed : UInt8 := 0x0A
abbrev carriageReturn : UInt8 := 0x0D
abbrev doubleQuote : UInt8 := 0x22
abbrev singleQuote : UInt8 := 0x27
abbrev star : UInt8 := 0x2A
abbrev plus : UInt8 := 0x2B
abbrev minus : UInt8 := 0x2D
abbrev dot : UInt8 := 0x2E
abbrev slash : UInt8 := 0x2F
abbrev equals : UInt8 := 0x3D
abbrev openBracket : UInt8 := 0x5B
abbrev backslash : UInt8 := 0x5C
abbrev closeBracket : UInt8 := 0x5D

/-! ### Classes of bytes -/

/-- Space, tab and form feed. -/
def isSpace (b : UInt8) : Bool := b == 0x20 || b == 0x09 || b == 0x0C

/-- Line feed and carriage return. -/
def isLineSeparator (b : UInt8) : Bool := b == lineFeed || b == carriageReturn

/-- The digits `0` to `9`. -/
def isDigit (b : UInt8) : Bool := 0x30 ≤ b && b ≤ 0x39

/-- The letters `A` to `Z` and `a` to `z`. -/
def isLetter (b : UInt8) : Bool := (0x41 ≤ b && b ≤ 0x5A) || (0x61 ≤ b && b ≤ 0x7A)

/-- The double and the single quote. -/
def isQuote (b : UInt8) : Bool := b == doubleQuote || b == singleQuote

/-- The bytes that may begin a word: letters, `_`, `$`, the backslash of an escape, and every byte
from `0x7F` on. -/
def isWordStart (b : UInt8) : Bool :=
  isLetter b || b == 0x5F || b == 0x24 || b == backslash || 0x7F ≤ b

/-- The closing brackets `)`, `]` and `}`, behind which a slash divides. -/
def isClosing (b : UInt8) : Bool := b == 0x29 || b == closeBracket || b == 0x7D

end PageScan.Script
