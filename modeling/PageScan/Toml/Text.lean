import PageScan.Toml.Reader

/-!
# Strings, keys and blanks of TOML

Strings stand between double quotes, with escapes, or between single quotes, without. Three quotes
open a string that may run over several lines: a line break right behind them is dropped, every
other line break is one line feed, and up to two quotes may stand right before the closing three.
Between double quotes a backslash at the end of a line takes the line break and all blanks behind
it away.

Control characters other than the tab are allowed nowhere.
-/

namespace PageScan.Toml

open Reader

/-! ### Blanks, line breaks and comments -/

/-- Space and tab. -/
def isInlineBlank (c : Char) : Bool := c == ' ' || c == '\t'

/-- Spaces and tabs. -/
def blanks : Reader Unit := do let _ ← chars isInlineBlank

/-- One line break. -/
def lineBreak : Reader Unit := char '\n' <|> text ['\r', '\n']

/-- The characters that may stand in a text at all, line breaks aside. -/
def isTextChar (c : Char) : Bool := c == '\t' || (0x20 ≤ c.toNat && c.toNat != 0x7F)

/-- A comment up to the end of its line. -/
def comment : Reader Unit := do
  char '#'
  let _ ← chars isTextChar

/-- Blanks, line breaks and comments. -/
def filler : Reader Unit := do
  let _ ← many ((do let _ ← chars1 isInlineBlank) <|> lineBreak <|> comment)

/-- What may stand between a statement and the end of its line, and that end. -/
def endOfLine : Reader Unit := do
  blanks
  let _ ← optional comment
  lineBreak <|> atEnd

/-! ### Strings -/

/-- The value of a digit of a number in base sixteen or less. -/
def digitValue (c : Char) : Nat :=
  if c.isDigit then c.toNat - '0'.toNat
  else if 'a' ≤ c ∧ c ≤ 'f' then c.toNat - 'a'.toNat + 10
  else c.toNat - 'A'.toNat + 10

/-- The digits of base sixteen. -/
def isHexDigit (c : Char) : Bool :=
  c.isDigit || ('a' ≤ c && c ≤ 'f') || ('A' ≤ c && c ≤ 'F')

/-- The number that digits stand for. -/
def numberOf (base : Nat) (digits : List Char) : Nat :=
  digits.foldl (fun n c => n * base + digitValue c) 0

/-- A character by its code point, which must not be half of a surrogate pair. -/
def codePoint (digits : Nat) : Reader (List Char) := do
  let n := numberOf 16 (← exactly digits isHexDigit)
  check (n < 0xD800 || (0xE000 ≤ n && n < 0x110000))
  return [Char.ofNat n]

/-- An escape between double quotes. -/
def escaped : Reader (List Char) := do
  char '\\'
  match ← satisfy fun _ => true with
  | 'b' => return ['\x08']
  | 't' => return ['\t']
  | 'n' => return ['\n']
  | 'f' => return ['\x0c']
  | 'r' => return ['\r']
  | '"' => return ['"']
  | '\\' => return ['\\']
  | 'u' => codePoint 4
  | 'U' => codePoint 8
  | _ => failure

/-- Characters between double quotes that stand for themselves. -/
def isBasicChar (c : Char) : Bool := isTextChar c && c != '"' && c != '\\'

/-- Characters between single quotes. -/
def isLiteralChar (c : Char) : Bool := isTextChar c && c != '\''

/-- A string between double quotes. -/
def basicString : Reader (List Char) := do
  char '"'
  let parts ← many (chars1 isBasicChar <|> escaped)
  char '"'
  return parts.flatten

/-- A string between single quotes. -/
def literalString : Reader (List Char) := do
  char '\''
  let body ← chars isLiteralChar
  char '\''
  return body

/-- A backslash at the end of a line, with the line break and the blanks that it takes away. -/
def continuedLine : Reader (List Char) := do
  char '\\'
  blanks
  lineBreak
  let _ ← many ((do let _ ← chars1 isInlineBlank) <|> lineBreak)
  return []

/-- One or two quotes that do not close the string. -/
def innerQuotes (quote : Char) : Reader (List Char) := do
  let quotes ← chars1 (· == quote)
  check (quotes.length < 3)
  return quotes

/-- The closing quotes, with up to two more in front that belong to the string. -/
def closingQuotes (quote : Char) : Reader (List Char) := do
  text [quote, quote, quote]
  let more ← optional (text [quote, quote])
  match more with
  | some () => return [quote, quote]
  | none =>
    match ← optional (char quote) with
    | some () => return [quote]
    | none => return []

/-- A string over several lines, given what it is made of besides quotes. -/
def longString (quote : Char) (part : Reader (List Char)) : Reader (List Char) := do
  text [quote, quote, quote]
  let _ ← optional lineBreak
  let newLine : Reader (List Char) := do
    lineBreak
    return ['\n']
  let parts ← many (part <|> newLine <|> innerQuotes quote)
  let final ← closingQuotes quote
  return parts.flatten ++ final

/-- Any string. -/
def anyString : Reader (List Char) :=
  longString '"' (chars1 isBasicChar <|> continuedLine <|> escaped) <|> basicString <|>
    longString '\'' (chars1 isLiteralChar) <|> literalString

/-! ### Keys -/

/-- The characters of a key without quotes. -/
def isBareKeyChar (c : Char) : Bool := c.isAlphanum || c == '-' || c == '_'

/-- One part of a key. -/
def simpleKey : Reader String := do
  return String.ofList (← chars1 isBareKeyChar <|> basicString <|> literalString)

/-- The most parts that a key may have. -/
def maxKeyParts : Nat := 79

/-- **A key,** in parts that are joined by dots. -/
def key : Reader (List String) := do
  let parts ← separated1 (char '.') do
    blanks
    let part ← simpleKey
    blanks
    return part
  check (parts.length ≤ maxKeyParts)
  return parts

end PageScan.Toml
