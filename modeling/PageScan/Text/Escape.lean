import PageScan.Text.ClusterRole
import PageScan.Text.Printable

/-!
# Escaped text

`escape` writes a text so that it fits between double quotes on one line: quotes, the backslash
and the usual controls get a short escape, every other character without a visible form its code
point in braces. A character that extends the one before it is written as it is, except at the
beginning of the text, where it would join the opening quote.
-/

namespace PageScan.Text

/-- The digits of a code point in base sixteen, small letters and no leading zero. -/
def hexDigits (n : Nat) : List Char := Nat.toDigits 16 n

/-- The escape by code point, such as `\u{7f}`. -/
def escapeCodePoint (c : Char) : List Char := ['\\', 'u', '{'] ++ hexDigits c.toNat ++ ['}']

/-- The written form of one character; `atStart` tells whether the text begins with it. -/
def escapeChar (atStart : Bool) (c : Char) : List Char :=
  if c = '\x00' then ['\\', '0']
  else if c = '\t' then ['\\', 't']
  else if c = '\r' then ['\\', 'r']
  else if c = '\n' then ['\\', 'n']
  else if c = '\\' ∨ c = '"' ∨ c = '\'' then ['\\', c]
  else if atStart ∧ isGraphemeExtend c then escapeCodePoint c
  else if isPrintable c then [c]
  else escapeCodePoint c

/-- **Escaping.** The written form of a text. -/
def escape : List Char → List Char
  | [] => []
  | c :: cs => escapeChar true c ++ cs.flatMap (escapeChar false)

end PageScan.Text
