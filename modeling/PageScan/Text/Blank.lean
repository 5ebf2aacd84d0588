/-!
# Blank characters

`isBlank` is the Unicode property `White_Space`. Arguments, category names and shell lines are
trimmed and split by it: a no-break space or an ideographic space is blank, a zero-width space or
a byte order mark is not.

Texts are trimmed as lists of characters (`trim`), so that trimming is two `dropWhile`s.
-/

namespace PageScan.Text

/-- The characters with the Unicode property `White_Space`. -/
def isBlank (c : Char) : Bool :=
  let n := c.toNat
  (0x09 ≤ n && n ≤ 0x0D) || n == 0x20 || n == 0x85 || n == 0xA0 || n == 0x1680 ||
    (0x2000 ≤ n && n ≤ 0x200A) || n == 0x2028 || n == 0x2029 || n == 0x202F || n == 0x205F ||
    n == 0x3000

/-- The text without the blanks it starts with. -/
def trimStart (cs : List Char) : List Char := cs.dropWhile isBlank

/-- The text without the blanks it ends with. -/
def trimEnd (cs : List Char) : List Char := (cs.reverse.dropWhile isBlank).reverse

/-- The text without the blanks around it. -/
def trim (cs : List Char) : List Char := trimEnd (trimStart cs)

@[simp] theorem trimStart_nil : trimStart [] = [] := rfl

@[simp] theorem trimEnd_nil : trimEnd [] = [] := rfl

@[simp] theorem trim_nil : trim [] = [] := rfl

/-- Splits a text at its first blank: the word before it and, if there is a blank at all, what
follows that blank. -/
def firstWord (cs : List Char) : List Char × Option (List Char) :=
  (cs.takeWhile (!isBlank ·), (cs.dropWhile (!isBlank ·)).tail?)

end PageScan.Text
