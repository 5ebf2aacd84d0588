import PageScan.Script.Byte
import PageScan.Script.Cut

/-!
# Comments

A block comment opens with `/*` and ends behind the first `*/` whose star comes after the opening
slash. That star may be the one that opened the comment, so `/*/` is complete. A line comment opens
with `//` or `<!--` and ends in front of a line separator or with the script; it is always complete.
-/

namespace PageScan.Script

/-- The four bytes `<!--`. -/
def markupOpening : List UInt8 := [0x3C, 0x21, 0x2D, 0x2D]

/-- **A block comment from behind its opening slash.** `afterStar` tells whether the byte before
was a star. -/
def blockTail : Bool → List UInt8 → Cut
  | _, [] => ⟨[], [], false⟩
  | afterStar, b :: s =>
    if b = slash ∧ afterStar = true then ⟨[b], s, true⟩ else (blockTail (b == star) s).cons b

theorem blockTail_text_append_rest (afterStar : Bool) (s : List UInt8) :
    (blockTail afterStar s).text ++ (blockTail afterStar s).rest = s := by
  fun_induction blockTail afterStar s <;> simp_all

/-- A line comment, opening mark included. -/
def lineComment (s : List UInt8) : Cut := Cut.run (!isLineSeparator ·) s

theorem lineComment_text_append_rest (s : List UInt8) :
    (lineComment s).text ++ (lineComment s).rest = s := Cut.run_text_append_rest ..

end PageScan.Script
