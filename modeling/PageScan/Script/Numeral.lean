import PageScan.Script.Byte
import PageScan.Script.Cut

/-!
# Numerals

A numeral is a run of digits with at most one dot in it, before it or behind it. A second dot
begins the next token. A dot that no digit follows is cut alone; it is no numeral but an operator.
-/

namespace PageScan.Script

/-- **A numeral, or a lone dot,** from its first byte on: digits, and if a dot follows them that dot
and the digits behind it. -/
def numeral (s : List UInt8) : Cut :=
  let whole := Cut.run isDigit s
  match whole.rest with
  | b :: rest =>
    if b = dot then
      let fraction := Cut.run isDigit rest
      ⟨whole.text ++ b :: fraction.text, fraction.rest, true⟩
    else whole
  | [] => whole

theorem numeral_text_append_rest (s : List UInt8) :
    (numeral s).text ++ (numeral s).rest = s := by
  have hs := Cut.run_text_append_rest isDigit s
  unfold numeral
  dsimp only
  split
  · next b rest hrest =>
    split
    · next hb =>
      rw [List.append_assoc, List.cons_append, Cut.run_text_append_rest, ← hrest, hs]
    · exact hs
  · exact hs

@[simp] theorem closed_numeral (s : List UInt8) : (numeral s).closed = true := by
  unfold numeral
  dsimp only
  repeat' split
  all_goals rfl

end PageScan.Script
