import PageScan.Script.Byte
import PageScan.Script.Cut

/-!
# Words

A word is an identifier or a keyword. It goes on over letters, digits, `_`, `$`, bytes from `0x7F`
on, and escapes: a backslash takes the byte behind it into the word whatever that byte is. Escapes
are kept as they are, so an escaped spelling of a keyword is an identifier.
-/

namespace PageScan.Script

/-- **A word from its first byte on.** `escaped` tells whether the byte before was a backslash that
takes this one. -/
def wordTail : Bool → List UInt8 → Cut
  | _, [] => ⟨[], [], true⟩
  | true, b :: s => (wordTail false s).cons b
  | false, b :: s =>
    if b = backslash then (wordTail true s).cons b
    else if isWordStart b || isDigit b then (wordTail false s).cons b
    else ⟨[], b :: s, true⟩

theorem wordTail_text_append_rest (escaped : Bool) (s : List UInt8) :
    (wordTail escaped s).text ++ (wordTail escaped s).rest = s := by
  fun_induction wordTail escaped s <;> simp_all

@[simp] theorem closed_wordTail (escaped : Bool) (s : List UInt8) :
    (wordTail escaped s).closed = true := by
  fun_induction wordTail escaped s <;> simp_all

end PageScan.Script
