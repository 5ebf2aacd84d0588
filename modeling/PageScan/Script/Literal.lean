import PageScan.Script.Byte
import PageScan.Script.Cut

/-!
# Strings and regular expressions

Both run to an end mark, and in both a backslash takes the byte behind it into the token whatever
that byte is. A string ends at the quote that opened it and may hold line feeds. A regular
expression ends at a slash outside a bracketed class and is broken off behind a line feed.

The rules read the bytes behind the opening mark and remember what they are in the middle of: a
byte that a backslash takes (`escaped`) and a bracketed class (`inClass`).
-/

namespace PageScan.Script

/-- **A string from behind its opening quote.** -/
def stringTail (quote : UInt8) : Bool → List UInt8 → Cut
  | _, [] => ⟨[], [], false⟩
  | true, b :: s => (stringTail quote false s).cons b
  | false, b :: s =>
    if b = backslash then (stringTail quote true s).cons b
    else if b = quote then ⟨[b], s, true⟩
    else (stringTail quote false s).cons b

theorem stringTail_text_append_rest (quote : UInt8) (escaped : Bool) (s : List UInt8) :
    (stringTail quote escaped s).text ++ (stringTail quote escaped s).rest = s := by
  fun_induction stringTail quote escaped s <;> simp_all

/-- **A regular expression from behind its opening slash.** -/
def regexTail : Bool → Bool → List UInt8 → Cut
  | _, _, [] => ⟨[], [], false⟩
  | inClass, true, b :: s => (regexTail inClass false s).cons b
  | inClass, false, b :: s =>
    if b = backslash then (regexTail inClass true s).cons b
    else if b = lineFeed then ⟨[b], s, false⟩
    else if b = slash ∧ inClass = false then ⟨[b], s, true⟩
    else if b = openBracket then (regexTail true false s).cons b
    else if b = closeBracket then (regexTail false false s).cons b
    else (regexTail inClass false s).cons b

theorem regexTail_text_append_rest (inClass escaped : Bool) (s : List UInt8) :
    (regexTail inClass escaped s).text ++ (regexTail inClass escaped s).rest = s := by
  fun_induction regexTail inClass escaped s <;> simp_all

end PageScan.Script
