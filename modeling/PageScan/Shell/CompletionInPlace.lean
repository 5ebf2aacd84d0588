import PageScan.Shell.Completion

/-!
# Completion in place

`completeBy` and `hintBy` take the word off the characters in front of the cursor. Here they work on
a line that stays where it is: the word is found by the byte offsets of the characters
(`charOffsets`), the line and the candidates are cut at byte offsets, and a candidate is compared
with the word byte by byte.

A cut may miss, at an offset behind the end of the text or inside a character, and the answer is
`none` then.
-/

namespace PageScan.Shell

open Text Script

/-! ### Cuts -/

/-- The text up to a byte offset. -/
def upTo? (stop : Nat) (cs : List Char) : Option (List Char) := (splitAt? stop cs).map (·.1)

/-- The text from a byte offset on. -/
def from? (start : Nat) (cs : List Char) : Option (List Char) := (splitAt? start cs).map (·.2)

/-- The text between two byte offsets. -/
def between? (start stop : Nat) (cs : List Char) : Option (List Char) := do
  from? start (← upTo? stop cs)

/-- The characters of a text, each with the offset of its first byte. The text starts at
`offset`. -/
def charOffsets (offset : Nat) : List Char → List (Nat × Char)
  | [] => []
  | c :: cs => (offset, c) :: charOffsets (offset + (encodeChar c).length) cs

/-! ### Candidates -/

/-- The words that begin with the bytes of a word and have more bytes than it. -/
def candidatesInPlace (word : List Char) : List String :=
  completionWords.filter fun w =>
    (encode word).isPrefixOf (bytes w) && byteLength word < byteLength w.toList

/-- What a candidate adds to the word. -/
def added? (word : List Char) (candidate : String) : Option String :=
  (from? (byteLength word) candidate.toList).map String.ofList

/-- The hint for a word. -/
def completionHintInPlace (word : List Char) : Option (Option Styled) :=
  if byteLength word < 2 then some none
  else
    match (candidatesInPlace word).head? with
    | some w => (added? word w).map fun rest => some (Styled.styled .dimmed rest)
    | none => some none

/-! ### Completing and hinting -/

section Words

variable (alphanumeric : Char → Bool)

/-- The offset behind the last character that is in no word. -/
def wordStartInPlace (cs : List Char) : Nat :=
  match (charOffsets 0 cs).reverse.find? (fun (_, c) => !isWordChar alphanumeric c) with
  | some (offset, c) => offset + (encodeChar c).length
  | none => 0

/-- The completions of the word in front of the cursor. -/
def completeInPlace (line : String) (cursor : Nat) : Option Completion := do
  let start := wordStartInPlace alphanumeric (← upTo? cursor line.toList)
  let word ← between? start cursor line.toList
  if word.isEmpty then return ⟨cursor, []⟩
  else
    let pairs ← (candidatesInPlace word).mapM fun w => (added? word w).map (w, ·)
    return ⟨cursor, pairs⟩

/-- The hint for the word at the end of the line. -/
def hintInPlace (line : String) (cursor : Nat) : Option (Option Styled) :=
  if cursor < byteLength line.toList then some none
  else do
    completionHintInPlace (← from? (wordStartInPlace alphanumeric line.toList) line.toList)

end Words

end PageScan.Shell
