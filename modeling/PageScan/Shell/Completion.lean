import PageScan.Script.Keyword
import PageScan.Text.Alphanumeric
import PageScan.Text.Styled
import PageScan.Text.Utf8

/-!
# Completion and hints

The shell completes the word in front of the cursor to a reserved word or a dot-command. That word
is the longest run of letters, numbers, `_`, `$` and `.` that ends at the cursor. At the end of a
line the rest of the first completion is shown as a hint, once two bytes of the word are typed.

Which characters are letters and numbers is a parameter (`alphanumeric`) of all that looks for
words; the shell itself goes by `isAlphanumeric`. Offsets into a line count bytes, and a cursor
inside a character belongs to no completion.
-/

namespace PageScan.Shell

open Text Script

/-- The dot-commands that can be completed, in order. -/
def commandWords : List String := [".clear", ".exit", ".help", ".load", ".rules", ".version"]

/-- The words to complete to, in ascending order; a dot comes before all letters. -/
def completionWords : List String := commandWords ++ Keyword.all.map (·.spelling)

/-! ### Completions of a word -/

/-- The completions of a word, each with what it adds to the word. -/
def candidates (word : List Char) : List (String × String) :=
  completionWords.filterMap fun w =>
    if word.isPrefixOf w.toList && word.length < w.toList.length then
      some (w, String.ofList (w.toList.drop word.length))
    else none

/-- What the first completion adds to a word of at least two bytes. -/
def completionHint (word : List Char) : Option Styled :=
  if byteLength word < 2 then none
  else (candidates word).head?.map fun (_, rest) => Styled.styled .dimmed rest

/-- Completions and the offset at which they are inserted. -/
structure Completion where
  offset : Nat
  pairs : List (String × String)
  deriving DecidableEq, Repr

/-! ### The word in front of the cursor -/

section Words

variable (alphanumeric : Char → Bool)

/-- The characters that a word of the shell is made of. -/
def isWordChar (c : Char) : Bool := alphanumeric c || c == '_' || c == '$' || c == '.'

/-- The word that a text ends with. -/
def lastWord (cs : List Char) : List Char :=
  (cs.reverse.takeWhile (isWordChar alphanumeric)).reverse

/-- The offset at which the word starts that a text ends with. -/
def wordStartBy (cs : List Char) : Nat :=
  byteLength (cs.reverse.dropWhile (isWordChar alphanumeric)).reverse

/-- Completing a line at a cursor; none when the cursor is behind the line or inside a character. -/
def completeBy (line : String) (cursor : Nat) : Option Completion :=
  (splitAt? cursor line.toList).map fun (before, _) =>
    let word := lastWord alphanumeric before
    ⟨cursor, if word.isEmpty then [] else candidates word⟩

/-- The hint for a cursor that is not in front of the end of the line. -/
def hintBy (line : String) (cursor : Nat) : Option Styled :=
  if cursor < byteLength line.toList then none
  else completionHint (lastWord alphanumeric line.toList)

end Words

/-- The offset at which the word of the shell starts that a text ends with. -/
def wordStart (cs : List Char) : Nat := wordStartBy isAlphanumeric cs

/-- **Completing a line** in the shell. -/
def complete (line : String) (cursor : Nat) : Option Completion :=
  completeBy isAlphanumeric line cursor

/-- **The hint** of the shell. -/
def hint (line : String) (cursor : Nat) : Option Styled := hintBy isAlphanumeric line cursor

end PageScan.Shell
