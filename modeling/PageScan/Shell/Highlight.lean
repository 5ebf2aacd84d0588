import PageScan.Script.Listing
import PageScan.Text.Blank

/-!
# Colours for a shell line

A line that begins with a dot is shown as a command, any other one as a script with its tokens in
colour; what the lexer left unread behind a malformed token is shown in red.

`isOpenBlockComment` tells whether a text stops inside a block comment. Such a text is not complete
(`validate`), and the shell waits for more lines before it reads it.
-/

namespace PageScan.Shell

open Text Script

/-- **A line in colour.** -/
def highlight (line : String) : Styled :=
  if (trimStart line.toList).head? = some '.' then Styled.styled .magenta line
  else
    let t := tokenize (bytes line)
    let unread :=
      match splitAt? t.reconstruct.length line.toList with
      | some (_, rest) => Styled.styled .red (String.ofList rest)
      | none => []
    t.painted ++ unread

/-- The two bytes `/*`. -/
def blockOpening : List UInt8 := [slash, star]

/-- Whether a text stops inside a block comment. -/
def isOpenBlockComment (text : String) : Bool :=
  let t := tokenize (bytes text)
  t.malformed && t.tokens.getLast?.any fun last =>
    last.kind == .comment && blockOpening.isPrefixOf last.text

/-- What the shell finds of a text before it answers it. -/
inductive Verdict where
  /-- the text goes on with the next line -/
  | incomplete
  /-- the text can be answered -/
  | valid
  deriving DecidableEq, Repr

/-- **The verdict on a text.** Only a block comment keeps a text from being complete. -/
def validate (text : String) : Verdict :=
  if isOpenBlockComment text then .incomplete else .valid

end PageScan.Shell
