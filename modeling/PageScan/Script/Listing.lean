import PageScan.Script.Tokenized
import PageScan.Text.Column
import PageScan.Text.Escape
import PageScan.Text.Styled

/-!
# Tokens for the reader

A token is shown in two ways: as one line of a listing, with offset, kind and escaped text in
columns (`Token.line`), and as its bare text in the colour of its kind (`Token.painted`). Both read
the bytes as text and put a mark for what is no character.
-/

namespace PageScan.Script

open Text

namespace Token

/-- The text of the token as characters. -/
def characters (t : Token) : List Char := decodeLossy t.text

/-- The line of a listing, where `write` is how texts are written between quotes. -/
def lineBy (write : List Char → List Char) (t : Token) : String :=
  padLeft 6 (toString t.span.start) ++ " " ++ padRight 20 t.kind.label ++ " \"" ++
    String.ofList (write t.characters) ++ "\""

/-- **The line of a listing.** -/
def line (t : Token) : String := t.lineBy escape

end Token

/-- The styles of a kind of token, the innermost first. -/
def TokenKind.styles : TokenKind → List Style
  | .keyword k =>
    if k.isValue then [.blue]
    else if k.isStrictReserved then [.magenta, .italic]
    else [.magenta, .bold]
  | .number => [.yellow]
  | .string => [.green]
  | .regex => [.red]
  | .comment => [.dimmed]
  | .operator => [.cyan]
  | .whitespace | .lineSeparator | .identifier | .endOfInput => []

/-- **The token in colour.** -/
def Token.painted (t : Token) : Piece := ⟨String.ofList t.characters, t.kind.styles⟩

/-- The tokens of a script in colour. -/
def Tokenized.painted (t : Tokenized) : Styled := t.tokens.map (·.painted)

end PageScan.Script
