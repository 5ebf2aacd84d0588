import PageScan.Script.Lexer

/-!
# A script in tokens

`tokenize` reads a whole script, or as much of it as comes up to and with the first malformed
token. The rest of the module asks about the result: the bytes it stands for, the tokens that carry
meaning, the place of the malformed token, and how many tokens there are of each kind.
-/

namespace PageScan.Script

/-- The tokens of a script and whether the last of them is malformed. -/
structure Tokenized where
  tokens : List Token
  malformed : Bool
  deriving DecidableEq, Repr

/-- **A script in tokens.** -/
def tokenize (script : List UInt8) : Tokenized :=
  let r := (Lexer.on script).drain
  ⟨r.tokens, r.lexer.malformed⟩

/-- Independent scripts in tokens, in their order. -/
def tokenizeAll (scripts : List (List UInt8)) : List Tokenized := scripts.map tokenize

namespace Tokenized

/-- The bytes of all tokens in a row. -/
def reconstruct (t : Tokenized) : List UInt8 := t.tokens.flatMap (·.text)

/-- The tokens that carry meaning. -/
def significant (t : Tokenized) : List Token := t.tokens.filter (·.isSignificant)

/-- Where the malformed token starts. -/
def errorOffset? (t : Tokenized) : Option Nat :=
  if t.malformed then some ((t.tokens.getLast?.map (·.span.start)).getD 0) else none

/-- The number of tokens whose kind has the given name. -/
def count (t : Tokenized) (kind : String) : Nat := t.tokens.countP (·.kind.name == kind)

/-- The kinds that occur, by name in alphabetical order, and how often. -/
def summary (t : Tokenized) : List (String × Nat) :=
  (TokenKind.names.map fun kind => (kind, t.count kind)).filter (0 < ·.2)

end Tokenized

end PageScan.Script
