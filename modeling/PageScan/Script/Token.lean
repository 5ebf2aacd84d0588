import PageScan.Script.Keyword

/-!
# Tokens

A token says what a stretch of a script is (`TokenKind`), where it lies (`Span`) and which bytes
it holds. Whitespace, line separators and comments are tokens too, the *trivia*; all other tokens
are *significant*.
-/

namespace PageScan.Script

/-- A stretch of a script by the offsets of its first byte and of the byte behind its last. -/
structure Span where
  start : Nat := 0
  stop : Nat := 0
  deriving DecidableEq, Repr

namespace Span

/-- The number of bytes in the span; none when it stops before it starts. -/
def length? (s : Span) : Option Nat := if s.start ≤ s.stop then some (s.stop - s.start) else none

/-- Whether the span starts and stops at one offset. -/
def isEmpty (s : Span) : Bool := s.start == s.stop

end Span

/-- What a token is. -/
inductive TokenKind where
  /-- a run of spaces, tabs and form feeds -/
  | whitespace
  /-- a run of line feeds and carriage returns -/
  | lineSeparator
  /-- a decimal numeral -/
  | number
  /-- a quoted string with its quotes -/
  | string
  /-- a regular expression between its slashes -/
  | regex
  /-- a comment of any of the three forms -/
  | comment
  /-- a word that is not reserved -/
  | identifier
  /-- a reserved word -/
  | keyword (word : Keyword)
  /-- punctuation -/
  | operator
  /-- nothing more to read, also behind a malformed token -/
  | endOfInput
  deriving DecidableEq, Repr

namespace TokenKind

/-- Trivia carry no meaning of the program. -/
def isTrivia : TokenKind → Bool
  | whitespace | lineSeparator | comment => true
  | _ => false

/-- The name of the kind; all keywords share one. -/
def name : TokenKind → String
  | whitespace => "whitespace"
  | lineSeparator => "line-separator"
  | number => "number"
  | string => "string"
  | regex => "regex"
  | comment => "comment"
  | identifier => "identifier"
  | keyword _ => "keyword"
  | operator => "operator"
  | endOfInput => "end-of-input"

/-- The name of the kind, with the word when it is a keyword. -/
def label : TokenKind → String
  | keyword word => "keyword(" ++ word.spelling ++ ")"
  | kind => kind.name

/-- The names of the kinds of proper tokens in alphabetical order. -/
def names : List String :=
  ["comment", "identifier", "keyword", "line-separator", "number", "operator", "regex", "string",
    "whitespace"]

end TokenKind

/-- A classified stretch of a script. -/
structure Token where
  kind : TokenKind
  span : Span
  text : List UInt8
  deriving DecidableEq, Repr

namespace Token

/-- Whether the token says that there is nothing more to read. -/
def isEnd (t : Token) : Bool := t.kind == .endOfInput

/-- Whether the token belongs to the program's meaning. -/
def isSignificant (t : Token) : Bool := !t.kind.isTrivia

end Token

end PageScan.Script
