import PageScan.Script.Lexeme

/-!
# The lexer

A `Lexer` stands somewhere in a script. It knows the bytes that are still unread, their offset, one
bit about the tokens behind it (whether a value may end here), and whether it met a malformed token.
It is a value: pulling a token gives the token and the lexer behind it, and a copy of a lexer goes
its own way.

The lexer gives tokens until the script ends or a token is malformed. The malformed token is still
given, with one report of it; from then on there is nothing more to read. Tokens come one by one as
an option (`Lexer.next?`), one by one with an end mark that repeats for ever (`Lexer.pull`), up to a
number (`Lexer.take`) or all at once (`Lexer.drain`).
-/

namespace PageScan.Script

/-- The report of a malformed token: where it starts and what it was to be. -/
structure Malformed where
  offset : Nat
  kind : TokenKind
  deriving DecidableEq, Repr

/-- A place in a script. A fresh lexer has nothing to read. -/
structure Lexer where
  unread : List UInt8 := []
  position : Nat := 0
  afterValue : Bool := false
  malformed : Bool := false
  deriving DecidableEq, Repr

/-- One token, the lexer behind it, and the report if the token is malformed. -/
structure Pull where
  token : Token
  lexer : Lexer
  report : Option Malformed := none
  deriving DecidableEq, Repr

/-- Tokens in a row, the lexer behind them, and the reports among them. -/
structure Run where
  tokens : List Token
  lexer : Lexer
  reports : List Malformed
  deriving DecidableEq, Repr

/-- The run with one more token in front. -/
def Run.cons (p : Pull) (r : Run) : Run :=
  ⟨p.token :: r.tokens, r.lexer, p.report.toList ++ r.reports⟩

@[simp] theorem Run.tokens_cons (p : Pull) (r : Run) :
    (r.cons p).tokens = p.token :: r.tokens := rfl

@[simp] theorem Run.lexer_cons (p : Pull) (r : Run) : (r.cons p).lexer = r.lexer := rfl

@[simp] theorem Run.reports_cons (p : Pull) (r : Run) :
    (r.cons p).reports = p.report.toList ++ r.reports := rfl

namespace Lexer

/-- The lexer at the start of a script. -/
def on (script : List UInt8) : Lexer := { unread := script }

/-- Turns a lexer to another script and forgets all about the one before. -/
def rebind (_ : Lexer) (script : List UInt8) : Lexer := on script

/-- Reads the token that the unread bytes `b :: rest` begin with. -/
def read (l : Lexer) (b : UInt8) (rest : List UInt8) : Pull :=
  let x := lexeme l.afterValue b rest
  let span : Span := ⟨l.position, l.position + x.text.length⟩
  { token := ⟨x.kind, span, x.text⟩
    lexer := ⟨x.rest, span.stop, x.valueBehind l.afterValue, !x.closed⟩
    report := if x.closed then none else some ⟨span.start, x.kind⟩ }

/-- **The next token**, unless the script is at its end or a token was malformed. -/
def next? (l : Lexer) : Option Pull :=
  match l.unread with
  | [] => none
  | b :: rest => if l.malformed then none else some (l.read b rest)

/-- The empty token that marks the end. -/
def endToken (l : Lexer) : Token := ⟨.endOfInput, ⟨l.position, l.position⟩, []⟩

/-- The next token, or the end mark, which leaves the lexer as it is. -/
def pull (l : Lexer) : Pull := l.next?.getD { token := l.endToken, lexer := l }

theorem pull_of_none {l : Lexer} (h : l.next? = none) :
    l.pull = { token := l.endToken, lexer := l } := by
  rw [pull, h, Option.getD_none]

theorem pull_of_some {l : Lexer} {p : Pull} (h : l.next? = some p) : l.pull = p := by
  rw [pull, h, Option.getD_some]

/-- A token leaves fewer bytes unread. -/
theorem length_unread_next?_lt {l : Lexer} {p : Pull} (h : l.next? = some p) :
    p.lexer.unread.length < l.unread.length := by
  unfold next? at h
  split at h
  · exact absurd h (by simp)
  · next b rest hunread =>
    split at h
    · exact absurd h (by simp)
    · obtain rfl := Option.some.inj h
      rw [hunread]
      exact length_lexeme_rest_lt l.afterValue b rest

/-- The next tokens, at most `n` of them. -/
def take : Nat → Lexer → Run
  | 0, l => ⟨[], l, []⟩
  | n + 1, l =>
    match l.next? with
    | none => ⟨[], l, []⟩
    | some p => (p.lexer.take n).cons p

/-- All tokens that are left. -/
def drain (l : Lexer) : Run :=
  match _h : l.next? with
  | none => ⟨[], l, []⟩
  | some p => p.lexer.drain.cons p
termination_by l.unread.length
decreasing_by exact length_unread_next?_lt _h

theorem drain_of_none {l : Lexer} (h : l.next? = none) : l.drain = ⟨[], l, []⟩ := by
  rw [drain]
  split
  · rfl
  · next p hp => exact absurd (h.symm.trans hp) (by simp)

theorem drain_of_some {l : Lexer} {p : Pull} (h : l.next? = some p) :
    l.drain = p.lexer.drain.cons p := by
  rw [drain]
  split
  · next hn => exact absurd (h.symm.trans hn) (by simp)
  · next q hq => rw [h] at hq; rw [Option.some.inj hq]

end Lexer

end PageScan.Script
