import PageScan.Script.Lexer

/-!
# Two lexers side by side

A `Bench` holds two lexers that are worked on by turns: bound to scripts, asked for tokens, copied
into each other's place. `Bench.perform` says what each operation delivers and leaves behind.
-/

namespace PageScan.Script

/-- One of the two places on a bench. -/
inductive Slot where
  | first
  | second
  deriving DecidableEq, Repr

/-- Two lexers; both have nothing to read at the start. -/
structure Bench where
  first : Lexer := {}
  second : Lexer := {}
  deriving DecidableEq, Repr

/-- What can be done with the lexer in a slot. -/
inductive Operation where
  /-- put a lexer without a script there -/
  | renew
  /-- put a lexer on a script there -/
  | place (script : List UInt8)
  /-- turn the lexer that is there to a script -/
  | rebind (script : List UInt8)
  /-- take one token, or the end mark -/
  | pull
  /-- take one token, if there is one -/
  | next
  /-- take some tokens -/
  | take (count : Nat)
  /-- take all tokens -/
  | drain
  /-- put a copy into the other or the same slot -/
  | copyTo (target : Slot)
  /-- only look -/
  | inspect
  deriving DecidableEq, Repr

/-- What an operation delivers: tokens, the end mark among them if one was asked for, and reports
of malformed ones. -/
structure Delivery where
  tokens : List Token := []
  reports : List Malformed := []
  deriving DecidableEq, Repr

namespace Bench

/-- The lexer in a slot. -/
def lexer (b : Bench) : Slot → Lexer
  | .first => b.first
  | .second => b.second

/-- The bench with another lexer in a slot. -/
def put (b : Bench) (l : Lexer) : Slot → Bench
  | .first => { b with first := l }
  | .second => { b with second := l }

@[simp] theorem lexer_put_self (b : Bench) (l : Lexer) (s : Slot) : (b.put l s).lexer s = l := by
  cases s <;> rfl

theorem lexer_put_of_ne (b : Bench) (l : Lexer) {s t : Slot} (h : s ≠ t) :
    (b.put l s).lexer t = b.lexer t := by
  cases s <;> cases t <;> first | rfl | exact absurd rfl h

/-- **One operation** on the lexer in a slot. -/
def perform (b : Bench) (s : Slot) : Operation → Delivery × Bench
  | .renew => ({}, b.put {} s)
  | .place script => ({}, b.put (Lexer.on script) s)
  | .rebind script => ({}, b.put ((b.lexer s).rebind script) s)
  | .pull =>
    let p := (b.lexer s).pull
    (⟨[p.token], p.report.toList⟩, b.put p.lexer s)
  | .next =>
    match (b.lexer s).next? with
    | some p => (⟨[p.token], p.report.toList⟩, b.put p.lexer s)
    | none => ({}, b)
  | .take count =>
    let r := (b.lexer s).take count
    (⟨r.tokens, r.reports⟩, b.put r.lexer s)
  | .drain =>
    let r := (b.lexer s).drain
    (⟨r.tokens, r.reports⟩, b.put r.lexer s)
  | .copyTo target => ({}, b.put (b.lexer s) target)
  | .inspect => ({}, b)

end Bench

end PageScan.Script
