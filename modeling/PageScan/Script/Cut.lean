/-!
# Cutting bytes off a script

A rule for one kind of token takes the unread bytes and says where the token ends. Its answer is a
`Cut`: the bytes of the token, the bytes left over, and whether the token is complete. A token is
incomplete (not `closed`) when the script ends, or a regular expression meets a line feed, before
the token's end mark.

A rule never loses or invents a byte: for each there is a lemma that says
`(rule s).text ++ (rule s).rest = s`.
-/

namespace PageScan.Script

/-- The bytes of one token and what is left behind it. -/
structure Cut where
  text : List UInt8
  rest : List UInt8
  closed : Bool := true
  deriving DecidableEq, Repr

namespace Cut

/-- The same cut with one more byte in front of the token. -/
def cons (b : UInt8) (c : Cut) : Cut := { c with text := b :: c.text }

@[simp] theorem text_cons (b : UInt8) (c : Cut) : (c.cons b).text = b :: c.text := rfl

@[simp] theorem rest_cons (b : UInt8) (c : Cut) : (c.cons b).rest = c.rest := rfl

@[simp] theorem closed_cons (b : UInt8) (c : Cut) : (c.cons b).closed = c.closed := rfl

/-- The longest run of bytes with a property. -/
def run (p : UInt8 → Bool) (s : List UInt8) : Cut := ⟨s.takeWhile p, s.dropWhile p, true⟩

@[simp] theorem text_run (p : UInt8 → Bool) (s : List UInt8) : (run p s).text = s.takeWhile p := rfl

@[simp] theorem rest_run (p : UInt8 → Bool) (s : List UInt8) : (run p s).rest = s.dropWhile p := rfl

@[simp] theorem closed_run (p : UInt8 → Bool) (s : List UInt8) : (run p s).closed = true := rfl

theorem run_text_append_rest (p : UInt8 → Bool) (s : List UInt8) :
    (run p s).text ++ (run p s).rest = s := List.takeWhile_append_dropWhile

end Cut

end PageScan.Script
