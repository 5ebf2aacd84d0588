import PageScan.Script.Tokenized

/-!
# The lexer in place

`Lexer` carries the bytes that are still unread and cuts tokens off them. Here is the lexer as it
works on a script that stays where it is: it has an offset into the script and a handful of marks
that it changes as it passes over a byte (`Marks`), and one loop finds the end of every token
(`advance`), driven by what the token goes on over (`Extent`).

Every look at a byte and every slice of the script may miss here, and the length of a span may not
exist. In each of these cases the answer is `none`. The loop over all tokens ends, since every token
takes a byte (`index_scan_lt`).
`InPlaceLexer.view` forgets the marks that matter inside a token only, and shows a `Lexer`.
-/

namespace PageScan.Script

/-- What a token goes on over behind its first byte. -/
inductive Extent where
  | space
  | lineSeparator
  | number
  | word
  | string
  | regex
  | blockComment
  | lineComment
  | operator
  deriving DecidableEq, Repr

namespace Extent

/-- Whether the script may end inside the token. -/
def mayMeetEnd : Extent → Bool
  | .string | .regex | .blockComment => false
  | _ => true

/-- Whether the byte that stops the token belongs to it. -/
def takesStop : Extent → Bool
  | .string | .regex | .blockComment => true
  | _ => false

end Extent

/-- What the lexer remembers. Some of the marks hold between tokens, the others only inside one;
they keep their values behind it. -/
structure Marks where
  /-- the offset of the next unread byte -/
  index : Nat := 0
  /-- the byte before the one that is looked at -/
  previous : UInt8 := 0
  /-- the first byte of the token -/
  opening : UInt8 := 0
  /-- the byte before was a backslash that takes this one -/
  escaped : Bool := false
  /-- inside a bracketed class of a regular expression -/
  inClass : Bool := false
  /-- a token was malformed -/
  malformed : Bool := false
  /-- the text so far may end a value -/
  afterValue : Bool := false
  /-- the numeral has a dot already -/
  seenDot : Bool := false
  deriving DecidableEq, Repr

namespace Marks

/-! ### Looking at one byte

Each look says whether the token goes on over the byte, and leaves the marks changed, also when the
token does not go on. -/

/-- Takes a backslash, or the byte behind one. -/
def takesEscape (m : Marks) (b : UInt8) : Bool × Marks :=
  if m.escaped then (true, { m with escaped := false })
  else if b = backslash then (true, { m with escaped := true })
  else (false, m)

/-- The first dot is marked, so that a second one stops the numeral. -/
def inNumber (m : Marks) (b : UInt8) : Bool × Marks :=
  if b = dot then
    if m.seenDot then (false, m) else (true, { m with seenDot := true })
  else (isDigit b, m)

/-- An escape is taken whatever stands in it. -/
def inWord (m : Marks) (b : UInt8) : Bool × Marks :=
  let (taken, m) := m.takesEscape b
  (taken || isWordStart b || isDigit b, m)

/-- Only the quote that opened the string stops it. -/
def inString (m : Marks) (b : UInt8) : Bool × Marks :=
  let (taken, m) := m.takesEscape b
  (taken || b != m.opening, m)

/-- A line feed is refused and makes the token malformed. -/
def inRegex (m : Marks) (b : UInt8) : Bool × Marks :=
  let (taken, m) := m.takesEscape b
  if taken then (true, m)
  else if b = slash then (m.inClass, m)
  else if b = openBracket then (true, { m with inClass := true })
  else if b = closeBracket then (true, { m with inClass := false })
  else if b = lineFeed then (false, { m with malformed := true })
  else (true, m)

/-- The second byte of a pair wipes out the first, so that there is no third. -/
def inOperator (m : Marks) (b : UInt8) : Bool × Marks :=
  if isOperatorPair m.opening b then (true, { m with opening := 0 }) else (false, m)

/-- **Whether the token goes on** over a byte, and the marks behind the look at it. -/
def goesOn (m : Marks) (b : UInt8) : Extent → Bool × Marks
  | .space => (isSpace b, m)
  | .lineSeparator => (isLineSeparator b, m)
  | .number => m.inNumber b
  | .word => m.inWord b
  | .string => m.inString b
  | .regex => m.inRegex b
  | .blockComment => (!(m.previous == star && b == slash), m)
  | .lineComment => (!isLineSeparator b, m)
  | .operator => m.inOperator b

end Marks

/-! ### One token -/

/-- The bytes of a span, unless it reaches out of the script or stops before it starts. -/
def slice? (script : List UInt8) (s : Span) : Option (List UInt8) :=
  if s.start ≤ s.stop ∧ s.stop ≤ script.length then
    some ((script.take s.stop).drop s.start)
  else none

/-- The loop over the bytes of a token: the offset at which it stops. -/
def advance (script : List UInt8) (e : Extent) (offset : Nat) (m : Marks) :
    Option (Nat × Marks) :=
  if offset < script.length then do
    let b ← script[offset]?
    match m.goesOn b e with
    | (true, m) =>
      let b ← script[offset]?
      advance script e (offset + 1) { m with previous := b }
    | (false, m) => some (offset, m)
  else some (offset, m)
termination_by script.length - offset

/-- What is made of the offset at which the loop stops. -/
def settle (script : List UInt8) (e : Extent) (offset : Nat) (m : Marks) : Nat × Marks :=
  if offset = script.length then
    (offset, if e.mayMeetEnd then m else { m with malformed := true })
  else (if e.takesStop then offset + 1 else offset, m)

/-- **Takes one token** from its first byte on. -/
def consume (script : List UInt8) (e : Extent) (m : Marks) : Option (Span × Marks) := do
  let first ← script[m.index]?
  let (offset, m') ← advance script e (m.index + 1) { m with previous := first }
  let (stop, m') := settle script e offset m'
  return (⟨m.index, stop⟩, { m' with index := stop })

/-- A token whose extent alone tells its kind. -/
def scanPlain (script : List UInt8) (e : Extent) (kind : TokenKind) (m : Marks) :
    Option (TokenKind × Marks) := do
  let (_, m) ← consume script e m
  return (kind, m)

/-- A token that decides by itself whether a value may end behind it. -/
def scanSetting (script : List UInt8) (e : Extent) (kind : TokenKind) (afterValue : Bool)
    (m : Marks) : Option (TokenKind × Marks) := do
  let (_, m) ← consume script e m
  return (kind, { m with afterValue })

/-- A numeral, in which no second dot may be found, or a lone dot. -/
def scanNumber (script : List UInt8) (first : UInt8) (m : Marks) :
    Option (TokenKind × Marks) := do
  let (span, m) ← consume script .number { m with seenDot := first == dot }
  let m := { m with seenDot := false }
  let length ← span.length?
  if length = 1 ∧ first = dot then return (.operator, { m with afterValue := false })
  let text ← slice? script span
  guard (text.count dot ≤ 1)
  return (.number, { m with afterValue := true })

/-- An identifier or a keyword, told apart by the text as a whole. -/
def scanWord (script : List UInt8) (first : UInt8) (m : Marks) : Option (TokenKind × Marks) := do
  let (span, m) ← consume script .word { m with escaped := first == backslash }
  let text ← slice? script span
  match Keyword.ofBytes? text with
  | some k => return (.keyword k, { m with afterValue := k.isValue })
  | none => return (.identifier, { m with afterValue := true })

/-- A comment, a division or a regular expression: the next byte decides first, then the mark. -/
def scanSlash (script : List UInt8) (m : Marks) : Option (TokenKind × Marks) :=
  match script[m.index + 1]? with
  | some b =>
    if b = slash then scanPlain script .lineComment .comment m
    else if b = star then scanPlain script .blockComment .comment m
    else if m.afterValue then scanSetting script .operator .operator false m
    else scanPlain script .regex .regex { m with inClass := false }
  | none => scanSetting script .operator .operator false m

/-- What the first byte of a token chooses. -/
def scan (script : List UInt8) (first : UInt8) (m : Marks) : Option (TokenKind × Marks) :=
  if isSpace first then scanPlain script .space .whitespace m
  else if isLineSeparator first then scanPlain script .lineSeparator .lineSeparator m
  else if isDigit first || first == dot then scanNumber script first m
  else if first = slash then scanSlash script m
  else if isQuote first then scanSetting script .string .string true m
  else if isWordStart first then scanWord script first m
  else if markupOpening.isPrefixOf (script.drop m.index) then
    scanPlain script .lineComment .comment m
  else scanSetting script .operator .operator (isClosing first) m

/-! ### A token takes a byte -/

section Index

variable {script : List UInt8} {e : Extent} {m m' : Marks} {kind k : TokenKind}

theorem le_advance {offset stop : Nat} (h : advance script e offset m = some (stop, m')) :
    offset ≤ stop := by
  fun_induction advance script e offset m with
  | case1 offset m hlt ih =>
    -- the loop goes on one byte further, or stops here
    obtain ⟨b, -, h⟩ := Option.bind_eq_some_iff.1 h
    split at h
    · next m₁ hgo =>
      obtain ⟨c, -, h⟩ := Option.bind_eq_some_iff.1 h
      exact Nat.le_of_succ_le (ih m₁ c h)
    · exact Nat.le_of_eq (Prod.mk.inj (Option.some.inj h)).1
  | case2 offset m hlt => exact Nat.le_of_eq (Prod.mk.inj (Option.some.inj h)).1

theorem le_settle (script : List UInt8) (e : Extent) (offset : Nat) (m : Marks) :
    offset ≤ (settle script e offset m).1 := by
  unfold settle
  split
  · exact Nat.le_refl offset
  · split
    · exact Nat.le_succ offset
    · exact Nat.le_refl offset

theorem index_consume_lt {span : Span} (h : consume script e m = some (span, m')) :
    m.index < m'.index := by
  obtain ⟨first, -, h⟩ := Option.bind_eq_some_iff.1 h
  obtain ⟨⟨offset, m''⟩, hadvance, h⟩ := Option.bind_eq_some_iff.1 h
  have hle := le_advance hadvance
  have hsettle := le_settle script e offset m''
  obtain ⟨-, rfl⟩ := Prod.mk.inj (Option.some.inj h)
  exact Nat.lt_of_lt_of_le hle hsettle

theorem index_scanPlain_lt (h : scanPlain script e kind m = some (k, m')) :
    m.index < m'.index := by
  obtain ⟨⟨span, m''⟩, hconsume, h⟩ := Option.bind_eq_some_iff.1 h
  obtain ⟨-, rfl⟩ := Prod.mk.inj (Option.some.inj h)
  exact index_consume_lt hconsume

theorem index_scanSetting_lt {afterValue : Bool}
    (h : scanSetting script e kind afterValue m = some (k, m')) : m.index < m'.index := by
  obtain ⟨⟨span, m''⟩, hconsume, h⟩ := Option.bind_eq_some_iff.1 h
  have hlt := index_consume_lt hconsume
  obtain ⟨-, rfl⟩ := Prod.mk.inj (Option.some.inj h)
  exact hlt

theorem index_scanNumber_lt {first : UInt8} (h : scanNumber script first m = some (k, m')) :
    m.index < m'.index := by
  obtain ⟨⟨span, m''⟩, hconsume, h⟩ := Option.bind_eq_some_iff.1 h
  have hlt := index_consume_lt hconsume
  obtain ⟨length, -, h⟩ := Option.bind_eq_some_iff.1 h
  by_cases hdot : length = 1 ∧ first = dot
  · rw [if_pos hdot] at h
    obtain ⟨-, rfl⟩ := Prod.mk.inj (Option.some.inj h)
    exact hlt
  · rw [if_neg hdot] at h
    obtain ⟨text, -, h⟩ := Option.bind_eq_some_iff.1 h
    obtain ⟨u, -, h⟩ := Option.bind_eq_some_iff.1 h
    obtain ⟨-, rfl⟩ := Prod.mk.inj (Option.some.inj h)
    exact hlt

theorem index_scanWord_lt {first : UInt8} (h : scanWord script first m = some (k, m')) :
    m.index < m'.index := by
  obtain ⟨⟨span, m''⟩, hconsume, h⟩ := Option.bind_eq_some_iff.1 h
  have hlt := index_consume_lt hconsume
  obtain ⟨text, -, h⟩ := Option.bind_eq_some_iff.1 h
  split at h
  · obtain ⟨-, rfl⟩ := Prod.mk.inj (Option.some.inj h)
    exact hlt
  · obtain ⟨-, rfl⟩ := Prod.mk.inj (Option.some.inj h)
    exact hlt

theorem index_scanSlash_lt (h : scanSlash script m = some (k, m')) : m.index < m'.index := by
  unfold scanSlash at h
  split at h
  · split at h
    · exact index_scanPlain_lt h
    split at h
    · exact index_scanPlain_lt h
    split at h
    · exact index_scanSetting_lt h
    · exact index_scanPlain_lt (m := { m with inClass := false }) h
  · exact index_scanSetting_lt h

/-- **A token takes a byte,** whatever it is. -/
theorem index_scan_lt {first : UInt8} (h : scan script first m = some (k, m')) :
    m.index < m'.index := by
  unfold scan at h
  split at h
  · exact index_scanPlain_lt h
  split at h
  · exact index_scanPlain_lt h
  split at h
  · exact index_scanNumber_lt h
  split at h
  · exact index_scanSlash_lt h
  split at h
  · exact index_scanSetting_lt h
  split at h
  · exact index_scanWord_lt h
  split at h
  · exact index_scanPlain_lt h
  · exact index_scanSetting_lt h

end Index

/-! ### The lexer -/

/-- A script and the marks of a lexer on it. A fresh lexer has nothing to read. -/
structure InPlaceLexer where
  script : List UInt8 := []
  marks : Marks := {}
  deriving DecidableEq, Repr

/-- One token, the lexer behind it, and the report if the token is malformed. -/
structure InPlacePull where
  token : Token
  lexer : InPlaceLexer
  report : Option Malformed := none
  deriving DecidableEq, Repr

namespace InPlaceLexer

/-- The lexer at the start of a script. -/
def on (script : List UInt8) : InPlaceLexer := { script }

/-- The empty token that marks the end. -/
def pullEnd (l : InPlaceLexer) : Option InPlacePull := do
  let offset := min l.marks.index l.script.length
  let text ← slice? l.script ⟨offset, offset⟩
  return { token := ⟨.endOfInput, ⟨offset, offset⟩, text⟩, lexer := l }

/-- **The next token,** or the end mark, which leaves the lexer as it is. -/
def pull (l : InPlaceLexer) : Option InPlacePull := do
  let start := l.marks.index
  if start ≥ l.script.length || l.marks.malformed then l.pullEnd
  else
    let first ← l.script[start]?
    let (kind, m) ← scan l.script first { l.marks with opening := first, escaped := false }
    let span : Span := ⟨start, m.index⟩
    let text ← slice? l.script span
    return {
      token := ⟨kind, span, text⟩
      lexer := { l with marks := m }
      report := if m.malformed then some ⟨start, kind⟩ else none }

/-- The next tokens, at most `n` of them, and the lexer behind them. -/
def take : Nat → InPlaceLexer → Option (List Token × InPlaceLexer)
  | 0, l => some ([], l)
  | n + 1, l => do
    let p ← l.pull
    if p.token.isEnd then return ([], p.lexer)
    else
      let (tokens, last) ← p.lexer.take n
      return (p.token :: tokens, last)

/-- The number of bytes that are left. -/
def left (l : InPlaceLexer) : Nat := l.script.length - l.marks.index

/-- A token leaves fewer bytes. -/
theorem left_pull_lt {l : InPlaceLexer} {p : InPlacePull} (h : l.pull = some p)
    (hp : p.token.isEnd = false) : p.lexer.left < l.left := by
  unfold pull at h
  dsimp only at h
  split at h
  · -- there was nothing to read, and the token is the end mark
    obtain ⟨text, -, hend⟩ := Option.bind_eq_some_iff.1 h
    obtain rfl := Option.some.inj hend
    exact absurd hp (by simp [Token.isEnd])
  · next hgo =>
    obtain ⟨first, -, h⟩ := Option.bind_eq_some_iff.1 h
    obtain ⟨⟨kind, m⟩, hscan, h⟩ := Option.bind_eq_some_iff.1 h
    obtain ⟨text, -, h⟩ := Option.bind_eq_some_iff.1 h
    obtain rfl := Option.some.inj h
    have hlt : l.marks.index < m.index :=
      index_scan_lt (m := { l.marks with opening := first, escaped := false }) hscan
    have hleft : l.marks.index < l.script.length := by
      simp only [ge_iff_le, Bool.or_eq_true, decide_eq_true_eq, not_or, Nat.not_le] at hgo
      exact hgo.1
    simp only [left]
    omega

/-- All tokens that are left, up to the end mark, and the lexer behind them. -/
def drain (l : InPlaceLexer) : Option (List Token × InPlaceLexer) :=
  match _h : l.pull with
  | none => none
  | some p =>
    if _hp : p.token.isEnd then some ([], p.lexer)
    else do
      let (tokens, last) ← p.lexer.drain
      return (p.token :: tokens, last)
termination_by l.left
decreasing_by exact left_pull_lt _h (Bool.eq_false_iff.2 _hp)

theorem drain_of_isEnd {l : InPlaceLexer} {p : InPlacePull} (h : l.pull = some p)
    (hp : p.token.isEnd = true) : l.drain = some ([], p.lexer) := by
  rw [drain]
  split
  · next hn => exact absurd (h.symm.trans hn) (by simp)
  · next q hq =>
    obtain rfl : p = q := Option.some.inj (h.symm.trans hq)
    rw [dif_pos hp]

theorem drain_of_pull {l : InPlaceLexer} {p : InPlacePull} (h : l.pull = some p)
    (hp : p.token.isEnd = false) :
    l.drain = p.lexer.drain.map fun r => (p.token :: r.1, r.2) := by
  rw [drain]
  split
  · next hn => exact absurd (h.symm.trans hn) (by simp)
  · next q hq =>
    obtain rfl : p = q := Option.some.inj (h.symm.trans hq)
    rw [dif_neg (by simp [hp])]
    cases p.lexer.drain <;> rfl

/-- What is left to read, where, and in which state. -/
def view (l : InPlaceLexer) : Lexer :=
  ⟨l.script.drop l.marks.index, l.marks.index, l.marks.afterValue, l.marks.malformed⟩

end InPlaceLexer

/-- **A script in tokens,** read in place. -/
def tokenizeInPlace (script : List UInt8) : Option Tokenized := do
  let (tokens, last) ← (InPlaceLexer.on script).drain
  return ⟨tokens, last.marks.malformed⟩

end PageScan.Script
