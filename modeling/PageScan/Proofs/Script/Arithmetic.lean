import Mathlib.Data.Nat.Notation
import PageScan.Proofs.Script.Reading
import PageScan.Proofs.Script.Stopping

/-!
# Arithmetic expressions

Names, numerals, brackets, subscripts, the steps `a++` and `a--`, and the four operators between
operands: a small part of the language, in which every slash divides. The lexer should give one
operator for each of them and no regular expression. It does, unless a step is divided: the bit for
"a value may end here" looks at the last token only, and `++` is an operator like any other. In
`a++ / b` the slash begins a regular expression (`not_forall_divisions_read`).

An expression is a tree (`Expression`), and `Expression.bytes` writes it down. What the lexer does
with a part of it does not depend on where the part stands: `Covers` says that the lexer reads over
the part and meets so many divisions, and `Spoils` that it gives a regular expression sooner or
later. Each part of an expression does the one or the other, by induction on the tree
(`Expression.covers`, `Expression.spoils`). Which of them is decided by `Expression.dividesStep`
alone, which asks for a division directly behind a step.
-/

namespace PageScan.Script

namespace Arithmetic

/-! ### Expressions -/

/-- A name: letters that do not spell a reserved word. -/
structure Name where
  bytes : List UInt8
  ne_nil : bytes ≠ []
  letters : ∀ b ∈ bytes, isLetter b = true
  notReserved : Keyword.ofBytes? bytes = none

/-- A numeral without a dot. -/
structure Numeral where
  bytes : List UInt8
  ne_nil : bytes ≠ []
  digits : ∀ b ∈ bytes, isDigit b = true

/-- What stands between two operands. -/
inductive Operator where
  | add
  | subtract
  | multiply
  | divide
  deriving DecidableEq, Repr

/-- The byte of an operator. -/
def Operator.byte : Operator → UInt8
  | add => plus
  | subtract => minus
  | multiply => star
  | divide => slash

mutual

/-- **An operand:** a name, a numeral, an expression in brackets, a name with a subscript, or a name
with a step behind it. -/
inductive Operand where
  | name (x : Name)
  | numeral (n : Numeral)
  | group (e : Expression)
  | index (x : Name) (e : Expression)
  | increment (x : Name)
  | decrement (x : Name)

/-- **An expression:** operands with operators between them, grouped from the left. -/
inductive Expression where
  | operand (u : Operand)
  | binary (left : Expression) (op : Operator) (right : Operand)

end

mutual

/-- An operand as it is written. -/
def Operand.bytes : Operand → List UInt8
  | .name x => x.bytes
  | .numeral n => n.bytes
  | .group e => 0x28 :: (e.bytes ++ [0x29])
  | .index x e => x.bytes ++ openBracket :: (e.bytes ++ [closeBracket])
  | .increment x => x.bytes ++ [plus, plus]
  | .decrement x => x.bytes ++ [minus, minus]

/-- **An expression as it is written,** with a space on either side of each operator. -/
def Expression.bytes : Expression → List UInt8
  | .operand u => u.bytes
  | .binary left op right => left.bytes ++ 0x20 :: op.byte :: 0x20 :: right.bytes

end

mutual

/-- The number of divisions in an operand. -/
def Operand.divisions : Operand → ℕ
  | .group e | .index _ e => e.divisions
  | .name _ | .numeral _ | .increment _ | .decrement _ => 0

/-- **The number of divisions** in an expression. -/
def Expression.divisions : Expression → ℕ
  | .operand u => u.divisions
  | .binary left op right =>
    left.divisions + (if op = .divide then 1 else 0) + right.divisions

end

/-- Whether an operand is a step, so that its last token is `++` or `--`. -/
def Operand.isStep : Operand → Bool
  | .increment _ | .decrement _ => true
  | _ => false

/-- Whether the last operand of an expression is a step. -/
def Expression.endsInStep : Expression → Bool
  | .operand u => u.isStep
  | .binary _ _ right => right.isStep

mutual

/-- Whether a step is divided within an operand. -/
def Operand.dividesStep : Operand → Bool
  | .group e | .index _ e => e.dividesStep
  | .name _ | .numeral _ | .increment _ | .decrement _ => false

/-- **Whether a step is divided:** somewhere in the expression a division stands directly behind a
step. -/
def Expression.dividesStep : Expression → Bool
  | .operand u => u.dividesStep
  | .binary left op right =>
    left.dividesStep || (decide (op = .divide) && left.endsInStep) || right.dividesStep

end

/-! ### What the lexer is to do -/

/-- Whether a token is the operator that divides. -/
def isDivision (t : Token) : Bool := t.kind == .operator && t.text == [slash]

/-- **Divisions are read as such:** the script is accepted, none of its slashes begins a regular
expression, and `n` of its tokens divide. -/
structure ReadsDivisions (script : List UInt8) (n : ℕ) : Prop where
  accepted : (tokenize script).malformed = false
  noRegex : ∀ t ∈ (tokenize script).tokens, t.kind ≠ .regex
  count : (tokenize script).tokens.countP isDivision = n

/-- **Reading over a part of a script.** Wherever the unread bytes are `s`, and `before` says
whether a value may end there, the lexer comes to where they are `t`, and `behind` says whether a
value may end there. On the way it gives no regular expression and `n` tokens that divide. -/
def Covers (before : Bool) (s : List UInt8) (n : ℕ) (behind : Bool) (t : List UInt8) : Prop :=
  ∀ position, ∃ ts position',
    Reads ⟨s, position, before, false⟩ ts ⟨t, position', behind, false⟩ ∧
      (∀ u ∈ ts, u.kind ≠ .regex) ∧ ts.countP isDivision = n

/-- **Going wrong.** Wherever the unread bytes are `s`, and `before` says whether a value may end
there, one of the tokens to come is a regular expression. -/
def Spoils (before : Bool) (s : List UInt8) : Prop :=
  ∀ position, ∃ t ∈ (Lexer.drain ⟨s, position, before, false⟩).tokens, t.kind = .regex

section Parts

variable {before between behind : Bool} {s t u : List UInt8} {m n : ℕ}

/-- The lexer reads over one part and then over the next, and meets the divisions of both. -/
theorem Covers.trans (hs : Covers before s m between t) (ht : Covers between t n behind u) :
    Covers before s (m + n) behind u := by
  intro position
  obtain ⟨ts, position', hts, hregex, hcount⟩ := hs position
  obtain ⟨us, position'', hus, hregex', hcount'⟩ := ht position'
  -- neither part has a regular expression, and the divisions add up
  refine ⟨ts ++ us, position'', Reads.append_iff.2 ⟨_, hts, hus⟩, ?_, ?_⟩
  · intro x hx
    rcases List.mem_append.1 hx with hx | hx
    · exact hregex x hx
    · exact hregex' x hx
  · rw [List.countP_append, hcount, hcount']

/-- What goes wrong behind a part goes wrong. -/
theorem Covers.spoils (hs : Covers before s n between t) (ht : Spoils between t) :
    Spoils before s := by
  intro position
  obtain ⟨ts, position', hts, -⟩ := hs position
  obtain ⟨x, hx, hregex⟩ := ht position'
  rw [hts.tokens_drain]
  exact ⟨x, List.mem_append_right ts hx, hregex⟩

/-- A script that the lexer reads over to its end. -/
theorem Covers.readsDivisions (h : Covers false s n behind []) : ReadsDivisions s n := by
  obtain ⟨ts, position, hts, hregex, hcount⟩ := h 0
  -- at the end of the script the lexer gives nothing more
  have hend : Lexer.drain ⟨[], position, behind, false⟩ =
      ⟨[], ⟨[], position, behind, false⟩, []⟩ := Lexer.drain_of_none rfl
  have htokens : (tokenize s).tokens = ts := by
    rw [tokenize, Lexer.on, hts.tokens_drain, hend, List.append_nil]
  refine ⟨?_, ?_, ?_⟩
  · rw [tokenize, Lexer.on, hts.lexer_drain, hend]
  · rw [htokens]
    exact hregex
  · rw [htokens]
    exact hcount

theorem Spoils.not_readsDivisions (h : Spoils false s) : ¬ReadsDivisions s n := by
  rintro ⟨-, hregex, -⟩
  obtain ⟨x, hx, hkind⟩ := h 0
  exact hregex x hx hkind

/-! ### One token -/

theorem forall_head?_cons {p : UInt8 → Prop} {b : UInt8} (hb : p b) (s : List UInt8) :
    ∀ c ∈ (b :: s).head?, p c := by
  intro c hc
  rwa [← Option.some.inj hc]

theorem forall_head?_append {p : UInt8 → Prop} (hne : s ≠ []) (hs : ∀ b ∈ s, p b) :
    ∀ c ∈ (s ++ t).head?, p c := by
  obtain ⟨b, s, rfl⟩ := List.exists_cons_of_ne_nil hne
  exact forall_head?_cons (hs b List.mem_cons_self) _

/-- None of some few bytes is in a class. -/
theorem eq_false_of_mem {p : UInt8 → Bool} {bytes : List UInt8} {b : UInt8}
    (hp : bytes.any p = false) (hb : b ∈ bytes) : p b = false :=
  Bool.eq_false_iff.2 (List.any_eq_false.1 hp b hb)

/-- Reading over one token. -/
theorem covers_token {b : UInt8} {rest text : List UInt8} {kind : TokenKind}
    (h : Begins before b rest ⟨⟨text, t, true⟩, kind⟩) (hregex : kind ≠ .regex) :
    Covers before (b :: rest) (if kind = .operator ∧ text = [slash] then 1 else 0)
      (Lexeme.valueBehind ⟨⟨text, t, true⟩, kind⟩ before) t := by
  intro position
  -- the lexer is written out, so that its one step can be computed
  let l : Lexer := ⟨b :: rest, position, before, false⟩
  have hlexeme : lexeme before b rest = ⟨⟨text, t, true⟩, kind⟩ := h.lexeme_eq
  have hread : l.read b rest = ⟨⟨kind, ⟨position, position + text.length⟩, text⟩,
      ⟨t, position + text.length, Lexeme.valueBehind ⟨⟨text, t, true⟩, kind⟩ before, false⟩,
      none⟩ := by
    simp only [Lexer.read, l, hlexeme]
    rfl
  have hnext : l.next? = some (l.read b rest) := rfl
  rw [hread] at hnext
  refine ⟨_, _, .read hnext (.done _), ?_, ?_⟩
  · intro x hx
    rw [List.mem_singleton.1 hx]
    exact hregex
  · rw [List.countP_singleton]
    simp only [isDivision, Bool.and_eq_true, beq_iff_eq]

/-- Bytes that end a name go on with no letter and no digit. -/
def EndsName (t : List UInt8) : Prop := ∀ b ∈ t.head?, isWordStart b = false ∧ isDigit b = false

/-- A word takes the letters that it begins with, and stops where the name ends. -/
theorem wordTail_letters (hs : ∀ b ∈ s, isLetter b = true) (ht : EndsName t) :
    wordTail false (s ++ t) = ⟨s, t, true⟩ := by
  induction s with
  | nil => exact wordTail_of_stop ht
  | cons b s ih =>
    have hletter : isLetter b = true := hs b List.mem_cons_self
    have hb : b ≠ backslash := by
      rintro rfl
      exact absurd hletter (by decide)
    have hword : isWordStart b = true := by simp [isWordStart, hletter]
    -- a letter is no backslash, so that the word takes it
    rw [List.cons_append, wordTail, if_neg hb, hword, Bool.true_or, if_pos rfl,
      ih fun c hc => hs c (List.mem_cons_of_mem b hc)]
    rfl

/-- **Reading over a name.** It is one token, behind which a value ends. -/
theorem Name.covers (x : Name) (before : Bool) (ht : EndsName t) :
    Covers before (x.bytes ++ t) 0 true t := by
  -- the first letter chooses the rule, and the rule is then applied to the name as a whole
  obtain ⟨b, s, hbytes⟩ := List.exists_cons_of_ne_nil x.ne_nil
  have hword : Lexeme.word (x.bytes ++ t) = ⟨⟨x.bytes, t, true⟩, .identifier⟩ := by
    simp only [Lexeme.word, wordTail_letters x.letters ht, x.notReserved]
  have hletter : isLetter b = true := x.letters b (by rw [hbytes]; exact List.mem_cons_self)
  have hbegins : Begins before b (s ++ t) (Lexeme.word (b :: (s ++ t))) :=
    .word (by simp [isWordStart, hletter])
  rw [← List.cons_append, ← hbytes, hword] at hbegins
  rw [hbytes, List.cons_append]
  exact covers_token hbegins (by simp)

/-- A numeral takes the digits that it begins with, and stops where no digit and no dot follows. -/
theorem numeral_digits (hs : ∀ b ∈ s, isDigit b = true)
    (ht : ∀ b ∈ t.head?, isDigit b = false ∧ b ≠ dot) : numeral (s ++ t) = ⟨s, t, true⟩ := by
  induction s with
  | nil => exact numeral_of_stop ht
  | cons b s ih =>
    rw [List.cons_append, numeral_digit (hs b List.mem_cons_self),
      ih fun c hc => hs c (List.mem_cons_of_mem b hc)]
    rfl

/-- **Reading over a numeral.** It is one token, behind which a value ends. -/
theorem Numeral.covers (x : Numeral) (before : Bool)
    (ht : ∀ b ∈ t.head?, isDigit b = false ∧ b ≠ dot) :
    Covers before (x.bytes ++ t) 0 true t := by
  obtain ⟨b, s, hbytes⟩ := List.exists_cons_of_ne_nil x.ne_nil
  have hnumeral : numeral (x.bytes ++ t) = ⟨x.bytes, t, true⟩ := numeral_digits x.digits ht
  have hdigit : isDigit b = true := x.digits b (by rw [hbytes]; exact List.mem_cons_self)
  rw [hbytes, List.cons_append] at hnumeral ⊢
  -- a lone dot would be an operator
  have hdot : b :: s ≠ [dot] := by
    intro h
    rw [(List.cons.inj h).1] at hdigit
    exact absurd hdigit (by decide)
  have hbegins : Begins before b (s ++ t) ⟨numeral (b :: (s ++ t)), .number⟩ :=
    .number (.inl hdigit) (by rw [hnumeral]; exact hdot)
  rw [hnumeral] at hbegins
  exact covers_token hbegins (by simp)

/-- A space is a token that leaves the bit as it is. -/
theorem covers_space (before : Bool) (hs : ∀ b ∈ s.head?, isSpace b = false) :
    Covers before (0x20 :: s) 0 before s := by
  have hspace : isSpace 0x20 = true := rfl
  have hrun : Cut.run isSpace (0x20 :: s) = ⟨[0x20], s, true⟩ := by
    rw [Cut.run_cons, if_pos hspace, Cut.run_of_stop hs]
    rfl
  have hbegins : Begins before 0x20 s ⟨Cut.run isSpace (0x20 :: s), .whitespace⟩ := .whitespace rfl
  rw [hrun] at hbegins
  exact covers_token hbegins (by simp)

/-- The brackets, and the operators other than the slash. -/
def punctuation : List UInt8 := [0x28, 0x29, openBracket, closeBracket, plus, minus, star]

/-- Punctuation begins an operator, wherever it stands. -/
theorem begins_punctuator {b : UInt8} (hb : b ∈ punctuation) (before : Bool) (s : List UInt8) :
    Begins before b s (Lexeme.punctuator b s) := by
  -- these bytes are in none of the classes that come before
  refine .operator (eq_false_of_mem rfl hb) (eq_false_of_mem rfl hb) (eq_false_of_mem rfl hb) ?_ ?_
    (eq_false_of_mem rfl hb) (eq_false_of_mem rfl hb) ?_
  · rintro rfl
    exact absurd hb (by decide)
  · rintro rfl
    exact absurd hb (by decide)
  · rintro ⟨r, hr⟩
    obtain rfl : 0x3C = b := (List.cons.inj hr).1
    exact absurd hb (by decide)

/-- A byte of punctuation that makes no pair with the next byte. -/
theorem covers_alone {b : UInt8} (hb : b ∈ punctuation)
    (hs : ∀ c ∈ s.head?, isOperatorPair b c = false) (before : Bool) :
    Covers before (b :: s) 0 (isClosing b) s := by
  have hslash : b ≠ slash := by
    rintro rfl
    exact absurd hb (by decide)
  have hbegins := begins_punctuator hb before s
  rw [Lexeme.punctuator, operatorTail_of_stop hs] at hbegins
  simpa [hslash, Lexeme.valueBehind, TokenKind.isTrivia, TokenKind.endsValue] using
    covers_token hbegins (by simp)

/-- No value ends behind an opening bracket. -/
theorem covers_opening {b : UInt8} (hb : b = 0x28 ∨ b = openBracket) (before : Bool)
    (s : List UInt8) : Covers before (b :: s) 0 false s := by
  rcases hb with rfl | rfl
  · exact covers_alone (by decide) (fun _ _ => rfl) before
  · exact covers_alone (by decide) (fun _ _ => rfl) before

/-- A value ends behind a closing bracket. -/
theorem covers_closing {b : UInt8} (hb : b = 0x29 ∨ b = closeBracket) (before : Bool)
    (s : List UInt8) : Covers before (b :: s) 0 true s := by
  rcases hb with rfl | rfl
  · exact covers_alone (by decide) (fun _ _ => rfl) before
  · exact covers_alone (by decide) (fun _ _ => rfl) before

/-- The pair of a step. It leaves no value behind it, although a step is one. -/
theorem covers_pair {b : UInt8} (hb : b = plus ∨ b = minus) (before : Bool) (s : List UInt8) :
    Covers before (b :: b :: s) 0 false s := by
  -- the next byte is the same one again, and the two make one operator
  have hpair (hmem : b ∈ punctuation) (hb : isOperatorPair b b = true)
      (hclosing : isClosing b = false) : Covers before (b :: b :: s) 0 false s := by
    have hbegins := begins_punctuator hmem before (b :: s)
    rw [Lexeme.punctuator, operatorTail, if_pos hb] at hbegins
    simpa [hclosing, Lexeme.valueBehind, TokenKind.isTrivia, TokenKind.endsValue] using
      covers_token hbegins (by simp)
  rcases hb with rfl | rfl
  · exact hpair (by decide) rfl rfl
  · exact hpair (by decide) rfl rfl

/-- An operator before a space, which is a slash only where a value may end. -/
theorem covers_operator (op : Operator) (hop : op = .divide → before = true) (s : List UInt8) :
    Covers before (op.byte :: 0x20 :: s) (if op = .divide then 1 else 0) false (0x20 :: s) := by
  -- the space keeps the operator from making a pair
  have hpair : isOperatorPair op.byte 0x20 = false := by
    cases op <;> rfl
  have halone : ∀ c ∈ (0x20 :: s).head?, isOperatorPair op.byte c = false :=
    forall_head?_cons hpair s
  cases op with
  | add => exact covers_alone (by decide) halone before
  | subtract => exact covers_alone (by decide) halone before
  | multiply => exact covers_alone (by decide) halone before
  | divide =>
    have hbegins : Begins before slash (0x20 :: s) (Lexeme.punctuator slash (0x20 :: s)) :=
      .division (by decide) (by decide) (hop rfl)
    exact covers_token hbegins (by simp)

/-- Where no value ends a slash begins a regular expression. -/
theorem spoils_slash (s : List UInt8) : Spoils false (slash :: 0x20 :: s) := by
  intro position
  let l : Lexer := ⟨slash :: 0x20 :: s, position, false, false⟩
  have hnext : l.next? = some (l.read slash (0x20 :: s)) := rfl
  rw [Lexer.drain_of_some hnext, Run.tokens_cons]
  exact ⟨_, List.mem_cons_self, rfl⟩

end Parts

/-! ### Whole expressions -/

section Trees

variable {s t : List UInt8}

/-- **What may follow an expression:** a space, a closing bracket, or the end of the script. -/
def Follows (t : List UInt8) : Prop := ∀ b ∈ t.head?, b ∈ [(0x20 : UInt8), 0x29, closeBracket]

theorem Follows.endsName (h : Follows t) : EndsName t := by
  intro b hb
  exact ⟨eq_false_of_mem rfl (h b hb), eq_false_of_mem rfl (h b hb)⟩

theorem Follows.endsNumeral (h : Follows t) : ∀ b ∈ t.head?, isDigit b = false ∧ b ≠ dot := by
  intro b hb
  refine ⟨eq_false_of_mem rfl (h b hb), ?_⟩
  rintro rfl
  exact absurd (h dot hb) (by decide)

/-- No operand begins with a space. -/
theorem Operand.isSpace_head? (u : Operand) (t : List UInt8) :
    ∀ b ∈ (u.bytes ++ t).head?, isSpace b = false := by
  -- an operand begins with a letter, a digit or a bracket
  have hname (x : Name) (t : List UInt8) : ∀ b ∈ (x.bytes ++ t).head?, isSpace b = false :=
    forall_head?_append x.ne_nil fun b hb => eq_false_of_apart isSpace_iff rfl (x.letters b hb)
  cases u with
  | name x => exact hname x t
  | numeral n =>
    exact forall_head?_append n.ne_nil fun b hb => eq_false_of_apart isSpace_iff rfl (n.digits b hb)
  | group e => exact forall_head?_cons (p := (isSpace · = false)) rfl _
  | index x e =>
    rw [Operand.bytes, List.append_assoc]
    exact hname x _
  | increment x =>
    rw [Operand.bytes, List.append_assoc]
    exact hname x _
  | decrement x =>
    rw [Operand.bytes, List.append_assoc]
    exact hname x _

theorem Operator.isSpace_byte (op : Operator) : isSpace op.byte = false := by
  cases op <;> rfl

/-- From behind an operand to the next one. -/
theorem covers_toNext {before : Bool} (op : Operator) (hop : op = .divide → before = true)
    (hs : ∀ b ∈ s.head?, isSpace b = false) :
    Covers before (0x20 :: op.byte :: 0x20 :: s) (if op = .divide then 1 else 0) false s := by
  have hspace : Covers before (0x20 :: op.byte :: 0x20 :: s) 0 before (op.byte :: 0x20 :: s) :=
    covers_space before (forall_head?_cons op.isSpace_byte _)
  simpa using hspace.trans ((covers_operator op hop s).trans (covers_space false hs))

/-- An opening bracket before a part, and a closing one behind it. -/
theorem Covers.bracketed {n : ℕ} {behind : Bool} {opening closing : UInt8}
    (hs : Covers false (s ++ closing :: t) n behind (closing :: t))
    (hopening : opening = 0x28 ∨ opening = openBracket)
    (hclosing : closing = 0x29 ∨ closing = closeBracket) (before : Bool) :
    Covers before (opening :: (s ++ closing :: t)) n true t := by
  have hc : Covers behind (closing :: t) 0 true t := covers_closing hclosing behind t
  simpa using (covers_opening hopening before _).trans (hs.trans hc)

/-- The name before a subscript. -/
theorem Name.covers_subscript (x : Name) (before : Bool) (s : List UInt8) :
    Covers before (x.bytes ++ openBracket :: s) 0 true (openBracket :: s) :=
  x.covers before (forall_head?_cons (by decide) s)

/-- A name with a step behind it. -/
theorem Name.covers_step (x : Name) {b : UInt8} (hb : b = plus ∨ b = minus) (before : Bool)
    (t : List UInt8) : Covers before (x.bytes ++ [b, b] ++ t) 0 false t := by
  have hends : isWordStart b = false ∧ isDigit b = false := by
    rcases hb with rfl | rfl
    · decide
    · decide
  have hname : Covers before (x.bytes ++ b :: b :: t) 0 true (b :: b :: t) :=
    x.covers before (forall_head?_cons hends _)
  rw [List.append_assoc]
  exact hname.trans (covers_pair hb true t)

-- Operands and expressions contain each other, so that the induction goes over both at once. What
-- is carried through it is whether a value may end behind the part.
mutual

/-- The lexer reads over an operand in which no step is divided. A value ends behind it unless it is
a step. -/
theorem Operand.covers (u : Operand) (hu : u.dividesStep = false) (before : Bool)
    {t : List UInt8} (ht : Follows t) :
    Covers before (u.bytes ++ t) u.divisions (!u.isStep) t := by
  cases u with
  | name x => exact x.covers before ht.endsName
  | numeral n => exact n.covers before ht.endsNumeral
  | group e =>
    have hinner : Covers false (e.bytes ++ 0x29 :: t) e.divisions (!e.endsInStep) (0x29 :: t) :=
      e.covers hu false (forall_head?_cons (by decide) t)
    rw [Operand.bytes, List.cons_append, List.append_assoc]
    exact hinner.bracketed (.inl rfl) (.inl rfl) before
  | index x e =>
    have hinner : Covers false (e.bytes ++ closeBracket :: t) e.divisions (!e.endsInStep)
        (closeBracket :: t) := e.covers hu false (forall_head?_cons (by decide) t)
    -- the bracket of a subscript stands behind a value, and begins anew for what it holds
    have hsubscript : Covers true (openBracket :: (e.bytes ++ closeBracket :: t)) e.divisions true
        t := hinner.bracketed (.inr rfl) (.inr rfl) true
    have hindex := (x.covers_subscript before _).trans hsubscript
    rw [Nat.zero_add] at hindex
    rw [Operand.bytes, List.append_assoc, List.cons_append, List.append_assoc]
    exact hindex
  | increment x => exact x.covers_step (.inl rfl) before t
  | decrement x => exact x.covers_step (.inr rfl) before t

/-- **The lexer reads over an expression** in which no step is divided, and meets its divisions. -/
theorem Expression.covers (e : Expression) (he : e.dividesStep = false) (before : Bool)
    {t : List UInt8} (ht : Follows t) :
    Covers before (e.bytes ++ t) e.divisions (!e.endsInStep) t := by
  cases e with
  | operand u => exact u.covers he before ht
  | binary left op right =>
    simp only [Expression.dividesStep, Bool.or_eq_false_iff] at he
    obtain ⟨⟨hleft, hstep⟩, hright⟩ := he
    -- a value ends before the operator if that is a slash
    have hop : op = .divide → (!left.endsInStep) = true := by
      rintro rfl
      simpa using hstep
    have hspace : Follows (0x20 :: op.byte :: 0x20 :: (right.bytes ++ t)) :=
      forall_head?_cons (by decide) _
    have hl := left.covers hleft before hspace
    have ho := covers_toNext op hop (right.isSpace_head? t)
    have hr := right.covers hright false ht
    rw [Expression.bytes, List.append_assoc]
    exact (hl.trans ho).trans hr

end

mutual

/-- A step that is divided within an operand makes a regular expression. -/
theorem Operand.spoils (u : Operand) (hu : u.dividesStep = true) (before : Bool)
    (t : List UInt8) : Spoils before (u.bytes ++ t) := by
  cases u with
  | name x => exact absurd hu Bool.false_ne_true
  | numeral n => exact absurd hu Bool.false_ne_true
  | increment x => exact absurd hu Bool.false_ne_true
  | decrement x => exact absurd hu Bool.false_ne_true
  | group e =>
    rw [Operand.bytes, List.cons_append, List.append_assoc]
    exact (covers_opening (.inl rfl) before _).spoils (e.spoils hu false _)
  | index x e =>
    have hopen := covers_opening (.inr rfl) true (e.bytes ++ closeBracket :: t)
    rw [Operand.bytes, List.append_assoc, List.cons_append, List.append_assoc]
    -- the name before the bracket is read as ever, and what goes wrong comes behind it
    exact (x.covers_subscript before _).spoils (hopen.spoils (e.spoils hu false _))

/-- **A step that is divided makes a regular expression.** -/
theorem Expression.spoils (e : Expression) (he : e.dividesStep = true) (before : Bool)
    (t : List UInt8) : Spoils before (e.bytes ++ t) := by
  cases e with
  | operand u => exact u.spoils he before t
  | binary left op right =>
    rw [Expression.bytes, List.append_assoc]
    -- what goes wrong first is what counts: the left operand, then the operator, then the right one
    cases hleft : left.dividesStep with
    | true => exact left.spoils hleft before _
    | false =>
      have hspace : Follows (0x20 :: op.byte :: 0x20 :: (right.bytes ++ t)) :=
        forall_head?_cons (by decide) _
      refine (left.covers hleft before hspace).spoils ?_
      by_cases hstep : op = .divide ∧ left.endsInStep = true
      · -- the slash comes where no value ends
        obtain ⟨rfl, hends⟩ := hstep
        have hslash : Covers false (0x20 :: slash :: 0x20 :: (right.bytes ++ t)) 0 false
            (slash :: 0x20 :: (right.bytes ++ t)) :=
          covers_space false (forall_head?_cons (by decide) _)
        rw [hends]
        exact hslash.spoils (spoils_slash _)
      · -- so the step is divided in the right operand
        have hop : op = .divide → (!left.endsInStep) = true := by
          intro hdivide
          simpa [hdivide] using hstep
        have hright : right.dividesStep = true := by
          simpa [Expression.dividesStep, hleft, hstep] using he
        exact (covers_toNext op hop (right.isSpace_head? t)).spoils (right.spoils hright false t)

end

end Trees

/-- **Divisions behind steps.** An expression is accepted, without a regular expression and with a
token for each of its divisions, if and only if none of them stands directly behind a step. -/
theorem divisions_read_iff (e : Expression) :
    ReadsDivisions e.bytes e.divisions ↔ e.dividesStep = false := by
  constructor
  · intro hreads
    cases hstep : e.dividesStep with
    | false => rfl
    | true =>
      have hspoils := e.spoils hstep false []
      rw [List.append_nil] at hspoils
      exact absurd hreads hspoils.not_readsDivisions
  · intro hstep
    have hcovers := e.covers hstep false (t := []) (fun b hb => absurd hb (Option.not_mem_none b))
    rw [List.append_nil] at hcovers
    exact hcovers.readsDivisions

/-- In `a++ / b` the slash is not read as a division. -/
theorem not_forall_divisions_read : ¬∀ e : Expression, ReadsDivisions e.bytes e.divisions := by
  intro h
  let a : Name := ⟨[0x61], by simp, List.forall_mem_singleton.2 rfl, by decide +kernel⟩
  let b : Name := ⟨[0x62], by simp, List.forall_mem_singleton.2 rfl, by decide +kernel⟩
  have hreads := h (.binary (.operand (.increment a)) .divide (.name b))
  have hmalformed : (tokenize [0x61, 0x2B, 0x2B, 0x20, 0x2F, 0x20, 0x62]).malformed = true := by
    decide +kernel
  exact absurd (hreads.accepted.symm.trans hmalformed) Bool.false_ne_true

end Arithmetic

end PageScan.Script
