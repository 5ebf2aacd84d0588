import PageScan.Proofs.Script.Beginning
import PageScan.Proofs.Script.InPlaceReading
import PageScan.Proofs.Script.Stopping

/-!
# Division or regular expression

A slash that begins no comment divides when the text before it may end a value, and begins a regular
expression otherwise. The lexer keeps one bit about that text and changes it, or leaves it alone, at
each token. What the bit says is a fact about the tokens read so far (`EndsInValue`): there is a
token among them that is no whitespace, line separator or comment, and the last such token ends a
value.

The invariant is `Reads.afterValue_iff`. It speaks of runs from any lexer, so that it goes by
induction on the run: the last significant token decides, and only where there is none does the bit
that the run began with show through. `slash_disambiguation` reads off what each slash is.

The lexer in place writes the bit in each of its scans, or forgets to, so the invariant is said of
it as well: wherever it stops between two tokens, the bit among its marks is that of the lexer which
it shows (`InPlaceLexer.take_view`).
-/

namespace PageScan.Script

/-- A token that ends a value: an identifier, a numeral, a string, one of the four value keywords,
or a closing bracket. -/
def Token.EndsValue (t : Token) : Prop :=
  t.kind = .identifier ∨ t.kind = .number ∨ t.kind = .string ∨
    t.kind ∈ [TokenKind.keyword .thisKw, .keyword .trueKw, .keyword .falseKw, .keyword .nullKw] ∨
    t.kind = .operator ∧ t.text ∈ [[0x29], [0x5D], [0x7D]]

/-- The last token that carries meaning. -/
def lastSignificant? (ts : List Token) : Option Token :=
  (ts.filter (·.isSignificant)).getLast?

/-- **Tokens that end in a value:** one of them carries meaning, and the last such ends a value. -/
def EndsInValue (ts : List Token) : Prop := ∃ t, lastSignificant? ts = some t ∧ t.EndsValue

/-! ### The last significant token -/

@[simp] theorem lastSignificant?_nil : lastSignificant? [] = none := rfl

theorem lastSignificant?_cons_of_trivia {t : Token} {ts : List Token} (h : t.kind.isTrivia = true) :
    lastSignificant? (t :: ts) = lastSignificant? ts := by
  rw [lastSignificant?, List.filter_cons_of_neg (by simp [Token.isSignificant, h]),
    lastSignificant?]

/-- A significant token in front is the last one only if there is no other. -/
theorem lastSignificant?_cons_of_significant {t : Token} {ts : List Token}
    (h : t.kind.isTrivia = false) :
    lastSignificant? (t :: ts) = some ((lastSignificant? ts).getD t) := by
  rw [lastSignificant?, List.filter_cons_of_pos (by simp [Token.isSignificant, h]),
    List.getLast?_cons, lastSignificant?]

/-! ### What one token makes of the bit -/

/-- An operator that begins with a closing bracket is that bracket alone. -/
theorem punctuator_closing_iff (b : UInt8) (rest : List UInt8) :
    (Lexeme.punctuator b rest).text.head?.any isClosing = true ↔
      (Lexeme.punctuator b rest).text ∈ [[0x29], [0x5D], [0x7D]] := by
  constructor
  · intro h
    have hclosing : b = 0x29 ∨ b = 0x5D ∨ b = 0x7D := by
      simpa [Lexeme.punctuator, isClosing, closeBracket, or_assoc] using h
    -- no pair begins with a closing bracket
    have hsingle : (operatorTail b rest).text = [] := by
      rw [operatorTail_alone]
      rcases hclosing with rfl | rfl | rfl <;> decide
    rcases hclosing with rfl | rfl | rfl <;> simp [Lexeme.punctuator, hsingle]
  · intro h
    simp only [List.mem_cons, List.not_mem_nil, or_false] at h
    rcases h with h | h | h <;> rw [h] <;> rfl

/-- **What a token makes of the bit** is whether it ends a value, unless it is trivia. -/
theorem endsValue_lexeme_iff (afterValue : Bool) (b : UInt8) (rest : List UInt8) (span : Span) :
    (lexeme afterValue b rest).kind.endsValue (lexeme afterValue b rest).text = true ↔
      Token.EndsValue ⟨(lexeme afterValue b rest).kind, span, (lexeme afterValue b rest).text⟩ := by
  have hbegins := begins_lexeme afterValue b rest
  generalize lexeme afterValue b rest = x at hbegins ⊢
  cases hbegins with
  | whitespace | lineSeparator | number | lineComment | blockComment | regex | string | markup =>
    simp [TokenKind.endsValue, Token.EndsValue, Lexeme.quoted]
  | loneDot => simp [TokenKind.endsValue, Token.EndsValue, isClosing, dot, closeBracket]
  | lastSlash | division | operator =>
    simpa [TokenKind.endsValue, Token.EndsValue, Lexeme.punctuator] using
      punctuator_closing_iff _ _
  | word =>
    cases hk : Keyword.ofBytes? (wordTail false (b :: rest)).text with
    | none => simp [Lexeme.word, hk, TokenKind.endsValue, Token.EndsValue]
    | some k =>
      -- four of the keywords are values
      cases k <;> simp [Lexeme.word, hk, TokenKind.endsValue, Token.EndsValue, Keyword.isValue]

/-! ### The bit and the history -/

/-- **The bit is a fact about the tokens.** Behind a run the last significant token of the run tells
whether a value may end; without such a token it is as before the run. -/
theorem Reads.afterValue_iff {l l' : Lexer} {ts : List Token} (h : Reads l ts l') :
    l'.afterValue = true ↔
      match lastSignificant? ts with
      | some t => t.EndsValue
      | none => l.afterValue = true := by
  induction h with
  | done l => simp
  | @read l l' p ts hnext _ ih =>
    obtain ⟨b, rest, -, -, rfl⟩ := Lexer.next?_eq_some_iff.1 hnext
    rw [ih]
    cases htrivia : (lexeme l.afterValue b rest).kind.isTrivia with
    | true =>
      rw [lastSignificant?_cons_of_trivia (t := (l.read b rest).token) htrivia,
        Lexer.afterValue_read, Lexeme.valueBehind, if_pos htrivia]
    | false =>
      rw [lastSignificant?_cons_of_significant (t := (l.read b rest).token) htrivia]
      -- a later significant token decides; without one it is this token
      cases lastSignificant? ts with
      | some u => rfl
      | none =>
        simp only [Option.getD_none, Lexer.afterValue_read, Lexeme.valueBehind, htrivia,
          Bool.false_eq_true, if_false]
        exact endsValue_lexeme_iff l.afterValue b rest _

/-- From the start of a script on, the bit says whether the tokens read end in a value. -/
theorem Reads.afterValue_iff_endsInValue {script : List UInt8} {l : Lexer} {ts : List Token}
    (h : Reads (Lexer.on script) ts l) : l.afterValue = true ↔ EndsInValue ts := by
  rw [h.afterValue_iff, EndsInValue]
  cases lastSignificant? ts with
  | some t => simp
  | none => simp [Lexer.on]

/-! ### What a slash begins -/

/-- A slash opens a comment when another slash or a star is the next byte. -/
def OpensComment (next : Option UInt8) : Prop := next = some slash ∨ next = some star

/-- A slash divides when it is the last byte, or opens no comment and has a value before it. -/
def Divides (next : Option UInt8) (valueBefore : Prop) : Prop :=
  next = none ∨ ¬OpensComment next ∧ valueBefore

/-- Only a slash begins a regular expression. -/
theorem eq_slash_of_regex {afterValue : Bool} {b : UInt8} {rest : List UInt8}
    (h : (lexeme afterValue b rest).kind = .regex) : b = slash := by
  have hbegins := begins_lexeme afterValue b rest
  generalize lexeme afterValue b rest = x at hbegins h
  cases hbegins with
  | lineComment | blockComment | lastSlash | division | regex => rfl
  | whitespace | lineSeparator | number | loneDot | string | markup | operator =>
    exact absurd h (by simp [Lexeme.quoted, Lexeme.punctuator])
  | word =>
    unfold Lexeme.word at h
    dsimp only at h
    split at h <;> exact absurd h (by simp)

/-- What a slash begins, by the byte behind it and the bit. -/
theorem slash_lexeme_iff (afterValue : Bool) (rest : List UInt8) :
    ((lexeme afterValue slash rest).kind = .comment ↔ OpensComment rest.head?) ∧
      ((lexeme afterValue slash rest).kind = .operator ↔
        Divides rest.head? (afterValue = true)) ∧
      ((lexeme afterValue slash rest).kind = .regex ↔
        ¬OpensComment rest.head? ∧ ¬Divides rest.head? (afterValue = true)) := by
  have hbegins := begins_lexeme afterValue slash rest
  generalize lexeme afterValue slash rest = x at hbegins ⊢
  cases hbegins with
  -- a slash is in none of the other classes of first bytes
  | whitespace hb | lineSeparator hb | string hb | word hb => exact absurd hb (by decide)
  | number hb _ => exact absurd hb (by decide)
  | markup hm => exact absurd hm (by simp [markupOpening, slash])
  | operator _ _ _ _ hsl => exact absurd rfl hsl
  | lineComment => simp [OpensComment, Divides]
  | blockComment => simp [OpensComment, Divides]
  | lastSlash => simp [OpensComment, Divides, Lexeme.punctuator]
  | division hb hs hv => simp [OpensComment, Divides, Lexeme.punctuator, hb, hs, hv]
  | regex hb hs hv => simp [OpensComment, Divides, hb, hs, hv]

theorem getElem?_succ_of_unread {script rest : List UInt8} {b : UInt8} {l : Lexer}
    {ts : List Token} (h : Reads (Lexer.on script) ts l) (hu : l.unread = b :: rest) :
    script[l.position + 1]? = rest.head? := by
  -- the unread bytes are those of the script from the position on
  rw [h.unread_eq_drop] at hu
  rw [← List.head?_drop, ← List.tail_drop, hu, List.tail_cons]

/-- The lexer in place takes the first tokens of a script, and its bit says whether they end in a
value. -/
theorem InPlaceLexer.exists_take (script : List UInt8) (n : Nat) :
    ∃ l, (InPlaceLexer.on script).take n = some ((tokenize script).tokens.take n, l) ∧
      (l.marks.afterValue = true ↔ EndsInValue ((tokenize script).tokens.take n)) := by
  obtain ⟨l, htake, hview⟩ := take_view (l := InPlaceLexer.on script) (Nat.zero_le _) n
  have hon : (InPlaceLexer.on script).view = Lexer.on script := rfl
  have htokens : ((Lexer.on script).take n).tokens = (tokenize script).tokens.take n :=
    (Lexer.on script).tokens_take n
  rw [hon, htokens] at htake
  have hbit : l.marks.afterValue = ((Lexer.on script).take n).lexer.afterValue := by
    rw [← hon, ← hview]
    rfl
  refine ⟨l, htake, ?_⟩
  rw [hbit, ← htokens]
  exact ((Lexer.on script).reads_take n).afterValue_iff_endsInValue

/-- **What each slash of a script is.** Wherever the lexer stops between two tokens, its bit says
whether the tokens so far end in a value, also when the script is read in place. A token that begins
with a slash is a comment when the slash opens one; it is an operator when the slash divides, with
the tokens before it for the value; otherwise it is a regular expression, and no other token is
one. -/
theorem slash_disambiguation (script : List UInt8) :
    (∀ n, ((Lexer.on script).take n).lexer.afterValue = true ↔
      EndsInValue ((Lexer.on script).take n).tokens) ∧
    (∀ n, ∃ l, (InPlaceLexer.on script).take n = some ((tokenize script).tokens.take n, l) ∧
      (l.marks.afterValue = true ↔ EndsInValue ((tokenize script).tokens.take n))) ∧
    tokenizeInPlace script = some (tokenize script) ∧
    ∀ before t behind, (tokenize script).tokens = before ++ t :: behind →
      (t.kind = .regex → t.text.head? = some slash) ∧
      (t.text.head? = some slash →
        (t.kind = .comment ↔ OpensComment script[t.span.start + 1]?) ∧
        (t.kind = .operator ↔ Divides script[t.span.start + 1]? (EndsInValue before)) ∧
        (t.kind = .regex ↔ ¬OpensComment script[t.span.start + 1]? ∧
          ¬Divides script[t.span.start + 1]? (EndsInValue before))) := by
  refine ⟨fun n => ((Lexer.on script).reads_take n).afterValue_iff_endsInValue,
    InPlaceLexer.exists_take script, tokenizeInPlace_eq script, ?_⟩
  intro before t behind htokens
  obtain ⟨l, b, rest, hbefore, hu, -, rfl, -⟩ := exists_site htokens
  -- the token was read where its first byte was the first unread one
  have hhead : (l.read b rest).token.text.head? = some b := head?_text_lexeme l.afterValue b rest
  refine ⟨?_, ?_⟩
  · intro hregex
    rw [hhead, eq_slash_of_regex hregex]
  · intro hslash
    obtain rfl : b = slash := Option.some.inj (hhead.symm.trans hslash)
    rw [Lexer.start_read, getElem?_succ_of_unread hbefore hu, Lexer.kind_read,
      ← hbefore.afterValue_iff_endsInValue]
    exact slash_lexeme_iff l.afterValue rest

/-- In `a)/2` the slash divides, for the bracket ends a value. -/
theorem slash_behind_bracket :
    (tokenize [0x61, 0x29, 0x2F, 0x32]).tokens =
        [⟨.identifier, ⟨0, 1⟩, [0x61]⟩, ⟨.operator, ⟨1, 2⟩, [0x29]⟩] ++
          ⟨.operator, ⟨2, 3⟩, [0x2F]⟩ :: [⟨.number, ⟨3, 4⟩, [0x32]⟩] ∧
      Divides (some 0x32)
        (EndsInValue [⟨.identifier, ⟨0, 1⟩, [0x61]⟩, ⟨.operator, ⟨1, 2⟩, [0x29]⟩]) := by
  have htokens : (tokenize [0x61, 0x29, 0x2F, 0x32]).tokens =
      [⟨.identifier, ⟨0, 1⟩, [0x61]⟩, ⟨.operator, ⟨1, 2⟩, [0x29]⟩] ++
        ⟨.operator, ⟨2, 3⟩, [0x2F]⟩ :: [⟨.number, ⟨3, 4⟩, [0x32]⟩] := by decide +kernel
  obtain ⟨-, -, -, hslashes⟩ := slash_disambiguation [0x61, 0x29, 0x2F, 0x32]
  exact ⟨htokens, ((hslashes _ _ _ htokens).2 rfl).2.1.1 rfl⟩

end PageScan.Script
