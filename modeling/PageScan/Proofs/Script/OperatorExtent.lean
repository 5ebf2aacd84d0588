import Mathlib.Data.Nat.Init
import PageScan.Proofs.Script.Site

/-!
# How far operators reach

An operator is one byte or one of six pairs, and the lexer takes the pair where there is one. It
finds operators in three ways: a dot that begins no numeral, a slash that divides, and any byte with
which nothing else begins. Whichever it is, the byte behind an operator of one byte is one that ends
it (`Lexeme.EndsBefore`), and from this it follows what such an operator is never followed by
(`Token.Munched`).

No operator has three bytes. So a run of plus signs falls into pairs from the left, with one sign
left over if their number is odd, and the same goes for minus signs. Two signs are one step of the
lexer, and the induction goes by two (`Lexer.reads_signs`).

The statement is `operator_munch`.
-/

namespace PageScan.Script

/-! ### One operator -/

/-- The operators of two bytes: `++`, `--`, `+=`, `-=`, `*=` and `/=`. -/
def operatorPairs : List (List UInt8) :=
  [[0x2B, 0x2B], [0x2D, 0x2D], [0x2B, 0x3D], [0x2D, 0x3D], [0x2A, 0x3D], [0x2F, 0x3D]]

theorem mem_operatorPairs_iff {a b : UInt8} :
    [a, b] ∈ operatorPairs ↔ isOperatorPair a b = true := by
  simp only [operatorPairs, isOperatorPair, List.mem_cons, List.not_mem_nil, List.cons.injEq,
    Bool.or_eq_true, Bool.and_eq_true, beq_iff_eq, or_false, and_true]
  constructor
  · rintro (⟨rfl, rfl⟩ | ⟨rfl, rfl⟩ | ⟨rfl, rfl⟩ | ⟨rfl, rfl⟩ | ⟨rfl, rfl⟩ | ⟨rfl, rfl⟩) <;> simp
  · rintro (⟨rfl | rfl, rfl⟩ | ⟨((rfl | rfl) | rfl) | rfl, rfl⟩) <;> simp

/-- Behind its first byte an operator has nothing, or the second byte of a pair. -/
theorem text_operatorTail (first : UInt8) (s : List UInt8) :
    (operatorTail first s).text = [] ∨
      ∃ b, (operatorTail first s).text = [b] ∧ isOperatorPair first b = true := by
  cases s with
  | nil => exact .inl rfl
  | cons b s =>
    rw [operatorTail]
    split
    · next hpair => exact .inr ⟨b, rfl, hpair⟩
    · exact .inl rfl

theorem text_punctuator (first : UInt8) (s : List UInt8) :
    (Lexeme.punctuator first s).text = [first] ∨
      (Lexeme.punctuator first s).text ∈ operatorPairs := by
  rcases text_operatorTail first s with hnil | ⟨b, hb, hpair⟩
  · left
    rw [Lexeme.punctuator, Cut.text_cons, hnil]
  · right
    rw [Lexeme.punctuator, Cut.text_cons, hb]
    exact mem_operatorPairs_iff.2 hpair

/-- However the lexer came to an operator, it is its first byte or a pair. -/
theorem text_of_operator {afterValue : Bool} {b : UInt8} {rest : List UInt8}
    (h : (lexeme afterValue b rest).kind = .operator) :
    (lexeme afterValue b rest).text = [b] ∨
      (lexeme afterValue b rest).text ∈ operatorPairs := by
  have hbegins := begins_lexeme afterValue b rest
  -- four of the ways to begin lead to an operator, and the others to another kind
  generalize lexeme afterValue b rest = x at hbegins h ⊢
  cases hbegins with
  | loneDot => exact .inl rfl
  | lastSlash => exact .inl rfl
  | division => exact text_punctuator slash _
  | operator => exact text_punctuator b rest
  | whitespace | lineSeparator | number | lineComment | blockComment | regex | string | markup =>
    exact TokenKind.noConfusion h
  | word => exact absurd h (kind_word_ne rfl (b :: rest))

/-- **An operator is as long as it can be.** It is one byte or a pair. When it is one byte, the next
byte of the script makes no pair with it, a `<` does not open a markup comment, and a dot is not
followed by a digit. -/
structure Token.Munched (script : List UInt8) (t : Token) : Prop where
  text : (∃ b, t.text = [b]) ∨ t.text ∈ operatorPairs
  pair : ∀ b c, t.text = [b] → script[t.span.stop]? = some c → [b, c] ∉ operatorPairs
  markup : t.text = [0x3C] → ¬[0x21, 0x2D, 0x2D] <+: script.drop t.span.stop
  numeral : t.text = [dot] → ∀ c, script[t.span.stop]? = some c → isDigit c = false

/-- **An operator where it stands** is as long as it can be. -/
theorem Site.munched {script : List UInt8} {t : Token} {afterValue : Bool} {b : UInt8}
    {rest : List UInt8} (h : Site script t afterValue b rest) (hkind : t.kind = .operator) :
    t.Munched script := by
  have hends := h.endsBefore
  rw [hkind] at hends
  -- the byte behind an operator of one byte ends it, as every token ends before what follows it
  have hstop {first c : UInt8} (htext : t.text = [first])
      (hc : script[t.span.stop]? = some c) : OperatorStop first c := by
    apply (hends first htext).2 c
    rw [List.head?_drop]
    exact hc
  constructor
  · rw [h.kind] at hkind
    rw [h.text]
    exact (text_of_operator hkind).imp_left fun htext => ⟨b, htext⟩
  · intro first c htext hc
    rw [mem_operatorPairs_iff, (hstop htext hc).pair]
    exact Bool.false_ne_true
  · intro htext hmarkup
    exact (hends 0x3C htext).1 ((List.prefix_cons_inj 0x3C).2 hmarkup)
  · intro htext c hc
    exact (hstop htext hc).numeral rfl

/-! ### Runs of signs -/

section Signs

variable {b : UInt8} {rest : List UInt8}

/-- A sign begins an operator whether or not a value ends before it. -/
theorem lexeme_sign (hb : b = plus ∨ b = minus) (afterValue : Bool) (s : List UInt8) :
    lexeme afterValue b s = Lexeme.punctuator b s := by
  rcases hb with rfl | rfl
  · rfl
  · rfl

/-- A sign that no sign and no equals sign follows stands alone. -/
theorem lexeme_sign_alone (hb : b = plus ∨ b = minus) (afterValue : Bool)
    (hrest : ∀ c ∈ rest.head?, c ≠ b ∧ c ≠ equals) :
    lexeme afterValue b rest = ⟨⟨[b], rest, true⟩, .operator⟩ := by
  have hstop : ∀ c ∈ rest.head?, isOperatorPair b c = false := by
    intro c hc
    obtain ⟨hsign, hequals⟩ := hrest c hc
    simp [isOperatorPair, hsign, hequals]
  rw [lexeme_sign hb, Lexeme.punctuator, operatorTail_of_stop hstop]
  rfl

/-- A sign that the same sign follows makes a pair with it. -/
theorem lexeme_sign_pair (hb : b = plus ∨ b = minus) (afterValue : Bool) (s : List UInt8) :
    lexeme afterValue b (b :: s) = ⟨⟨[b, b], s, true⟩, .operator⟩ := by
  rw [lexeme_sign hb]
  rcases hb with rfl | rfl
  · rfl
  · rfl

/-- **A run of signs** is read in pairs, with one sign behind them if their number is odd. -/
theorem Lexer.reads_signs (hb : b = plus ∨ b = minus) (n : ℕ)
    (hrest : ∀ c ∈ rest.head?, c ≠ b ∧ c ≠ equals) {l : Lexer} (hm : l.malformed = false)
    (hu : l.unread = List.replicate n b ++ rest) :
    ∃ ts l', Reads l ts l' ∧ (∀ u ∈ ts, u.kind = .operator) ∧
      ts.map (·.text) = List.replicate (n / 2) [b, b] ++ List.replicate (n % 2) [b] := by
  induction n using Nat.twoStepInduction generalizing l with
  | zero => exact ⟨[], l, .done l, by simp, rfl⟩
  | one =>
    have hnext : l.next? = some (l.read b rest) :=
      next?_eq_some_iff.2 ⟨b, rest, hu, hm, rfl⟩
    -- what is behind the run makes no pair with the last sign
    have hlexeme := lexeme_sign_alone hb l.afterValue hrest
    refine ⟨[(l.read b rest).token], _, .read hnext (.done _), ?_, ?_⟩
    · intro u hu
      rw [List.mem_singleton.1 hu, kind_read, hlexeme]
    · rw [List.map_singleton, text_read, hlexeme]
      rfl
  | more n ih _ =>
    have hnext : l.next? = some (l.read b (b :: (List.replicate n b ++ rest))) :=
      next?_eq_some_iff.2 ⟨b, b :: (List.replicate n b ++ rest), hu, hm, rfl⟩
    have hlexeme := lexeme_sign_pair hb l.afterValue (List.replicate n b ++ rest)
    -- the lexer behind the pair has two signs less before it
    obtain ⟨ts, l', hts, hkinds, htexts⟩ :=
      ih (l := (l.read b (b :: (List.replicate n b ++ rest))).lexer)
        (by rw [malformed_read, hlexeme]; rfl) (by rw [unread_read, hlexeme])
    refine ⟨_, l', .read hnext hts, ?_, ?_⟩
    · intro u hu
      rcases List.mem_cons.1 hu with rfl | hu
      · rw [kind_read, hlexeme]
      · exact hkinds u hu
    · -- two signs more are one pair more, and the odd one stays
      have hhalf : (n + 2) / 2 = n / 2 + 1 := Nat.add_div_right n (by decide)
      have hodd : (n + 2) % 2 = n % 2 := Nat.add_mod_right n 2
      rw [List.map_cons, text_read, hlexeme, htexts, hhalf, hodd, List.replicate_succ,
        List.cons_append]

end Signs

/-! ### All operators of a script -/

/-- **Operators are munched.** Each operator is as long as it can be. Where a token starts at a run
of `n` plus signs, which no further plus sign and no equals sign follows, the tokens from there on
are `n / 2` times `++` and then `n % 2` times `+`; and the same goes for minus signs. -/
theorem operator_munch {script : List UInt8} {before behind : List Token} {t : Token}
    (h : (tokenize script).tokens = before ++ t :: behind) :
    (t.kind = .operator → t.Munched script) ∧
    ∀ b n rest, b = plus ∨ b = minus →
      script.drop t.span.start = List.replicate n b ++ rest →
      (∀ c ∈ rest.head?, c ≠ b ∧ c ≠ equals) →
        ∃ ts us, t :: behind = ts ++ us ∧ (∀ u ∈ ts, u.kind = .operator) ∧
          ts.map (·.text) = List.replicate (n / 2) [b, b] ++ List.replicate (n % 2) [b] := by
  constructor
  · obtain ⟨afterValue, b, rest, hsite⟩ := exists_site_of_eq_append h
    exact hsite.munched
  · intro b n rest hb hrun hrest
    obtain ⟨l, hm, hu, htokens⟩ := exists_lexer_at h
    obtain ⟨ts, l', hts, hkinds, htexts⟩ := l.reads_signs hb n hrest hm (hu.trans hrun)
    exact ⟨ts, l'.drain.tokens, htokens.symm.trans hts.tokens_drain, hkinds, htexts⟩

/-- In `a+++b` the three signs behind the name are a pair and one sign. -/
theorem operator_munch_of_three :
    ∃ t behind, (tokenize [0x61, 0x2B, 0x2B, 0x2B, 0x62]).tokens =
        [⟨.identifier, ⟨0, 1⟩, [0x61]⟩] ++ t :: behind ∧
      t.Munched [0x61, 0x2B, 0x2B, 0x2B, 0x62] ∧
        ∃ ts us, t :: behind = ts ++ us ∧ ts.map (·.text) = [[plus, plus], [plus]] := by
  have htokens : (tokenize [0x61, 0x2B, 0x2B, 0x2B, 0x62]).tokens =
      [⟨.identifier, ⟨0, 1⟩, [0x61]⟩] ++ ⟨.operator, ⟨1, 3⟩, [0x2B, 0x2B]⟩ ::
        [⟨.operator, ⟨3, 4⟩, [0x2B]⟩, ⟨.identifier, ⟨4, 5⟩, [0x62]⟩] := by decide +kernel
  obtain ⟨hmunched, hruns⟩ := operator_munch htokens
  -- three signs: one pair, and one left over
  obtain ⟨ts, us, hsplit, -, htexts⟩ := hruns plus 3 [0x62] (.inl rfl) rfl (by simp [plus, equals])
  exact ⟨_, _, htokens, hmunched rfl, ts, us, hsplit, htexts⟩

end PageScan.Script
