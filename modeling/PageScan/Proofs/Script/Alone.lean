import PageScan.Proofs.Script.Site

/-!
# A token by itself

The bytes of a token, taken for a script, come out as that token alone. Two things are different
there from where the token was first read. Nothing stands behind it, but that ends every token, so
the rule cuts it off again (`lexeme_again`). And no value stands before it. Only a slash looks at
that: a slash which divides, since a value stood before it, would begin a regular expression where
none does. It does not when it is the last byte, for then a slash divides whatever stood before it.
There remains the one operator that begins with a slash and has two bytes, and it is no token by
itself (`Begins.afterNothing`).

The statement is `tokenize_text_of_mem`.
-/

namespace PageScan.Script

/-! ### A token with nothing before it and nothing behind -/

/-- A slash that divides leaves nothing behind it only as the pair `/=`. -/
theorem text_division_of_rest_eq_nil {b : UInt8} {s : List UInt8}
    (h : (Lexeme.punctuator slash (b :: s)).rest = []) :
    (Lexeme.punctuator slash (b :: s)).text = [slash, equals] := by
  cases hpair : isOperatorPair slash b with
  | false =>
    -- without a second byte the operator would leave `b`
    simp [Lexeme.punctuator, operatorTail, hpair] at h
  | true =>
    obtain rfl : b = equals := by
      simpa [isOperatorPair, slash, plus, minus, star] using hpair
    rfl

/-- **Without a value before it** a token that goes to the end of the script begins as it does with
one, unless it is the pair `/=`. -/
theorem Begins.afterNothing {afterValue : Bool} {b : UInt8} {s : List UInt8} {x : Lexeme}
    (h : Begins afterValue b s x) (hrest : x.rest = []) (htext : x.text ≠ [slash, equals]) :
    Begins false b s x := by
  cases h with
  | whitespace hb => exact .whitespace hb
  | lineSeparator hb => exact .lineSeparator hb
  | number hb ht => exact .number hb ht
  | loneDot hr => exact .loneDot hr
  | lineComment => exact .lineComment
  | blockComment => exact .blockComment
  | lastSlash => exact .lastSlash
  | division => exact absurd (text_division_of_rest_eq_nil hrest) htext
  | regex hb hs _ => exact .regex hb hs rfl
  | string hb => exact .string hb
  | word hb => exact .word hb
  | markup hm => exact .markup hm
  | operator hsp hls hd hdot hsl hq hw hm => exact .operator hsp hls hd hdot hsl hq hw hm

/-- The bytes of a token begin with that token, and it leaves nothing. -/
theorem lexeme_text {afterValue : Bool} {b : UInt8} {rest s : List UInt8}
    (hs : (lexeme afterValue b rest).text = b :: s)
    (htext : (lexeme afterValue b rest).text ≠ [slash, equals]) :
    lexeme false b s = { lexeme afterValue b rest with rest := [] } := by
  have hends : (lexeme afterValue b rest).EndsBefore [] :=
    (lexeme_endsBefore afterValue b rest).shorter List.nil_prefix
  have hagain : lexeme afterValue b s = { lexeme afterValue b rest with rest := [] } := by
    apply lexeme_again rfl (fun _ => rfl) hends
    rw [List.append_nil, hs]
  -- the same lexeme, and now the value before it is taken away
  have hbegins := begins_lexeme afterValue b s
  rw [hagain] at hbegins
  exact (hbegins.afterNothing rfl htext).lexeme_eq

/-- A script that one lexeme takes whole has one token. -/
theorem tokenize_of_lexeme {b : UInt8} {s : List UInt8} {x : Lexeme}
    (hx : lexeme false b s = x) (hrest : x.rest = []) :
    tokenize (b :: s) = ⟨[⟨x.kind, ⟨0, x.text.length⟩, x.text⟩], !x.closed⟩ := by
  have hnext : (Lexer.on (b :: s)).next? = some ((Lexer.on (b :: s)).read b s) :=
    Lexer.next?_eq_some_iff.2 ⟨b, s, rfl, rfl, rfl⟩
  have hend : ((Lexer.on (b :: s)).read b s).lexer.next? = none := by
    apply Lexer.next?_eq_none_iff.2
    left
    show (lexeme false b s).rest = []
    rw [hx, hrest]
  rw [tokenize, Lexer.drain_of_some hnext, Lexer.drain_of_none hend]
  simp [Lexer.read, Lexer.on, hx]

/-! ### All tokens of a script -/

/-- **A token by itself.** The text of any token but the pair `/=` has one token only: it is of the
same kind, holds the whole text, and is malformed exactly when the token was the malformed one of
its script. -/
theorem tokenize_text_of_mem {script : List UInt8} {t : Token}
    (ht : t ∈ (tokenize script).tokens) (htext : t.text ≠ [slash, equals]) :
    (tokenize t.text).tokens = [⟨t.kind, ⟨0, t.text.length⟩, t.text⟩] ∧
      ((tokenize t.text).malformed = true ↔ (tokenize script).malformedToken? = some t) := by
  obtain ⟨afterValue, b, rest, hsite⟩ := exists_site_of_mem ht
  -- the text of a token is not empty, so it has a first byte
  obtain ⟨s, hs⟩ : ∃ s, (lexeme afterValue b rest).text = b :: s :=
    List.head?_eq_some_iff.1 (head?_text_lexeme afterValue b rest)
  rw [hsite.text] at htext
  have hlexeme := lexeme_text hs htext
  have halone := tokenize_of_lexeme hlexeme rfl
  rw [← hs, ← hsite.text, ← hsite.kind] at halone
  rw [halone, hsite.malformed_iff, Bool.not_eq_true']
  exact ⟨rfl, Iff.rfl⟩

/-- In `a/b` the slash divides the name before it. By itself it is that operator as well, though no
value is before it. -/
theorem tokenize_text_of_division :
    ⟨.operator, ⟨1, 2⟩, [0x2F]⟩ ∈ (tokenize [0x61, 0x2F, 0x62]).tokens ∧
      (tokenize [0x2F]).tokens = [⟨.operator, ⟨0, 1⟩, [0x2F]⟩] := by
  have hmem : ⟨.operator, ⟨1, 2⟩, [0x2F]⟩ ∈ (tokenize [0x61, 0x2F, 0x62]).tokens := by
    decide +kernel
  exact ⟨hmem, (tokenize_text_of_mem hmem (by decide)).1⟩

/-- The pair by itself is a regular expression that is broken off. -/
example : tokenize [slash, equals] = ⟨[⟨.regex, ⟨0, 2⟩, [slash, equals]⟩], true⟩ := by
  decide +kernel

end PageScan.Script
