import PageScan.Proofs.Script.Reading
import PageScan.Proofs.Script.Stopping

/-!
# What a token is by its end

A token ends where the bytes behind it do not prolong it. What these must be like for that depends
on the kind of the token and on its text alone (`TokenKind.EndsBefore`): no digit behind a numeral,
no second byte of a pair behind an operator, and so on; where an end mark has been read, anything.

* The lexer ends a token only where the bytes behind it say so (`lexeme_endsBefore`).
* Where they say so, it does end the token: other bytes of which the same is true may be put behind
  it, and the same token is read again (`lexeme_again`).

So whether the bytes behind a token are cut off further on, or a separator is put between it and the
next token, it is enough to know that the new bytes end it as well.
-/

namespace PageScan.Script

/-! ### Bytes that end a token -/

/-- A byte behind which the operator of one byte `first` is not prolonged, and does not begin a
numeral or a comment. -/
structure OperatorStop (first b : UInt8) : Prop where
  pair : isOperatorPair first b = false
  numeral : first = dot → isDigit b = false
  comment : first = slash → b ≠ slash ∧ b ≠ star

/-- **Bytes that end a token** of the given kind and text: put behind it they are no part of it. -/
def TokenKind.EndsBefore (text s : List UInt8) : TokenKind → Prop
  | .whitespace => ∀ b ∈ s.head?, isSpace b = false
  | .lineSeparator => ∀ b ∈ s.head?, isLineSeparator b = false
  | .number => ∀ b ∈ s.head?, isDigit b = false ∧ (b = dot → dot ∈ text)
  | .identifier | .keyword _ => ∀ b ∈ s.head?, isWordStart b = false ∧ isDigit b = false
  | .comment => [slash, star] <+: text ∨ ∀ b ∈ s.head?, isLineSeparator b = true
  | .operator => ∀ first, text = [first] →
    ¬markupOpening <+: first :: s ∧ ∀ b ∈ s.head?, OperatorStop first b
  | .string | .regex | .endOfInput => True

/-- **The bytes behind a token end it.** -/
def Lexeme.EndsBefore (x : Lexeme) (s : List UInt8) : Prop := x.kind.EndsBefore x.text s

/-- Bytes that are cut off further on have the same first byte, if they have one. -/
theorem mem_head?_of_prefix {s t : List UInt8} (h : t <+: s) : ∀ b ∈ t.head?, b ∈ s.head? := by
  obtain ⟨u, rfl⟩ := h
  intro b hb
  rw [List.head?_append, Option.mem_def.1 hb, Option.some_or]
  rfl

/-- What ends a token ends it also when bytes are cut off further on. -/
theorem Lexeme.EndsBefore.shorter {x : Lexeme} {s t : List UInt8} (h : x.EndsBefore s)
    (ht : t <+: s) : x.EndsBefore t := by
  have hhead := mem_head?_of_prefix ht
  unfold EndsBefore at h ⊢
  cases hk : x.kind with
  | whitespace | lineSeparator | number | identifier | keyword =>
    rw [hk] at h
    exact fun b hb => h b (hhead b hb)
  | comment =>
    rw [hk] at h
    exact h.imp_right fun h b hb => h b (hhead b hb)
  | operator =>
    rw [hk] at h
    intro first htext
    obtain ⟨hmarkup, hstop⟩ := h first htext
    -- an opening mark in the shorter bytes would be one in the longer ones
    refine ⟨fun hm => hmarkup (hm.trans ?_), fun b hb => hstop b (hhead b hb)⟩
    exact (List.prefix_cons_inj first).2 ht
  | string | regex | endOfInput => exact trivial

/-! ### Separators -/

/-- Whether the byte parts tokens: a space, tab or form feed, a line feed or a carriage return. -/
def isSeparator (b : UInt8) : Bool := isSpace b || isLineSeparator b

theorem isSeparator_iff (b : UInt8) :
    isSeparator b = true ↔ b ∈ [(0x20 : UInt8), 0x09, 0x0C, lineFeed, carriageReturn] := by
  simp [isSeparator, isSpace, isLineSeparator, or_assoc]

theorem eq_false_of_separator {p : UInt8 → Bool} {b : UInt8}
    (hp : [0x20, 0x09, 0x0C, lineFeed, carriageReturn].any p = false)
    (hb : isSeparator b = true) : p b = false := by
  rw [Bool.eq_false_iff]
  exact List.any_eq_false.1 hp b ((isSeparator_iff b).1 hb)

/-- A separator prolongs no operator: it is in no pair, is no digit and opens no comment. -/
theorem operatorStop_of_isSeparator {b : UInt8} (hb : isSeparator b = true) (first : UInt8) :
    OperatorStop first b := by
  have hne {c : UInt8} (hc : isSeparator c = false) : b ≠ c := by
    rintro rfl
    exact Bool.noConfusion (hb.symm.trans hc)
  refine ⟨?_, fun _ => eq_false_of_separator rfl hb, fun _ => ⟨hne rfl, hne rfl⟩⟩
  rw [Bool.eq_false_iff]
  intro hpair
  simp only [isOperatorPair, Bool.or_eq_true, Bool.and_eq_true, beq_iff_eq] at hpair
  -- the second byte of a pair is a sign, or an equals sign: no separator
  rcases hpair with ⟨rfl | rfl, rfl⟩ | ⟨-, rfl⟩
  · exact hne rfl rfl
  · exact hne rfl rfl
  · exact hne rfl rfl

/-- A separator ends every significant token. -/
theorem Lexeme.endsBefore_separator {x : Lexeme} (hx : x.kind.isTrivia = false) {b : UInt8}
    (hb : isSeparator b = true) (s : List UInt8) : x.EndsBefore (b :: s) := by
  have hword : isWordStart b = false := eq_false_of_separator rfl hb
  have hdigit : isDigit b = false := eq_false_of_separator rfl hb
  unfold EndsBefore
  cases hk : x.kind with
  | whitespace | lineSeparator | comment =>
    rw [hk] at hx
    exact Bool.noConfusion hx
  | number =>
    intro c hc
    obtain rfl := Option.some.inj hc
    refine ⟨hdigit, ?_⟩
    -- a separator is no dot
    rintro rfl
    exact absurd hb (by decide)
  | identifier | keyword =>
    intro c hc
    obtain rfl := Option.some.inj hc
    exact ⟨hword, hdigit⟩
  | operator =>
    intro first _
    refine ⟨?_, ?_⟩
    · -- the second byte of the opening mark is no separator
      intro hmarkup
      obtain ⟨-, hmarkup⟩ := List.cons_prefix_cons.1 hmarkup
      obtain ⟨rfl, -⟩ := List.cons_prefix_cons.1 hmarkup
      exact absurd hb (by decide)
    · intro c hc
      obtain rfl := Option.some.inj hc
      exact operatorStop_of_isSeparator hb first
  | string | regex | endOfInput => exact trivial

/-! ### The lexer ends a token where its end is -/

/-- An operator ends where no pair goes on. -/
theorem endsBefore_punctuator {first : UInt8} {rest : List UInt8} (hdot : first ≠ dot)
    (hcomment : first = slash → ∀ b ∈ rest.head?, b ≠ slash ∧ b ≠ star)
    (hmarkup : ¬markupOpening <+: first :: rest) :
    (Lexeme.punctuator first rest).EndsBefore (Lexeme.punctuator first rest).rest := by
  intro first' htext
  obtain ⟨rfl, hnil⟩ := List.cons.inj htext
  -- with nothing taken behind the first byte, what is left is all that was there
  have hrest : (operatorTail first rest).rest = rest := by
    have hcut := operatorTail_text_append_rest first rest
    rwa [hnil, List.nil_append] at hcut
  change ¬markupOpening <+: first :: (operatorTail first rest).rest ∧
    ∀ b ∈ (operatorTail first rest).rest.head?, OperatorStop first b
  refine ⟨by rwa [hrest], fun b hb => ⟨operatorTail_stop first rest hnil b hb, ?_, ?_⟩⟩
  · exact fun h => absurd h hdot
  · rw [hrest] at hb
    exact fun h => hcomment h b hb

theorem kind_word (s : List UInt8) :
    (Lexeme.word s).kind = .identifier ∨ ∃ k, (Lexeme.word s).kind = .keyword k := by
  cases hk : Keyword.ofBytes? (wordTail false s).text with
  | some k => exact .inr ⟨k, by simp [Lexeme.word, hk]⟩
  | none => exact .inl (by simp [Lexeme.word, hk])

/-- Identifiers and keywords. -/
def TokenKind.isWord : TokenKind → Bool
  | .identifier | .keyword _ => true
  | _ => false

theorem isWord_kind_word (s : List UInt8) : (Lexeme.word s).kind.isWord = true := by
  rcases kind_word s with hkind | ⟨k, hkind⟩
  · rw [hkind]
    rfl
  · rw [hkind]
    rfl

theorem kind_word_ne {kind : TokenKind} (h : kind.isWord = false) (s : List UInt8) :
    (Lexeme.word s).kind ≠ kind := by
  rintro rfl
  exact Bool.noConfusion ((isWord_kind_word s).symm.trans h)

/-- Keyword or not, a word ends in the same places. -/
theorem endsBefore_word_iff {s t : List UInt8} :
    (Lexeme.word s).EndsBefore t ↔
      ∀ b ∈ t.head?, isWordStart b = false ∧ isDigit b = false := by
  unfold Lexeme.EndsBefore
  rcases kind_word s with hk | ⟨k, hk⟩
  · rw [hk]
    exact Iff.rfl
  · rw [hk]
    exact Iff.rfl

/-- **A token ends where its end is.** The bytes behind a token that the lexer reads end it. -/
theorem lexeme_endsBefore (afterValue : Bool) (b : UInt8) (rest : List UInt8) :
    (lexeme afterValue b rest).EndsBefore (lexeme afterValue b rest).rest := by
  have hbegins := begins_lexeme afterValue b rest
  generalize lexeme afterValue b rest = x at hbegins ⊢
  cases hbegins with
  | whitespace => exact Cut.run_stop isSpace _
  | lineSeparator => exact Cut.run_stop isLineSeparator _
  | number => exact numeral_stop _
  | @loneDot rest hr =>
    intro first htext
    obtain ⟨rfl, -⟩ := List.cons.inj htext
    refine ⟨fun hm => absurd (List.cons_prefix_cons.1 hm).1 (by decide), ?_⟩
    -- a dot is in no pair, and the byte behind this one begins no fraction
    intro b hb
    refine ⟨?_, ?_, fun h => absurd h (by decide)⟩
    · simp [isOperatorPair, dot, plus, minus, star, slash]
    · cases rest with
      | nil => exact absurd hb (Option.not_mem_none b)
      | cons c s =>
        obtain rfl := Option.some.inj hb
        exact fun _ => hr
  | lineComment | markup => exact .inr (lineComment_stop _)
  | blockComment =>
    left
    simp [blockTail]
  | lastSlash =>
    refine endsBefore_punctuator (by decide) (fun _ b hb => absurd hb (Option.not_mem_none b)) ?_
    exact fun hm => absurd (List.cons_prefix_cons.1 hm).1 (by decide)
  | division hb hs hv =>
    refine endsBefore_punctuator (by decide) ?_ ?_
    · intro _ c hc
      obtain rfl := Option.some.inj hc
      exact ⟨hb, hs⟩
    · -- an opening mark does not begin with a slash
      exact fun hm => absurd (List.cons_prefix_cons.1 hm).1 (by decide)
  | regex => exact trivial
  | string => exact trivial
  | word => exact endsBefore_word_iff.2 (wordTail_stop false _)
  | operator hsp hls hd hdot hsl hq hw hm =>
    exact endsBefore_punctuator hdot (fun h => absurd h hsl) hm

/-! ### A token that ends is read again -/

theorem punctuator_again {first : UInt8} {rest s t : List UInt8}
    (hends : (Lexeme.punctuator first rest).EndsBefore t)
    (hs : s = (operatorTail first rest).text ++ t) :
    Lexeme.punctuator first s = { Lexeme.punctuator first rest with rest := t } := by
  have htail : operatorTail first s = (operatorTail first rest).before t := by
    rw [hs]
    refine operatorTail_again fun hnil b hb => ?_
    have htext : (Lexeme.punctuator first rest).text = [first] := by
      rw [Lexeme.punctuator, Cut.text_cons, hnil]
    exact ((hends first htext).2 b hb).pair
  rw [Lexeme.punctuator, htail]
  rfl

/-- The byte behind a slash that divides opens no comment, be it the second of a pair or one that
ends the operator. -/
theorem not_comment_of_division {c d : UInt8} {rest s t : List UInt8} (hslash : c ≠ slash)
    (hstar : c ≠ star) (hends : (Lexeme.punctuator slash (c :: rest)).EndsBefore t)
    (hs : d :: s = (operatorTail slash (c :: rest)).text ++ t) : d ≠ slash ∧ d ≠ star := by
  cases htext : (operatorTail slash (c :: rest)).text with
  | nil =>
    have hstop := (hends slash (by rw [Lexeme.punctuator, Cut.text_cons, htext])).2
    rw [htext, List.nil_append] at hs
    exact (hstop d (by rw [← hs]; rfl)).comment rfl
  | cons e u =>
    have hcut := operatorTail_text_append_rest slash (c :: rest)
    rw [htext, List.cons_append] at hcut hs
    obtain rfl := (List.cons.inj hcut).1
    obtain rfl := (List.cons.inj hs).1
    exact ⟨hslash, hstar⟩

/-- Read again, an operator opens no markup comment. -/
theorem not_markup_of_operator {b : UInt8} {rest s t : List UInt8}
    (hends : (Lexeme.punctuator b rest).EndsBefore t) (hs : s = (operatorTail b rest).text ++ t) :
    ¬markupOpening <+: b :: s := by
  intro hmarkup
  -- the byte that the opening mark begins with is in no pair, so it is the whole text
  obtain ⟨rfl, -⟩ := List.cons_prefix_cons.1 hmarkup
  have hnil : (operatorTail 0x3C rest).text = [] := by rw [operatorTail_alone (by decide)]
  rw [hnil, List.nil_append] at hs
  subst hs
  exact (hends 0x3C (by rw [Lexeme.punctuator, Cut.text_cons, hnil])).1 hmarkup

/-- A comment that is no block comment ends in front of a line separator only. -/
theorem lineComment_again_of_endsBefore {s t : List UInt8}
    (hblock : ¬[slash, star] <+: (lineComment s).text)
    (hends : Lexeme.EndsBefore ⟨lineComment s, .comment⟩ t) :
    lineComment ((lineComment s).text ++ t) = (lineComment s).before t := by
  rcases hends with hopen | hstop
  · exact absurd hopen hblock
  · exact lineComment_again hstop

/-! One lemma for each class of first bytes: the new bytes `b :: s` begin as the old ones do, so the
choice is the same, and the rule that was chosen cuts off the same text again. -/

section Again

variable {afterValue : Bool} {b : UInt8} {rest s t : List UInt8}

theorem begins_whitespace_again (hb : isSpace b = true) (hends : ∀ c ∈ t.head?, isSpace c = false)
    (hs : b :: s = (Cut.run isSpace (b :: rest)).text ++ t) :
    Begins afterValue b s ⟨(Cut.run isSpace (b :: rest)).before t, .whitespace⟩ := by
  rw [← Cut.run_again hends, ← hs]
  exact .whitespace hb

theorem begins_lineSeparator_again (hb : isLineSeparator b = true)
    (hends : ∀ c ∈ t.head?, isLineSeparator c = false)
    (hs : b :: s = (Cut.run isLineSeparator (b :: rest)).text ++ t) :
    Begins afterValue b s ⟨(Cut.run isLineSeparator (b :: rest)).before t, .lineSeparator⟩ := by
  rw [← Cut.run_again hends, ← hs]
  exact .lineSeparator hb

/-- A numeral is read again, and is no lone dot, since its text is the same. -/
theorem begins_number_again (hb : isDigit b = true ∨ b = dot)
    (ht : (numeral (b :: rest)).text ≠ [dot])
    (hends : Lexeme.EndsBefore ⟨numeral (b :: rest), .number⟩ t)
    (hs : b :: s = (numeral (b :: rest)).text ++ t) :
    Begins afterValue b s ⟨(numeral (b :: rest)).before t, .number⟩ := by
  have hnum : numeral (b :: s) = (numeral (b :: rest)).before t := by
    rw [hs]
    exact numeral_again hends
  rw [← hnum]
  refine .number hb ?_
  rwa [hnum]

/-- Nothing was taken behind a lone dot, so the byte there is the first that ends it. -/
theorem begins_loneDot_again (hends : Lexeme.EndsBefore ⟨⟨[dot], rest, true⟩, .operator⟩ t) :
    Begins afterValue dot t ⟨⟨[dot], t, true⟩, .operator⟩ := by
  refine .loneDot ?_
  cases t with
  | nil => rfl
  | cons c t => exact ((hends dot rfl).2 c rfl).numeral rfl

theorem begins_lineComment_again
    (hends : Lexeme.EndsBefore ⟨lineComment (slash :: slash :: rest), .comment⟩ t)
    (hs : slash :: s = (lineComment (slash :: slash :: rest)).text ++ t) :
    Begins afterValue slash s
      ⟨(lineComment (slash :: slash :: rest)).before t, .comment⟩ := by
  have hblock : ¬[slash, star] <+: (lineComment (slash :: slash :: rest)).text :=
    not_prefix_lineComment rfl rfl (.inr (by decide))
  rw [← lineComment_again_of_endsBefore hblock hends, ← hs]
  -- the second slash is part of the text
  obtain ⟨u, rfl⟩ : ∃ u, s = slash :: u := ⟨_, (List.cons.inj hs).2⟩
  exact .lineComment

theorem begins_markup_again (hm : markupOpening <+: b :: rest)
    (hends : Lexeme.EndsBefore ⟨lineComment (b :: rest), .comment⟩ t)
    (hs : b :: s = (lineComment (b :: rest)).text ++ t) :
    Begins afterValue b s ⟨(lineComment (b :: rest)).before t, .comment⟩ := by
  have hmarkup : markupOpening <+: (lineComment (b :: rest)).text :=
    markupOpening_prefix_lineComment hm
  have hblock : ¬[slash, star] <+: (lineComment (b :: rest)).text := by
    -- a comment does not begin in both ways
    intro hopen
    exact absurd (List.prefix_of_prefix_length_le hopen hmarkup (by decide)) (by decide)
  rw [← lineComment_again_of_endsBefore hblock hends, ← hs]
  refine .markup ?_
  rw [hs]
  exact hmarkup.trans (List.prefix_append _ t)

theorem begins_blockComment_again (hlast : (blockTail false (star :: rest)).rest = [] → t = [])
    (hs : s = (blockTail false (star :: rest)).text ++ t) :
    Begins afterValue slash s
      ⟨((blockTail false (star :: rest)).before t).cons slash, .comment⟩ := by
  rw [← blockTail_again hlast, ← hs]
  -- the star behind the slash is part of the text, so it decides here as well
  obtain ⟨u, htext⟩ := exists_text_blockTail false star rest
  rw [htext, List.cons_append] at hs
  subst hs
  exact .blockComment

/-- A slash that divides is read again; it may be the last byte now. -/
theorem begins_division_again {c : UInt8} (hc : c ≠ slash) (hst : c ≠ star) (hv : afterValue = true)
    (hends : (Lexeme.punctuator slash (c :: rest)).EndsBefore t)
    (hs : s = (operatorTail slash (c :: rest)).text ++ t) :
    Begins afterValue slash s { Lexeme.punctuator slash (c :: rest) with rest := t } := by
  rw [← punctuator_again hends hs]
  cases s with
  | nil => exact .lastSlash
  | cons d s =>
    obtain ⟨hd, hd'⟩ := not_comment_of_division hc hst hends hs
    exact .division hd hd' hv

theorem begins_regex_again {c : UInt8} (hc : c ≠ slash) (hst : c ≠ star) (hv : afterValue = false)
    (hlast : (regexTail false false (c :: rest)).rest = [] → t = [])
    (hs : s = (regexTail false false (c :: rest)).text ++ t) :
    Begins afterValue slash s
      ⟨((regexTail false false (c :: rest)).before t).cons slash, .regex⟩ := by
  rw [← regexTail_again hlast, ← hs]
  -- the byte behind the slash is taken in any case, so it decides here as well
  obtain ⟨u, htext⟩ := exists_text_regexTail false false c rest
  rw [htext, List.cons_append] at hs
  subst hs
  exact .regex hc hst hv

theorem begins_string_again (hb : isQuote b = true)
    (hlast : (stringTail b false rest).rest = [] → t = [])
    (hs : s = (stringTail b false rest).text ++ t) :
    Begins afterValue b s { Lexeme.quoted b rest with rest := t } := by
  have hbegins : Begins afterValue b s (Lexeme.quoted b s) := .string hb
  have hagain := stringTail_again hlast
  rw [← hs] at hagain
  rwa [Lexeme.quoted, hagain] at hbegins

/-- A word is read again, and the same text is the same keyword or none. -/
theorem begins_word_again (hb : isWordStart b = true)
    (hlast : (wordTail false (b :: rest)).rest = [] → t = [])
    (hends : (Lexeme.word (b :: rest)).EndsBefore t)
    (hs : b :: s = (wordTail false (b :: rest)).text ++ t) :
    Begins afterValue b s { Lexeme.word (b :: rest) with rest := t } := by
  have hbegins : Begins afterValue b s (Lexeme.word (b :: s)) := .word hb
  have hagain := wordTail_again hlast (endsBefore_word_iff.1 hends)
  rw [← hs] at hagain
  rwa [Lexeme.word, hagain] at hbegins

end Again

/-- **A token is read again** when other bytes that end it stand behind it, or nothing. -/
theorem lexeme_again {afterValue : Bool} {b : UInt8} {rest t : List UInt8} {x : Lexeme}
    (hx : lexeme afterValue b rest = x) (hlast : x.rest = [] → t = []) (hends : x.EndsBefore t)
    {s : List UInt8} (hs : b :: s = x.text ++ t) :
    lexeme afterValue b s = { x with rest := t } := by
  have hbegins := begins_lexeme afterValue b rest
  rw [hx] at hbegins
  apply Begins.lexeme_eq
  cases hbegins with
  | whitespace hb => exact begins_whitespace_again hb hends hs
  | lineSeparator hb => exact begins_lineSeparator_again hb hends hs
  | number hb ht => exact begins_number_again hb ht hends hs
  | loneDot hr =>
    obtain rfl : s = t := (List.cons.inj hs).2
    exact begins_loneDot_again hends
  | lineComment => exact begins_lineComment_again hends hs
  | markup hm => exact begins_markup_again hm hends hs
  | blockComment => exact begins_blockComment_again hlast (List.cons.inj hs).2
  | lastSlash =>
    -- nothing was left behind the slash, so nothing is put there
    obtain rfl : t = [] := hlast rfl
    obtain rfl : s = [] := (List.cons.inj hs).2
    exact .lastSlash
  | division hc hst hv => exact begins_division_again hc hst hv hends (List.cons.inj hs).2
  | regex hc hst hv => exact begins_regex_again hc hst hv hlast (List.cons.inj hs).2
  | string hb => exact begins_string_again hb hlast (List.cons.inj hs).2
  | word hb => exact begins_word_again hb hlast hends hs
  | operator hsp hls hd hdot hsl hq hw hm =>
    have hs' : s = (operatorTail b rest).text ++ t := (List.cons.inj hs).2
    rw [← punctuator_again hends hs']
    exact .operator hsp hls hd hdot hsl hq hw (not_markup_of_operator hends hs')

/-- The lexer with the bytes `t` before it in place of its own. -/
def Lexer.facing (l : Lexer) (t : List UInt8) : Lexer := { l with unread := t }

def Pull.facing (p : Pull) (t : List UInt8) : Pull := { p with lexer := p.lexer.facing t }

/-- **One step again.** A lexer with the bytes of its next token before it, and behind these bytes
that end the token, reads the token and then stands before them. -/
theorem Lexer.next?_again {l : Lexer} {b : UInt8} {rest t : List UInt8} (hm : l.malformed = false)
    (hlast : (lexeme l.afterValue b rest).rest = [] → t = [])
    (hends : (lexeme l.afterValue b rest).EndsBefore t) :
    (l.facing ((lexeme l.afterValue b rest).text ++ t)).next? =
      some ((l.read b rest).facing t) := by
  -- the text begins with `b`, so the bytes that are put before the lexer do, too
  obtain ⟨u, htext⟩ : ∃ u, (lexeme l.afterValue b rest).text = b :: u :=
    List.head?_eq_some_iff.1 (head?_text_lexeme l.afterValue b rest)
  have hagain : lexeme l.afterValue b (u ++ t) =
      { lexeme l.afterValue b rest with rest := t } :=
    lexeme_again rfl hlast hends (by rw [htext, List.cons_append])
  have hread : (l.facing (b :: (u ++ t))).read b (u ++ t) = (l.read b rest).facing t := by
    simp [read, facing, Pull.facing, hagain, Lexeme.valueBehind]
  rw [htext, List.cons_append]
  exact next?_eq_some_iff.2 ⟨b, u ++ t, rfl, hm, hread.symm⟩

end PageScan.Script
