import PageScan.Proofs.Script.Numeral
import PageScan.Script.Lexeme

/-!
# What a token is by its beginning

`lexeme` chooses a rule by the first byte of a token, and by the second one if the first is a slash.
`Begins` has one case for each choice, with everything that is known when it is made: the bytes that
the token begins with, what the earlier choices have ruled out, and the lexeme that comes out. Facts
about all tokens go by its cases (`begins_lexeme`), and the function is not opened again.

To show what comes out, it is enough to name the case (`Begins.lexeme_eq`): the cases exclude one
another, since the classes of bytes that most of them go by are apart.
-/

namespace PageScan.Script

/-! ### The classes of first bytes are apart -/

section Apart

variable {p q : UInt8 → Bool} {b : UInt8}

theorem isSpace_iff (b : UInt8) : isSpace b = true ↔ b ∈ [(0x20 : UInt8), 0x09, 0x0C] := by
  simp [isSpace, or_assoc]

theorem isLineSeparator_iff (b : UInt8) :
    isLineSeparator b = true ↔ b ∈ [lineFeed, carriageReturn] := by
  simp [isLineSeparator]

theorem isQuote_iff (b : UInt8) : isQuote b = true ↔ b ∈ [doubleQuote, singleQuote] := by
  simp [isQuote]

/-- A class that holds none of some few bytes is apart from the class of these. -/
theorem eq_false_of_apart {bytes : List UInt8} (hq : ∀ b, q b = true ↔ b ∈ bytes)
    (hp : bytes.any p = false) (hb : p b = true) : q b = false := by
  rw [Bool.eq_false_iff]
  -- the byte would be one of the few
  intro hqb
  exact List.any_eq_false.1 hp b ((hq b).1 hqb) hb

/-- No digit begins a word. -/
theorem not_isDigit_of_isWordStart (h : isWordStart b = true) : isDigit b = false := by
  rw [Bool.eq_false_iff]
  intro hb
  simp only [isDigit, isWordStart, isLetter, Bool.and_eq_true, Bool.or_eq_true, decide_eq_true_eq,
    beq_iff_eq, UInt8.le_iff_toNat_le] at h hb
  have hlow : 0x30 ≤ b.toNat := hb.1
  have hhigh : b.toNat ≤ 0x39 := hb.2
  -- letters and high bytes lie above the digits, and the other three bytes are apart from them
  rcases h with ((((⟨hl, -⟩ | ⟨hl, -⟩) | rfl) | rfl) | rfl) | hl
  · have hletter : 0x41 ≤ b.toNat := hl
    omega
  · have hletter : 0x61 ≤ b.toNat := hl
    omega
  · exact absurd hhigh (by decide)
  · exact absurd hlow (by decide)
  · exact absurd hhigh (by decide)
  · have hbig : 0x7F ≤ b.toNat := hl
    omega

end Apart

/-! ### The choices -/

/-- **What a token is by its beginning:** the lexeme that unread bytes `b :: rest` begin with. -/
inductive Begins (afterValue : Bool) : UInt8 → List UInt8 → Lexeme → Prop
  | whitespace {b rest} (hb : isSpace b = true) :
      Begins afterValue b rest ⟨Cut.run isSpace (b :: rest), .whitespace⟩
  | lineSeparator {b rest} (hb : isLineSeparator b = true) :
      Begins afterValue b rest ⟨Cut.run isLineSeparator (b :: rest), .lineSeparator⟩
  | number {b rest} (hb : isDigit b = true ∨ b = dot) (ht : (numeral (b :: rest)).text ≠ [dot]) :
      Begins afterValue b rest ⟨numeral (b :: rest), .number⟩
  | loneDot {rest} (hr : rest.head?.any isDigit = false) :
      Begins afterValue dot rest ⟨⟨[dot], rest, true⟩, .operator⟩
  | lineComment {s} :
      Begins afterValue slash (slash :: s) ⟨lineComment (slash :: slash :: s), .comment⟩
  | blockComment {s} :
      Begins afterValue slash (star :: s) ⟨(blockTail false (star :: s)).cons slash, .comment⟩
  | lastSlash : Begins afterValue slash [] (Lexeme.punctuator slash [])
  | division {b s} (hb : b ≠ slash) (hs : b ≠ star) (hv : afterValue = true) :
      Begins afterValue slash (b :: s) (Lexeme.punctuator slash (b :: s))
  | regex {b s} (hb : b ≠ slash) (hs : b ≠ star) (hv : afterValue = false) :
      Begins afterValue slash (b :: s) ⟨(regexTail false false (b :: s)).cons slash, .regex⟩
  | string {b rest} (hb : isQuote b = true) : Begins afterValue b rest (Lexeme.quoted b rest)
  | word {b rest} (hb : isWordStart b = true) : Begins afterValue b rest (Lexeme.word (b :: rest))
  | markup {b rest} (hm : markupOpening <+: b :: rest) :
      Begins afterValue b rest ⟨lineComment (b :: rest), .comment⟩
  | operator {b rest} (hsp : isSpace b = false) (hls : isLineSeparator b = false)
      (hd : isDigit b = false) (hdot : b ≠ dot) (hsl : b ≠ slash) (hq : isQuote b = false)
      (hw : isWordStart b = false) (hm : ¬markupOpening <+: b :: rest) :
      Begins afterValue b rest (Lexeme.punctuator b rest)

/-- What a slash begins is one of the five cases with a slash. -/
theorem begins_slashed (afterValue : Bool) (rest : List UInt8) :
    Begins afterValue slash rest (Lexeme.slashed afterValue rest) := by
  unfold Lexeme.slashed
  split
  · exact .lastSlash
  · next b s =>
    split
    · next hb => subst hb; exact .lineComment
    · next hb =>
      split
      · next hs => subst hs; exact .blockComment
      · next hs =>
        split
        · next hv => exact .division hb hs hv
        · next hv => exact .regex hb hs (by simpa using hv)

/-- What a digit or a dot begins is a number or a lone dot. -/
theorem begins_numeralOrDot (afterValue : Bool) {b : UInt8} {rest : List UInt8}
    (hb : isDigit b = true ∨ b = dot) :
    Begins afterValue b rest (Lexeme.numeralOrDot (b :: rest)) := by
  unfold Lexeme.numeralOrDot
  dsimp only
  split
  · next ht =>
    obtain ⟨rfl, hr⟩ := numeral_text_eq_dot_iff.1 ht
    -- the numeral is the dot alone, so it is a byte of its own and not a number
    rw [numeral_loneDot hr]
    exact .loneDot hr
  · next ht => exact .number hb ht

/-- **Each token is one of the cases.** -/
theorem begins_lexeme (afterValue : Bool) (b : UInt8) (rest : List UInt8) :
    Begins afterValue b rest (lexeme afterValue b rest) := by
  unfold lexeme
  split
  · next h => exact .whitespace h
  next hsp =>
  split
  · next h => exact .lineSeparator h
  next hls =>
  split
  · next h => exact begins_numeralOrDot afterValue (by simpa using h)
  next hnum =>
  split
  · next h => subst h; exact begins_slashed afterValue rest
  next hsl =>
  split
  · next h => exact .string h
  next hq =>
  split
  · next h => exact .word h
  next hw =>
  split
  · next h => exact .markup (List.isPrefixOf_iff_prefix.1 h)
  next hm =>
  -- nothing is left but an operator; everything that was ruled out goes into its case
  simp only [Bool.or_eq_true, beq_iff_eq, not_or] at hnum
  exact .operator (by simpa using hsp) (by simpa using hls) (by simpa using hnum.1) hnum.2 hsl
    (by simpa using hq) (by simpa using hw) (mt List.isPrefixOf_iff_prefix.2 hm)

/-! ### The cases are the function -/

theorem lexeme_slash (afterValue : Bool) (rest : List UInt8) :
    lexeme afterValue slash rest = Lexeme.slashed afterValue rest := rfl

/-- A digit or a dot is in none of the classes that are looked at before. -/
theorem lexeme_numeral (afterValue : Bool) {b : UInt8} {rest : List UInt8}
    (hb : isDigit b = true ∨ b = dot) :
    lexeme afterValue b rest = Lexeme.numeralOrDot (b :: rest) := by
  rcases hb with hd | rfl
  · have hsp : isSpace b = false := eq_false_of_apart isSpace_iff rfl hd
    have hls : isLineSeparator b = false := eq_false_of_apart isLineSeparator_iff rfl hd
    simp [lexeme, hsp, hls, hd]
  · rfl

/-- **Each case is a token:** what `Begins` relates to the unread bytes is the lexeme that they
begin with. -/
theorem Begins.lexeme_eq {afterValue : Bool} {b : UInt8} {rest : List UInt8} {x : Lexeme}
    (h : Begins afterValue b rest x) : lexeme afterValue b rest = x := by
  cases h with
  | whitespace hb => rw [lexeme, if_pos hb]
  | lineSeparator hb =>
    -- blanks are asked for first, and a line separator is none
    have hsp : isSpace b = false := eq_false_of_apart isSpace_iff rfl hb
    rw [lexeme, hsp, if_neg Bool.false_ne_true, if_pos hb]
  | number hb ht => rw [lexeme_numeral afterValue hb, Lexeme.numeralOrDot, if_neg ht]
  | loneDot hr =>
    rw [lexeme_numeral afterValue (.inr rfl), Lexeme.numeralOrDot, numeral_loneDot hr, if_pos rfl]
  | lineComment | blockComment | lastSlash => rfl
  | division hb hs hv =>
    rw [lexeme_slash, Lexeme.slashed, if_neg hb, if_neg hs, if_pos hv]
  | regex hb hs hv =>
    rw [lexeme_slash, Lexeme.slashed, if_neg hb, if_neg hs, hv, if_neg Bool.false_ne_true]
  | string hb =>
    -- there are two quotes, and for each the function computes
    rcases (by simpa [isQuote] using hb : b = doubleQuote ∨ b = singleQuote) with rfl | rfl
    · rfl
    · rfl
  | word hb =>
    -- a byte that starts a word is in no class that is asked for before
    have hsp : isSpace b = false := eq_false_of_apart isSpace_iff rfl hb
    have hls : isLineSeparator b = false := eq_false_of_apart isLineSeparator_iff rfl hb
    have hq : isQuote b = false := eq_false_of_apart isQuote_iff rfl hb
    have hd : isDigit b = false := not_isDigit_of_isWordStart hb
    have hdot : b ≠ dot := by rintro rfl; exact absurd hb (by decide)
    have hsl : b ≠ slash := by rintro rfl; exact absurd hb (by decide)
    simp [lexeme, hsp, hls, hd, hdot, hsl, hq, hb]
  | markup hm =>
    obtain ⟨s, hs⟩ := hm
    rw [markupOpening, List.cons_append] at hs
    obtain ⟨rfl, rfl⟩ := List.cons.inj hs
    rfl
  | operator hsp hls hd hdot hsl hq hw hm =>
    simp [lexeme, hsp, hls, hd, hdot, hsl, hq, hw, hm]

/-- A token begins with the first unread byte. -/
theorem head?_text_lexeme (afterValue : Bool) (b : UInt8) (rest : List UInt8) :
    (lexeme afterValue b rest).text.head? = some b := by
  have hcut := lexeme_text_append_rest afterValue b rest
  obtain ⟨c, text, htext⟩ := List.exists_cons_of_ne_nil (lexeme_text_ne_nil afterValue b rest)
  rw [htext, List.cons_append] at hcut
  rw [htext, List.head?_cons, (List.cons.inj hcut).1]

/-- A token is no end mark. -/
theorem kind_lexeme_ne_endOfInput (afterValue : Bool) (b : UInt8) (rest : List UInt8) :
    (lexeme afterValue b rest).kind ≠ .endOfInput := by
  have hbegins := begins_lexeme afterValue b rest
  generalize lexeme afterValue b rest = x at hbegins ⊢
  cases hbegins with
  | whitespace | lineSeparator | number | loneDot | lineComment | blockComment | regex | markup =>
    simp
  | lastSlash | division | operator => simp [Lexeme.punctuator]
  | string => simp [Lexeme.quoted]
  | word =>
    unfold Lexeme.word
    dsimp only
    split <;> simp

end PageScan.Script
