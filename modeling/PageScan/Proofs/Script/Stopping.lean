import PageScan.Proofs.Script.Literal
import PageScan.Proofs.Script.Comment
import PageScan.Proofs.Script.Numeral
import PageScan.Script.Punctuator
import PageScan.Script.Word

/-!
# Where a rule stops

A rule cuts a token off the unread bytes and leaves a rest. Here the rest is exchanged for other
bytes. What the rule says about the byte at which it stopped (`*_stop`) is all that the other bytes
have to satisfy for the rule to stop there again and cut off the same token (`*_again`).

A rule with an end mark looks at nothing behind the mark, so behind a token that has one any bytes
may stand. But a token that the script broke off, and a word that ends in a pending escape, would go
on over them; such a token has nothing behind it. Hence the premise that where nothing was left
nothing is put.
-/

namespace PageScan.Script

/-- The same token with other bytes behind it. -/
def Cut.before (c : Cut) (t : List UInt8) : Cut := { c with rest := t }

variable {s t : List UInt8}

/-! ### Runs and numerals -/

section Runs

variable {p : UInt8 → Bool}

/-- A run stops at a byte that is not of its class. -/
theorem Cut.run_stop (p : UInt8 → Bool) (s : List UInt8) :
    ∀ b ∈ (run p s).rest.head?, p b = false := by
  intro b hb
  have hstop := List.head?_dropWhile_not p s
  rw [show (s.dropWhile p).head? = some b from hb] at hstop
  simpa using hstop

theorem Cut.run_of_stop (h : ∀ b ∈ t.head?, p b = false) : run p t = ⟨[], t, true⟩ := by
  cases t with
  | nil => rfl
  | cons b t => rw [run_cons, h b rfl, if_neg Bool.false_ne_true]

/-- A run stops again in front of other bytes that do not go on with it. -/
theorem Cut.run_again (h : ∀ b ∈ t.head?, p b = false) :
    run p ((run p s).text ++ t) = (run p s).before t := by
  induction s with
  | nil => exact run_of_stop h
  | cons b s ih =>
    rw [run_cons]
    cases hb : p b with
    | false => exact run_of_stop h
    | true =>
      rw [if_pos rfl, text_cons, List.cons_append, run_cons, hb, if_pos rfl, ih]
      rfl

end Runs

/-- A numeral stops at no digit, and at a dot only if it has one already. -/
theorem numeral_stop (s : List UInt8) :
    ∀ b ∈ (numeral s).rest.head?, isDigit b = false ∧ (b = dot → dot ∈ (numeral s).text) := by
  induction s with
  | nil => exact fun b hb => absurd hb (Option.not_mem_none b)
  | cons b s ih =>
    cases hd : isDigit b with
    | true =>
      -- a digit goes in front, and the numeral behind it stops where it did
      rw [numeral_digit hd]
      intro c hc
      obtain ⟨hdig, hdot⟩ := ih c hc
      exact ⟨hdig, fun h => List.mem_cons_of_mem b (hdot h)⟩
    | false =>
      by_cases hb : b = dot
      · subst hb
        rw [numeral_dot]
        intro c hc
        exact ⟨Cut.run_stop isDigit s c hc, fun _ => List.mem_cons_self⟩
      · rw [numeral_other hd hb]
        intro c hc
        obtain rfl := Option.some.inj hc
        exact ⟨hd, fun h => absurd h hb⟩

theorem numeral_of_stop (h : ∀ b ∈ t.head?, isDigit b = false ∧ b ≠ dot) :
    numeral t = ⟨[], t, true⟩ := by
  cases t with
  | nil => rfl
  | cons b t => exact numeral_other (h b rfl).1 (h b rfl).2 t

/-- A numeral stops again in front of no digit, and of a dot if it has one already. -/
theorem numeral_again
    (h : ∀ b ∈ t.head?, isDigit b = false ∧ (b = dot → dot ∈ (numeral s).text)) :
    numeral ((numeral s).text ++ t) = (numeral s).before t := by
  -- a dot may follow a numeral only if it has one already, for else it would go on with it
  have hnone (hs : dot ∉ (numeral s).text) : numeral t = ⟨[], t, true⟩ :=
    numeral_of_stop fun b hb => ⟨(h b hb).1, fun hdot => hs ((h b hb).2 hdot)⟩
  induction s with
  | nil => exact hnone List.not_mem_nil
  | cons b s ih =>
    cases hd : isDigit b with
    | true =>
      have hne : dot ≠ b := by
        rintro rfl
        exact absurd hd (by decide)
      rw [numeral_digit hd] at h hnone ⊢
      simp only [Cut.text_cons, List.mem_cons, hne, false_or] at h hnone
      rw [Cut.text_cons, List.cons_append, numeral_digit hd, ih h hnone]
      rfl
    | false =>
      by_cases hb : b = dot
      · subst hb
        -- behind its dot a numeral is a run of digits
        rw [numeral_dot, Cut.text_cons, List.cons_append, numeral_dot,
          Cut.run_again fun c hc => (h c hc).1]
        rfl
      · rw [numeral_other hd hb] at hnone ⊢
        exact hnone List.not_mem_nil

/-! ### Words and operators -/

/-- A word stops at a byte that could neither begin a word nor be a digit in it. -/
theorem wordTail_stop (escaped : Bool) (s : List UInt8) :
    ∀ b ∈ (wordTail escaped s).rest.head?, isWordStart b = false ∧ isDigit b = false := by
  fun_induction wordTail escaped s with
  | case1 => exact fun b hb => absurd hb (Option.not_mem_none b)
  | case2 _ _ ih => exact ih
  | case3 _ ih => exact ih
  | case4 _ _ _ _ ih => exact ih
  -- only a byte of neither class stops the word
  | case5 b s _ hb =>
    intro c hc
    obtain rfl := Option.some.inj hc
    simpa using hb

theorem wordTail_of_stop (h : ∀ b ∈ t.head?, isWordStart b = false ∧ isDigit b = false) :
    wordTail false t = ⟨[], t, true⟩ := by
  cases t with
  | nil => rfl
  | cons b t =>
    obtain ⟨hword, hdigit⟩ := h b rfl
    -- a backslash would go on, but it is among the bytes that begin a word
    have hb : b ≠ backslash := by
      rintro rfl
      exact absurd hword (by decide)
    rw [wordTail, if_neg hb, if_neg (by simp [hword, hdigit])]

theorem wordTail_again {escaped : Bool} (hlast : (wordTail escaped s).rest = [] → t = [])
    (h : ∀ b ∈ t.head?, isWordStart b = false ∧ isDigit b = false) :
    wordTail escaped ((wordTail escaped s).text ++ t) = (wordTail escaped s).before t := by
  fun_induction wordTail escaped s with
  | case1 escaped =>
    -- the escape may be pending still, and would take a byte that is put here
    rw [hlast rfl]
    cases escaped <;> rfl
  | case2 b s ih =>
    rw [Cut.text_cons, List.cons_append, wordTail, ih hlast]
    rfl
  | case3 s ih =>
    rw [Cut.text_cons, List.cons_append, wordTail, if_pos rfl, ih hlast]
    rfl
  | case4 b s hb hw ih =>
    rw [Cut.text_cons, List.cons_append, wordTail, if_neg hb, if_pos hw, ih hlast]
    rfl
  | case5 b s _ _ => exact wordTail_of_stop h

/-- A byte that makes no pair with the next one is an operator alone. -/
theorem operatorTail_of_stop {first : UInt8} (h : ∀ b ∈ t.head?, isOperatorPair first b = false) :
    operatorTail first t = ⟨[], t, true⟩ := by
  cases t with
  | nil => rfl
  | cons b t => rw [operatorTail, h b rfl, if_neg Bool.false_ne_true]

/-- Only four bytes begin a pair. -/
theorem operatorTail_alone {first : UInt8} (h : first ∉ [plus, minus, star, slash])
    (s : List UInt8) : operatorTail first s = ⟨[], s, true⟩ := by
  simp only [List.mem_cons, List.not_mem_nil, or_false, not_or] at h
  obtain ⟨hplus, hminus, hstar, hslash⟩ := h
  exact operatorTail_of_stop fun b _ => by simp [isOperatorPair, hplus, hminus, hstar, hslash]

/-- Where an operator is one byte alone, the byte behind makes no pair with it. -/
theorem operatorTail_stop (first : UInt8) (s : List UInt8)
    (h : (operatorTail first s).text = []) :
    ∀ b ∈ (operatorTail first s).rest.head?, isOperatorPair first b = false := by
  cases s with
  | nil => exact fun b hb => absurd hb (Option.not_mem_none b)
  | cons b s =>
    rw [operatorTail] at h ⊢
    split at h
    · exact absurd h (List.cons_ne_nil _ _)
    · next hpair =>
      rw [if_neg hpair]
      intro c hc
      obtain rfl := Option.some.inj hc
      simpa using hpair

/-- A pair stops in front of anything, and a byte alone in front of what makes no pair with it. -/
theorem operatorTail_again {first : UInt8}
    (h : (operatorTail first s).text = [] → ∀ b ∈ t.head?, isOperatorPair first b = false) :
    operatorTail first ((operatorTail first s).text ++ t) = (operatorTail first s).before t := by
  cases s with
  | nil => exact operatorTail_of_stop (h rfl)
  | cons b s =>
    rw [operatorTail] at h ⊢
    cases hpair : isOperatorPair first b with
    | false =>
      rw [hpair] at h
      exact operatorTail_of_stop (h rfl)
    | true =>
      -- a pair is full, and looks at nothing behind it
      rw [if_pos rfl, List.singleton_append, operatorTail, hpair]
      rfl

/-! ### Rules with an end mark, and line comments -/

/-- A line comment stops at a line separator. -/
theorem lineComment_stop (s : List UInt8) :
    ∀ b ∈ (lineComment s).rest.head?, isLineSeparator b = true := by
  intro b hb
  simpa using Cut.run_stop (!isLineSeparator ·) s b hb

theorem lineComment_again (h : ∀ b ∈ t.head?, isLineSeparator b = true) :
    lineComment ((lineComment s).text ++ t) = (lineComment s).before t :=
  Cut.run_again fun b hb => by rw [h b hb, Bool.not_true]

/-- A string stops behind its quote, whatever comes then. -/
theorem stringTail_again {quote : UInt8} {escaped : Bool}
    (hlast : (stringTail quote escaped s).rest = [] → t = []) :
    stringTail quote escaped ((stringTail quote escaped s).text ++ t) =
      (stringTail quote escaped s).before t := by
  fun_induction stringTail quote escaped s with
  | case1 escaped =>
    -- broken off by the end of the script; more bytes would go on with it
    rw [hlast rfl]
    cases escaped <;> rfl
  | case2 b s ih =>
    rw [Cut.text_cons, List.cons_append, stringTail, ih hlast]
    rfl
  | case3 s ih =>
    rw [Cut.text_cons, List.cons_append, stringTail, if_pos rfl, ih hlast]
    rfl
  -- the quote is the last byte taken, so what stands behind it is not looked at
  | case4 s hq =>
    rw [List.singleton_append, stringTail, if_neg hq, if_pos rfl]
    rfl
  | case5 b s hb hq ih =>
    rw [Cut.text_cons, List.cons_append, stringTail, if_neg hb, if_neg hq, ih hlast]
    rfl

/-- A regular expression stops behind its slash, or behind the line feed that breaks it off. -/
theorem regexTail_again {inClass escaped : Bool}
    (hlast : (regexTail inClass escaped s).rest = [] → t = []) :
    regexTail inClass escaped ((regexTail inClass escaped s).text ++ t) =
      (regexTail inClass escaped s).before t := by
  fun_induction regexTail inClass escaped s with
  | case1 inClass escaped =>
    rw [hlast rfl]
    cases escaped <;> rfl
  | case2 inClass b s ih =>
    rw [Cut.text_cons, List.cons_append, regexTail, ih hlast]
    rfl
  | case3 inClass s ih =>
    rw [Cut.text_cons, List.cons_append, regexTail, if_pos rfl, ih hlast]
    rfl
  | case4 inClass s hb =>
    -- also behind the line feed that breaks it off nothing is looked at
    rw [List.singleton_append, regexTail, if_neg hb, if_pos rfl]
    rfl
  | case5 inClass b s hb hl hs =>
    rw [List.singleton_append, regexTail, if_neg hb, if_neg hl, if_pos hs]
    rfl
  | case6 inClass s hb hl hs ih =>
    rw [Cut.text_cons, List.cons_append, regexTail, if_neg hb, if_neg hl, if_neg hs, if_pos rfl,
      ih hlast]
    rfl
  | case7 inClass s hb hl hs ho ih =>
    rw [Cut.text_cons, List.cons_append, regexTail, if_neg hb, if_neg hl, if_neg hs, if_neg ho,
      if_pos rfl, ih hlast]
    rfl
  | case8 inClass b s hb hl hs ho hc ih =>
    rw [Cut.text_cons, List.cons_append, regexTail, if_neg hb, if_neg hl, if_neg hs, if_neg ho,
      if_neg hc, ih hlast]
    rfl

/-- The first byte behind the opening mark is always taken. -/
theorem exists_text_regexTail (inClass escaped : Bool) (b : UInt8) (s : List UInt8) :
    ∃ u, (regexTail inClass escaped (b :: s)).text = b :: u := by
  cases escaped with
  | true => exact ⟨_, rfl⟩
  | false =>
    rw [regexTail]
    repeat' split
    all_goals exact ⟨_, rfl⟩

/-- The first byte behind the slash of a block comment is always taken. -/
theorem exists_text_blockTail (afterStar : Bool) (b : UInt8) (s : List UInt8) :
    ∃ u, (blockTail afterStar (b :: s)).text = b :: u := by
  rw [blockTail]
  split
  · exact ⟨_, rfl⟩
  · exact ⟨_, rfl⟩

theorem blockTail_again {afterStar : Bool} (hlast : (blockTail afterStar s).rest = [] → t = []) :
    blockTail afterStar ((blockTail afterStar s).text ++ t) = (blockTail afterStar s).before t := by
  fun_induction blockTail afterStar s with
  -- broken off by the end of the script; more bytes would go on with it
  | case1 =>
    rw [hlast rfl]
    rfl
  | case2 afterStar b s hb =>
    rw [List.singleton_append, blockTail, if_pos hb]
    rfl
  | case3 afterStar b s hb ih =>
    rw [Cut.text_cons, List.cons_append, blockTail, if_neg hb, ih hlast]
    rfl

end PageScan.Script
