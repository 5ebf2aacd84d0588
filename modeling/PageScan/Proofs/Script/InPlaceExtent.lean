import PageScan.Script.InPlace
import PageScan.Proofs.Script.Numeral

/-!
# The loop over offsets and the rules for the kinds of tokens

The lexer in place finds the end of every token with one loop, and what it remembers between two
looks are its marks. The rules that cut bytes off a script (`stringTail`, `blockTail` and so on)
remember in their arguments what they are in the middle of.

Between the two stands `Extent.tail`. It reads the bytes behind the first byte of a token off a
list, as the rules do, but with the marks of the lexer in place. The loop agrees with it whatever
the extent (`consume_eq`), and for each extent it is one of the rules (`Extent.tail_string` and the
like), because the marks hold what the rule has as arguments.
-/

namespace PageScan.Script

/-- **The bytes behind the first of a token,** read off the list of them. -/
def Extent.tail (e : Extent) : Marks → List UInt8 → Cut
  | m, [] => ⟨[], [], e.mayMeetEnd && !m.malformed⟩
  | m, b :: s =>
    match m.goesOn b e with
    | (true, m') => (e.tail { m' with previous := b } s).cons b
    | (false, m') => if e.takesStop then ⟨[b], s, !m'.malformed⟩ else ⟨[], b :: s, !m'.malformed⟩

/-! ### What a look at a byte leaves alone -/

namespace Marks

theorem afterValue_takesEscape (m : Marks) (b : UInt8) :
    (m.takesEscape b).2.afterValue = m.afterValue := by
  unfold takesEscape
  split
  · rfl
  · split <;> rfl

/-- No look at a byte changes whether a value may end. -/
theorem afterValue_goesOn (m : Marks) (b : UInt8) (e : Extent) :
    (m.goesOn b e).2.afterValue = m.afterValue := by
  cases e with
  | space | lineSeparator | blockComment | lineComment => rfl
  | number =>
    simp only [goesOn, inNumber]
    repeat' split
    all_goals rfl
  | word => exact m.afterValue_takesEscape b
  | string => exact m.afterValue_takesEscape b
  | regex =>
    rw [← m.afterValue_takesEscape b]
    simp only [goesOn, inRegex]
    repeat' split
    all_goals rfl
  | operator =>
    simp only [goesOn, inOperator]
    split <;> rfl

/-- A look at a byte of a regular expression that no backslash has to do with. -/
theorem inRegex_of_plain (m : Marks) {b : UInt8} (h : m.escaped = false) (hb : b ≠ backslash) :
    m.inRegex b =
      if b = slash then (m.inClass, m)
      else if b = openBracket then (true, { m with inClass := true })
      else if b = closeBracket then (true, { m with inClass := false })
      else if b = lineFeed then (false, { m with malformed := true })
      else (true, m) := by
  simp [inRegex, takesEscape, h, hb]

end Marks

/-! ### The loop over offsets -/

section Loop

variable {script : List UInt8} {b : UInt8} {s : List UInt8}

/-- An offset with bytes behind it is one at which a byte is found. -/
theorem getElem?_of_drop_eq_cons {offset : Nat} (h : script.drop offset = b :: s) :
    offset < script.length ∧ script[offset]? = some b ∧ script.drop (offset + 1) = s := by
  refine ⟨?_, ?_, ?_⟩
  · rw [← Nat.not_le, ← List.drop_eq_nil_iff, h]
    exact List.cons_ne_nil b s
  · rw [← List.head?_drop, h, List.head?_cons]
  · rw [← List.tail_drop, h, List.tail_cons]

/-- The loop ends where the list says. -/
theorem advance_settle (e : Extent) {offset : Nat} (hs : script.drop offset = s)
    (ho : offset ≤ script.length) (m : Marks) :
    ∃ stop m₁ m₂, advance script e offset m = some (stop, m₁) ∧
      settle script e stop m₁ = (offset + (e.tail m s).text.length, m₂) ∧
      m₂.afterValue = m.afterValue ∧ m₂.malformed = !(e.tail m s).closed := by
  induction s generalizing offset m with
  | nil =>
    -- the script ends inside the token, or right behind it
    have hlen : offset = script.length := Nat.le_antisymm ho (List.drop_eq_nil_iff.1 hs)
    refine ⟨offset, m, if e.mayMeetEnd then m else { m with malformed := true }, ?_, ?_, ?_, ?_⟩
    · rw [advance, if_neg (by omega)]
    · simp [settle, hlen, Extent.tail]
    · split <;> rfl
    · cases hend : e.mayMeetEnd <;> simp [Extent.tail, hend]
  | cons b s ih =>
    obtain ⟨hlt, hb, hs'⟩ := getElem?_of_drop_eq_cons hs
    have hkept := m.afterValue_goesOn b e
    cases hg : m.goesOn b e with
    | mk goes m' =>
      rw [hg] at hkept
      -- the loop goes on with the next byte, or stops in front of this one
      cases goes with
      | true =>
        obtain ⟨stop, m₁, m₂, hadv, hset, hval, hmal⟩ := ih hs' hlt { m' with previous := b }
        refine ⟨stop, m₁, m₂, ?_, ?_, hval.trans hkept, ?_⟩
        · rw [advance, if_pos hlt, hb]
          simpa [hg] using hadv
        · rw [hset, Extent.tail, hg]
          simp [Nat.add_assoc, Nat.add_comm 1]
        · rw [hmal, Extent.tail, hg]
          rfl
      | false =>
        -- a byte is left, so stopping here is not stopping at the end
        have hne : offset ≠ script.length := Nat.ne_of_lt hlt
        refine ⟨offset, m', m', ?_, ?_, hkept, ?_⟩
        · rw [advance, if_pos hlt, hb]
          simp [hg]
        · rw [settle, if_neg hne, Extent.tail, hg]
          cases e.takesStop <;> rfl
        · rw [Extent.tail, hg]
          cases e.takesStop <;> simp

/-- **The loop takes one token:** its first byte and the tail behind it. -/
theorem consume_eq (e : Extent) {m : Marks} {c : Cut} (hs : script.drop m.index = b :: s)
    (hc : (e.tail { m with previous := b } s).cons b = c) :
    ∃ m', consume script e m = some (⟨m.index, m.index + c.text.length⟩, m') ∧
      m'.index = m.index + c.text.length ∧ m'.afterValue = m.afterValue ∧
      m'.malformed = !c.closed := by
  obtain ⟨hlt, hb, hs'⟩ := getElem?_of_drop_eq_cons hs
  obtain ⟨stop, m₁, m₂, hadv, hset, hval, hmal⟩ :=
    advance_settle e hs' hlt { m with previous := b }
  -- the first byte is taken without a look, and the loop begins behind it
  subst hc
  have hlen : m.index + 1 + (e.tail { m with previous := b } s).text.length =
      m.index + ((e.tail { m with previous := b } s).cons b).text.length := by
    rw [Cut.text_cons, List.length_cons]
    omega
  rw [hlen] at hset
  refine ⟨{ m₂ with index := m.index + ((e.tail { m with previous := b } s).cons b).text.length },
    ?_, rfl, hval, hmal⟩
  simp [consume, hb, hadv, hset]

end Loop

/-! ### Each extent is a rule -/

namespace Extent

variable {m : Marks}

/-- An extent that looks at nothing but the byte is a run. -/
theorem tail_run {e : Extent} {p : UInt8 → Bool}
    (hp : ∀ (m : Marks) (b : UInt8), m.goesOn b e = (p b, m)) (hend : e.mayMeetEnd = true)
    (hstop : e.takesStop = false) (hm : m.malformed = false) (s : List UInt8) :
    e.tail m s = Cut.run p s := by
  induction s generalizing m with
  | nil => simp [tail, hend, hm, Cut.run_nil]
  | cons b s ih =>
    rw [tail, hp, Cut.run_cons]
    cases p b with
    | true => simpa using congrArg (Cut.cons b) (ih (m := { m with previous := b }) hm)
    | false => simp [hstop, hm]

/-- The loop over a string is the rule for strings: the marks hold the quote, and whether a
backslash came before. -/
theorem tail_string (hm : m.malformed = false) (s : List UInt8) :
    tail .string m s = stringTail m.opening m.escaped s := by
  induction s generalizing m with
  | nil => cases h : m.escaped <;> simp [tail, stringTail, mayMeetEnd]
  | cons b s ih =>
    rw [tail]
    cases h : m.escaped with
    | true => simp [Marks.goesOn, Marks.inString, Marks.takesEscape, h, stringTail, ih, hm]
    | false =>
      by_cases hb : b = backslash
      · simp [Marks.goesOn, Marks.inString, Marks.takesEscape, h, hb, stringTail, ih, hm]
      -- neither escaped nor a backslash, the byte is compared with the quote
      have hgoes : m.goesOn b .string = (b != m.opening, m) := by
        simp [Marks.goesOn, Marks.inString, Marks.takesEscape, h, hb]
      rw [hgoes, stringTail, if_neg hb]
      by_cases hq : b = m.opening
      · simp [hq, hm, takesStop]
      · rw [bne_iff_ne.2 hq, if_neg hq, ← h]
        exact congrArg (Cut.cons b) (ih (m := { m with previous := b }) hm)

/-- The loop over a regular expression is the rule for regular expressions: the marks hold the class
and the backslash. -/
theorem tail_regex (hm : m.malformed = false) (s : List UInt8) :
    tail .regex m s = regexTail m.inClass m.escaped s := by
  induction s generalizing m with
  | nil => cases h : m.escaped <;> simp [tail, regexTail, mayMeetEnd]
  | cons b s ih =>
    rw [tail]
    cases h : m.escaped with
    | true => simp [Marks.goesOn, Marks.inRegex, Marks.takesEscape, h, regexTail, ih, hm]
    | false =>
      by_cases hb : b = backslash
      · simp [Marks.goesOn, Marks.inRegex, Marks.takesEscape, h, hb, regexTail, ih, hm]
      -- the two ask for the remaining bytes in different orders
      rw [show m.goesOn b .regex = _ from m.inRegex_of_plain h hb, regexTail, if_neg hb]
      by_cases hs : b = slash
      · cases hc : m.inClass <;>
          simp [hs, slash, lineFeed, openBracket, closeBracket, takesStop, hm, hc, ih, h]
      by_cases hl : b = lineFeed
      · simp [hl, lineFeed, openBracket, closeBracket, slash, takesStop]
      by_cases ho : b = openBracket
      · simp [ho, openBracket, slash, lineFeed, ih, hm, h]
      by_cases hc : b = closeBracket
      · simp [hc, closeBracket, openBracket, slash, lineFeed, ih, hm, h]
      · simp [hs, hl, ho, hc, ih, hm, h]

/-- The loop over a block comment is the rule for block comments: the marks hold the byte that was
looked at last, which may be the star. -/
theorem tail_blockComment (hm : m.malformed = false) (s : List UInt8) :
    tail .blockComment m s = blockTail (m.previous == star) s := by
  induction s generalizing m with
  | nil => rfl
  | cons b s ih =>
    rw [tail, blockTail]
    by_cases h : b = slash ∧ (m.previous == star) = true
    · simp [Marks.goesOn, h, takesStop, hm]
    · -- any other byte is taken; what is remembered is only the byte itself
      have hgoes : m.goesOn b .blockComment = (true, m) := by
        simp only [Marks.goesOn, Prod.mk.injEq, and_true]
        grind
      rw [if_neg h, ← ih (m := { m with previous := b }) hm, hgoes]

/-- The loop over a word is the rule for words: the marks hold the backslash. -/
theorem tail_word (hm : m.malformed = false) (s : List UInt8) :
    tail .word m s = wordTail m.escaped s := by
  induction s generalizing m with
  | nil => cases h : m.escaped <;> simp [tail, wordTail, mayMeetEnd, hm]
  | cons b s ih =>
    rw [tail]
    cases h : m.escaped with
    | true => simp [Marks.goesOn, Marks.inWord, Marks.takesEscape, h, wordTail, ih, hm]
    | false =>
      by_cases hb : b = backslash
      · simp [Marks.goesOn, Marks.inWord, Marks.takesEscape, h, hb, wordTail, ih, hm]
      cases hw : isWordStart b || isDigit b <;>
        simp [Marks.goesOn, Marks.inWord, Marks.takesEscape, h, hb, hw, wordTail, takesStop, ih, hm]

/-- The loop over an operator is the rule for operators, since no third byte goes on with a pair. -/
theorem tail_operator (hm : m.malformed = false) (s : List UInt8) :
    tail .operator m s = operatorTail m.opening s := by
  cases s with
  | nil => simp [tail, operatorTail, mayMeetEnd, hm]
  | cons b s =>
    rw [tail, operatorTail]
    cases h : isOperatorPair m.opening b with
    | false => simp [Marks.goesOn, Marks.inOperator, h, takesStop, hm]
    | true =>
      -- the pair is complete: with its first byte wiped out, no pair goes on
      have hnone (c : UInt8) : isOperatorPair 0 c = false := by
        simp [isOperatorPair, plus, minus, star, slash]
      cases s with
      | nil => simp [Marks.goesOn, Marks.inOperator, h, tail, mayMeetEnd, hm, Cut.cons]
      | cons c s => simp [Marks.goesOn, Marks.inOperator, h, hnone, tail, takesStop, hm, Cut.cons]

/-- Behind its dot a numeral is a run of digits, for a second dot ends the loop as any other byte
does. -/
theorem tail_fraction (hm : m.malformed = false) (hd : m.seenDot = true) (s : List UInt8) :
    tail .number m s = Cut.run isDigit s := by
  induction s generalizing m with
  | nil => simp [tail, mayMeetEnd, hm, Cut.run_nil]
  | cons b s ih =>
    have hgoes : m.goesOn b .number = (isDigit b, m) := by
      by_cases hb : b = dot
      · simp [Marks.goesOn, Marks.inNumber, hb, hd, isDigit, dot]
      · simp [Marks.goesOn, Marks.inNumber, hb]
    rw [tail, hgoes, Cut.run_cons]
    cases isDigit b with
    | true => simpa using congrArg (Cut.cons b) (ih (m := { m with previous := b }) hm hd)
    | false => simp [takesStop, hm]

/-- The loop over a numeral is the rule for numerals: the marks hold whether there was a dot. -/
theorem tail_number (hm : m.malformed = false) (hd : m.seenDot = false) (s : List UInt8) :
    tail .number m s = numeral s := by
  induction s generalizing m with
  | nil => simp [tail, mayMeetEnd, hm, numeral, Cut.run]
  | cons b s ih =>
    rw [tail]
    by_cases hb : b = dot
    · -- behind its dot a numeral is a run of digits
      have hgoes : m.goesOn b .number = (true, { m with seenDot := true }) := by
        simp [Marks.goesOn, Marks.inNumber, hb, hd]
      rw [hgoes, hb, numeral_dot]
      exact congrArg (Cut.cons dot)
        (tail_fraction (m := { m with seenDot := true, previous := dot }) hm rfl s)
    · have hgoes : m.goesOn b .number = (isDigit b, m) := by
        simp [Marks.goesOn, Marks.inNumber, hb]
      rw [hgoes]
      cases hdig : isDigit b with
      | true =>
        rw [numeral_digit hdig]
        exact congrArg (Cut.cons b) (ih (m := { m with previous := b }) hm hd)
      | false => simp [takesStop, hm, numeral_other hdig hb]

end Extent

end PageScan.Script
