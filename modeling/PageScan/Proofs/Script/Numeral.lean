import PageScan.Script.Numeral

/-!
# Numerals byte by byte

A numeral is cut off as a whole, as runs of digits around a dot. Read from the first byte on it is a
digit and the numeral behind it (`numeral_digit`), or a dot and a run of digits (`numeral_dot`).
From this it follows when a dot stands alone (`numeral_text_eq_dot_iff`) and that no numeral has
two (`count_dot_numeral`).
-/

namespace PageScan.Script

theorem Cut.run_nil (p : UInt8 → Bool) : run p [] = ⟨[], [], true⟩ := rfl

theorem Cut.run_cons (p : UInt8 → Bool) (b : UInt8) (s : List UInt8) :
    run p (b :: s) = if p b then (run p s).cons b else ⟨[], b :: s, true⟩ := by
  unfold run
  cases hp : p b <;> simp [hp, Cut.cons]

/-- A digit in front is taken, and then the rule goes on as before. -/
theorem numeral_digit {b : UInt8} (hb : isDigit b = true) (s : List UInt8) :
    numeral (b :: s) = (numeral s).cons b := by
  unfold numeral
  dsimp only
  -- one more digit in front makes the first run longer, and what stops it stays the same
  rw [Cut.run_cons, if_pos hb]
  simp only [Cut.rest_cons, Cut.text_cons]
  split
  · split <;> rfl
  · rfl

theorem numeral_dot (s : List UInt8) : numeral (dot :: s) = (Cut.run isDigit s).cons dot := by
  have hd : isDigit dot = false := rfl
  simp [numeral, hd, Cut.run, Cut.cons]

/-- A dot that no digit follows is taken alone. -/
theorem numeral_loneDot {rest : List UInt8} (hr : rest.head?.any isDigit = false) :
    numeral (dot :: rest) = ⟨[dot], rest, true⟩ := by
  rw [numeral_dot]
  cases rest with
  | nil => rfl
  | cons b s =>
    have hb : isDigit b = false := hr
    rw [Cut.run_cons, hb, if_neg Bool.false_ne_true]
    rfl

/-- At any other byte nothing is taken. -/
theorem numeral_other {b : UInt8} (hb : isDigit b = false) (hdot : b ≠ dot) (s : List UInt8) :
    numeral (b :: s) = ⟨[], b :: s, true⟩ := by
  simp [numeral, hb, hdot, Cut.run]

/-- A dot is cut off alone when no digit follows, and only then. -/
theorem numeral_text_eq_dot_iff {b : UInt8} {rest : List UInt8} :
    (numeral (b :: rest)).text = [dot] ↔ b = dot ∧ rest.head?.any isDigit = false := by
  by_cases hb : b = dot
  · subst hb
    rw [numeral_dot]
    cases rest with
    | nil => simp
    | cons c s => cases hc : isDigit c <;> simp [hc]
  · -- a numeral that begins with a digit is not the dot
    cases hd : isDigit b with
    | false => simp [numeral_other hd hb, hb]
    | true => simp [numeral_digit hd, hb]

theorem count_dot_takeWhile (s : List UInt8) : (s.takeWhile isDigit).count dot = 0 := by
  rw [List.count_eq_zero]
  intro h
  have hd : isDigit dot = true := List.all_eq_true.1 List.all_takeWhile dot h
  exact absurd hd (by decide)

/-- A numeral has no second dot. -/
theorem count_dot_numeral (s : List UInt8) : (numeral s).text.count dot ≤ 1 := by
  unfold numeral
  dsimp only
  split
  · split
    · next hb => simp [hb, count_dot_takeWhile]
    · simp [count_dot_takeWhile]
  · simp [count_dot_takeWhile]

end PageScan.Script
