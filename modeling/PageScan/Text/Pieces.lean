/-!
# Pieces between separators

`pieces` cuts a text at every occurrence of one character. A text without one is a single piece, and
pieces may be empty.
-/

namespace PageScan.Text

/-- The pieces of a text between separators, empty ones included. -/
def pieces (separator : Char) : List Char → List (List Char)
  | [] => [[]]
  | c :: cs =>
    if c = separator then [] :: pieces separator cs
    else
      match pieces separator cs with
      | p :: ps => (c :: p) :: ps
      | [] => [[c]]

/-- A text has at least one piece. -/
theorem pieces_ne_nil (separator : Char) (cs : List Char) : pieces separator cs ≠ [] := by
  cases cs with
  | nil => simp [pieces]
  | cons c cs =>
    rw [pieces]
    split
    · simp
    · split <;> simp

/-- The pieces are those of `List.splitOn`. -/
theorem pieces_eq_splitOn (separator : Char) (cs : List Char) :
    pieces separator cs = cs.splitOn separator := by
  induction cs with
  | nil => rw [pieces, List.splitOn_nil]
  | cons c cs ih =>
    obtain ⟨p, ps, hps⟩ := List.exists_cons_of_ne_nil (pieces_ne_nil separator cs)
    rw [pieces, List.splitOn_cons_eq_if_modifyHead, ← ih, hps]
    simp

end PageScan.Text
