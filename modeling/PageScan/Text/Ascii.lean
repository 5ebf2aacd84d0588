/-!
# Names without regard to ASCII case

Tag names, attribute names and `rel` tokens are compared ignoring the case of the letters
`A` to `Z` only: `É` and `é` are different names, and so are the Kelvin sign and `k`. The
comparison is equality of folded spellings, which makes it an equivalence relation at once
(`sameName_iff`).
-/

namespace PageScan.Text

/-- The folded spelling of a name: every letter `A` to `Z` becomes its small letter and every
other character stays. -/
def fold (s : String) : List Char := s.toList.map Char.toLower

/-- **Sameness of names.** Two names are the same when their folded spellings are equal. -/
def sameName (a b : String) : Bool := fold a == fold b

theorem sameName_iff {a b : String} : sameName a b = true ↔ fold a = fold b := by
  simp [sameName]

@[simp] theorem sameName_refl (a : String) : sameName a a = true := by simp [sameName]

theorem sameName_comm (a b : String) : sameName a b = sameName b a := by
  simp only [sameName, Bool.beq_comm]

theorem sameName_trans {a b c : String} (hab : sameName a b = true) (hbc : sameName b c = true) :
    sameName a c = true := by
  rw [sameName_iff] at *
  exact hab.trans hbc

end PageScan.Text
