/-!
# Sets of characters given by ranges

The tables of a Unicode property list its ranges in ascending order, each by its first and last
code point.
-/

namespace PageScan.Text

/-- Membership in a set that is given by ranges of code points, both ends included. -/
def inRanges (ranges : List (Nat × Nat)) (c : Char) : Bool :=
  ranges.any fun (first, last) => first ≤ c.toNat && c.toNat ≤ last

theorem inRanges_iff {ranges : List (Nat × Nat)} {c : Char} :
    inRanges ranges c = true ↔ ∃ r ∈ ranges, r.1 ≤ c.toNat ∧ c.toNat ≤ r.2 := by
  simp [inRanges]

end PageScan.Text
