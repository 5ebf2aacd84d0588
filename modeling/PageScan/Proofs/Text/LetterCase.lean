import PageScan.Text.Ascii
import PageScan.Text.Blank

/-!
# Capital and small letters

The letters of ASCII come in two cases, and the small letter stands 32 places behind its capital
(`CasePair`). No other character has a small letter of its own here. So two characters have the same
small letter when they are the same or the two cases of one letter (`toLower_eq_toLower_iff`).

What is no letter is the small letter of nothing but itself (`toLower_eq_iff`). In particular a text
has its spaces, its blanks and its hyphens in the same places when it is made small.
-/

namespace PageScan.Text

variable {a b c d : Char}

/-- **The two cases of a letter** from `A` to `Z`. -/
def CasePair (capital small : Char) : Prop :=
  'A' ≤ capital ∧ capital ≤ 'Z' ∧ small.toNat = capital.toNat + 32

/-- **The same character but for its case.** -/
inductive SameButCase : Char → Char → Prop
  | refl (c : Char) : SameButCase c c
  | small {c d : Char} (h : CasePair c d) : SameButCase c d
  | capital {c d : Char} (h : CasePair c d) : SameButCase d c

theorem SameButCase.symm (h : SameButCase c d) : SameButCase d c := by
  cases h with
  | refl => exact .refl _
  | small h => exact .capital h
  | capital h => exact .small h

theorem casePair_iff : CasePair c d ↔ 65 ≤ c.toNat ∧ c.toNat ≤ 90 ∧ d.toNat = c.toNat + 32 :=
  Iff.rfl

/-- The number of the small letter: 32 more for a capital, and the same for all others. -/
theorem toNat_toLower (c : Char) :
    c.toLower.toNat = if 65 ≤ c.toNat ∧ c.toNat ≤ 90 then c.toNat + 32 else c.toNat := by
  unfold Char.toLower
  split
  · next hcapital =>
    have hrange : 65 ≤ c.toNat ∧ c.toNat ≤ 90 := hcapital
    rw [if_pos hrange]
    -- so near the beginning the sum does not wrap around
    change (c.val + 32).toNat = c.val.toNat + 32
    rw [UInt32.toNat_add]
    change (c.toNat + 32) % 4294967296 = c.toNat + 32
    omega
  · next hother =>
    have hrange : ¬(65 ≤ c.toNat ∧ c.toNat ≤ 90) := hother
    rw [if_neg hrange]

/-- **Two characters have the same small letter** when they differ in their case at most. -/
theorem toLower_eq_toLower_iff : a.toLower = b.toLower ↔ SameButCase a b := by
  rw [← Char.toNat_inj, toNat_toLower, toNat_toLower]
  constructor
  · intro h
    -- a small letter is either the character itself or 32 places behind it
    by_cases ha : 65 ≤ a.toNat ∧ a.toNat ≤ 90
    · by_cases hb : 65 ≤ b.toNat ∧ b.toNat ≤ 90
      · rw [if_pos ha, if_pos hb] at h
        obtain rfl : a = b := Char.toNat_inj.1 (by omega)
        exact .refl a
      · rw [if_pos ha, if_neg hb] at h
        exact .small (casePair_iff.2 ⟨ha.1, ha.2, h.symm⟩)
    · by_cases hb : 65 ≤ b.toNat ∧ b.toNat ≤ 90
      · rw [if_neg ha, if_pos hb] at h
        exact .capital (casePair_iff.2 ⟨hb.1, hb.2, h⟩)
      · rw [if_neg ha, if_neg hb] at h
        obtain rfl : a = b := Char.toNat_inj.1 h
        exact .refl a
  · intro h
    cases h with
    | refl => rfl
    | small h | capital h =>
      rw [casePair_iff] at h
      split <;> split <;> omega

/-- Only the letters from `A` to `Z` have small letters of their own. -/
theorem toLower_eq_self (hc : c.toNat < 65 ∨ 90 < c.toNat) : c.toLower = c := by
  rw [← Char.toNat_inj, toNat_toLower, if_neg (by omega)]

/-- A character that is no letter is the small letter of itself alone. -/
theorem toLower_eq_iff (hd : d.isAlpha = false) : c.toLower = d ↔ c = d := by
  obtain ⟨hupper, hlower⟩ : d.isUpper = false ∧ d.isLower = false := Bool.or_eq_false_iff.1 hd
  have hcapital : ¬(65 ≤ d.toNat ∧ d.toNat ≤ 90) := of_decide_eq_false hupper
  -- nor is it a small letter, so it is not 32 places behind any capital
  have hsmall : ¬(97 ≤ d.toNat ∧ d.toNat ≤ 122) := by
    rintro ⟨hfirst, hlast⟩
    have htrue : d.isLower = true :=
      Bool.and_eq_true_iff.2 ⟨decide_eq_true hfirst, decide_eq_true hlast⟩
    exact Bool.false_ne_true (hlower.symm.trans htrue)
  rw [← Char.toNat_inj, ← Char.toNat_inj, toNat_toLower]
  split <;> omega

/-- Letters, and the few characters between their cases, are not blank. -/
theorem not_isBlank_of_letter (hfirst : 65 ≤ c.toNat) (hlast : c.toNat ≤ 122) :
    isBlank c = false := by
  rw [Bool.eq_false_iff]
  intro hblank
  simp only [isBlank, Bool.or_eq_true, Bool.and_eq_true, decide_eq_true_eq, beq_iff_eq] at hblank
  omega

/-- A blank has no case, and no letter is blank in either case. -/
@[simp] theorem isBlank_toLower (c : Char) : isBlank c.toLower = isBlank c := by
  by_cases hc : 65 ≤ c.toNat ∧ c.toNat ≤ 90
  · have hsmall : c.toLower.toNat = c.toNat + 32 := by rw [toNat_toLower, if_pos hc]
    rw [not_isBlank_of_letter (by omega) (by omega), not_isBlank_of_letter hc.1 (by omega)]
  · rw [toLower_eq_self (by omega)]

end PageScan.Text
