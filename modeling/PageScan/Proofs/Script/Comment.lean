import PageScan.Script.Comment

/-!
# The end of a block comment

A block comment ends behind a star and a slash. The rule for it remembers whether the byte before
was a star; the statements here speak of the two bytes instead. A comment that is cut off complete
ends with them (`blockTail_of_closed`), and one that holds them anywhere is complete there at the
latest (`blockTail_of_pair`); an incomplete one has no more of the script behind it.
-/

namespace PageScan.Script

/-- The two bytes that end a block comment. -/
def blockClosing : List UInt8 := [star, slash]

/-- A complete comment ends with a slash behind a star; the star may be the byte before the tail. -/
theorem blockTail_of_closed {afterStar : Bool} {s : List UInt8}
    (h : (blockTail afterStar s).closed = true) :
    ((blockTail afterStar s).text = [slash] ∧ afterStar = true) ∨
      blockClosing <:+ (blockTail afterStar s).text := by
  fun_induction blockTail afterStar s with
  | case1 => exact absurd h Bool.false_ne_true
  | case2 afterStar b s hb => exact .inl ⟨by rw [hb.1], hb.2⟩
  | case3 afterStar b s hb ih =>
    right
    rcases ih h with ⟨htext, hstar⟩ | hsuffix
    · -- the slash stands right behind this byte, which therefore is the star
      rw [Cut.text_cons, htext, eq_of_beq hstar]
      exact List.suffix_rfl
    · exact hsuffix.trans (List.suffix_cons b _)

theorem getLast?_blockTail_of_closed {afterStar : Bool} {s : List UInt8}
    (h : (blockTail afterStar s).closed = true) :
    (blockTail afterStar s).text.getLast? = some slash := by
  rcases blockTail_of_closed h with ⟨htext, -⟩ | ⟨before, htext⟩
  · rw [htext, List.getLast?_singleton]
  · rw [← htext, List.getLast?_append, blockClosing, List.getLast?_cons_cons,
      List.getLast?_singleton, Option.some_or]

/-- A comment that holds the closing pair is complete, and goes no further than to that pair. -/
theorem blockTail_of_pair {afterStar : Bool} (before rest : List UInt8) :
    (blockTail afterStar (before ++ blockClosing ++ rest)).closed = true ∧
      (blockTail afterStar (before ++ blockClosing ++ rest)).text.length ≤ before.length + 2 := by
  induction before generalizing afterStar with
  | nil =>
    have hstar : star ≠ slash := by decide
    simp [blockClosing, blockTail, hstar]
  | cons b before ih =>
    rw [List.cons_append, List.cons_append, blockTail]
    -- the comment may be complete even earlier
    split
    · exact ⟨rfl, Nat.succ_le_succ (Nat.zero_le _)⟩
    · obtain ⟨hclosed, hlen⟩ := ih
      exact ⟨hclosed, Nat.succ_le_succ hlen⟩

/-- Behind a comment that is not closed nothing is left. -/
theorem blockTail_rest_of_not_closed {afterStar : Bool} {s : List UInt8}
    (h : (blockTail afterStar s).closed = false) : (blockTail afterStar s).rest = [] := by
  fun_induction blockTail afterStar s with
  | case1 => rfl
  | case2 => exact absurd h (by simp)
  | case3 afterStar b s hb ih => exact ih h

/-- A comment that is not closed takes all bytes. -/
theorem blockTail_text_of_not_closed {afterStar : Bool} {s : List UInt8}
    (h : (blockTail afterStar s).closed = false) : (blockTail afterStar s).text = s := by
  have hcut := blockTail_text_append_rest afterStar s
  rwa [blockTail_rest_of_not_closed h, List.append_nil] at hcut

/-- The closing pair alone closes a comment that is not closed. -/
theorem blockTail_append_closing {afterStar : Bool} {s : List UInt8}
    (h : (blockTail afterStar s).closed = false) :
    blockTail afterStar (s ++ blockClosing) = ⟨s ++ blockClosing, [], true⟩ := by
  fun_induction blockTail afterStar s with
  | case1 afterStar =>
    have hstar : star ≠ slash := by decide
    simp [blockClosing, blockTail, hstar, Cut.cons]
  | case2 => exact Bool.noConfusion h
  | case3 afterStar b s hb ih =>
    rw [List.cons_append, blockTail, if_neg hb, ih h]
    rfl

/-- A line comment does not begin like a block comment. -/
theorem not_prefix_lineComment {b c : UInt8} {s : List UInt8} (hb : isLineSeparator b = false)
    (hc : isLineSeparator c = false) (h : b ≠ slash ∨ c ≠ star) :
    ¬[slash, star] <+: (lineComment (b :: c :: s)).text := by
  -- its first two bytes are no separators, and so they are in it
  have htext : (lineComment (b :: c :: s)).text = b :: c :: s.takeWhile (!isLineSeparator ·) := by
    simp [lineComment, hb, hc]
  rw [htext]
  intro hp
  obtain ⟨hslash, hp⟩ := List.cons_prefix_cons.1 hp
  obtain ⟨hstar, -⟩ := List.cons_prefix_cons.1 hp
  exact h.elim (· hslash.symm) (· hstar.symm)

/-- The opening mark is part of the comment. -/
theorem markupOpening_prefix_lineComment {s : List UInt8} (h : markupOpening <+: s) :
    markupOpening <+: (lineComment s).text := by
  obtain ⟨u, rfl⟩ := h
  exact ⟨u.takeWhile (!isLineSeparator ·), rfl⟩

end PageScan.Script
