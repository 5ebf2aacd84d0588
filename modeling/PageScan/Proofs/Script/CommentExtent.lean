import PageScan.Proofs.Script.Comment
import PageScan.Proofs.Script.Site
import PageScan.Proofs.Script.Stopping

/-!
# How far comments reach

The three forms of comments are one kind of token, and they end in different ways. A block comment
ends behind a pair of bytes, with which it must not be over before its opening slash is
(`BlockExtent`). Comments of the other two forms end in front of a byte, which is no part of them
(`LineExtent`), and so what comes behind them is a line separator or nothing.

Either way it is the first of the offsets in question that counts. That a rule stops there at the
latest is a property of the rule, and that it does not stop earlier is one of the bytes at which it
stops (`blockTail_of_isLeast`, `Site.lineExtent`). `comment_extent` is the statement for all
tokens of a script.
-/

namespace PageScan.Script

variable {script : List UInt8} {t : Token} {afterValue : Bool} {b : UInt8} {rest : List UInt8}

/-! ### Block comments -/

/-- **The extent of a block comment.** It ends behind the first star and slash whose star stands
behind the opening slash. Without such a pair it goes to the end of the script and is malformed. -/
structure BlockExtent (script : List UInt8) (t : Token) (malformed : Prop) : Prop where
  toPair : ∀ n, IsLeast {i | t.span.start + 1 ≤ i ∧ blockClosing <+: script.drop i} n →
    t.span.stop = n + 2 ∧ ¬malformed
  toEnd : (∀ i, t.span.start + 1 ≤ i → ¬blockClosing <+: script.drop i) →
    t.span.stop = script.length ∧ malformed

/-- A complete block comment ends with a pair that stands in the bytes it was cut off from. -/
theorem exists_pair_of_closed {s : List UInt8} (h : (blockTail false s).closed = true) :
    ∃ i, blockClosing <+: s.drop i ∧ (blockTail false s).text.length = i + 2 := by
  have hparts := blockTail_text_append_rest false s
  rcases blockTail_of_closed h with ⟨-, hstar⟩ | ⟨before, hbefore⟩
  · exact absurd hstar Bool.false_ne_true
  · refine ⟨before.length, ?_, ?_⟩
    · rw [← hparts, ← hbefore, List.append_assoc, List.drop_left]
      exact List.prefix_append _ _
    · rw [← hbefore, List.length_append]
      rfl

/-- The rule for block comments stops behind the first closing pair of what it reads. -/
theorem blockTail_of_isLeast {s : List UInt8} {n : ℕ}
    (hn : IsLeast {i | blockClosing <+: s.drop i} n) :
    (blockTail false s).closed = true ∧ (blockTail false s).text.length = n + 2 := by
  obtain ⟨⟨u, hu⟩, hleast⟩ := hn
  -- the bytes in front of the pair, the pair, and what is behind it
  have hs : s.take n ++ blockClosing ++ u = s := by
    rw [List.append_assoc, hu, List.take_append_drop]
  obtain ⟨hclosed, hle⟩ := @blockTail_of_pair false (s.take n) u
  rw [hs] at hclosed hle
  obtain ⟨i, hi, hlen⟩ := exists_pair_of_closed hclosed
  -- not earlier, since a complete comment ends with a pair, and that one is not before the least
  have hge : n ≤ i := hleast hi
  have htake : (s.take n).length ≤ n := List.length_take_le n s
  exact ⟨hclosed, by omega⟩

theorem not_closed_blockTail {s : List UInt8} (h : ∀ i, ¬blockClosing <+: s.drop i) :
    (blockTail false s).closed = false := by
  rw [Bool.eq_false_iff]
  intro hclosed
  obtain ⟨i, hi, -⟩ := exists_pair_of_closed hclosed
  exact h i hi

/-- **A block comment where it stands** reaches as far as its first closing pair. -/
theorem Site.blockExtent (h : Site script t afterValue slash rest)
    (hlexeme : lexeme afterValue slash rest = ⟨(blockTail false rest).cons slash, .comment⟩) :
    BlockExtent script t ((tokenize script).malformedToken? = some t) := by
  have hstop : t.span.stop = t.span.start + ((blockTail false rest).text.length + 1) := by
    rw [h.stop, h.text, hlexeme]
    rfl
  have hmalformed : (tokenize script).malformedToken? = some t ↔
      (blockTail false rest).closed = false := by
    rw [h.malformed_iff, hlexeme]
    rfl
  -- behind the opening slash the script goes on with what the rule reads
  have hdrop (i : ℕ) : script.drop (i + (t.span.start + 1)) = rest.drop i := by
    rw [← Nat.add_assoc, Nat.add_right_comm, h.drop_add_start]
    rfl
  constructor
  · intro n hn
    obtain ⟨m, rfl⟩ := Nat.exists_eq_add_of_le' hn.1.1
    rw [isLeast_add_iff (p := fun i => blockClosing <+: script.drop i)] at hn
    simp only [hdrop] at hn
    obtain ⟨hclosed, hlen⟩ := blockTail_of_isLeast hn
    rw [hmalformed, hclosed, hstop, hlen]
    exact ⟨by omega, Bool.noConfusion⟩
  · intro hnone
    have hopen : (blockTail false rest).closed = false := by
      refine not_closed_blockTail fun i => ?_
      rw [← hdrop i]
      exact hnone _ (Nat.le_add_left _ i)
    have hrest : (lexeme afterValue slash rest).rest = [] := by
      rw [hlexeme]
      exact blockTail_rest_of_not_closed hopen
    exact ⟨h.stop_eq_length hrest, hmalformed.2 hopen⟩

/-! ### Line comments -/

/-- **The extent of a line comment.** It holds no line separator, and ends in front of the first one
behind its start, or at the end of the script if there is none. -/
structure LineExtent (script : List UInt8) (t : Token) : Prop where
  noSeparator : ∀ c ∈ t.text, isLineSeparator c = false
  toSeparator : ∀ n, IsLeast {i | t.span.start ≤ i ∧
    ∃ c, script[i]? = some c ∧ isLineSeparator c = true} n → t.span.stop = n
  toEnd : (∀ i c, t.span.start ≤ i → script[i]? = some c → isLineSeparator c = false) →
    t.span.stop = script.length

/-- The byte behind a line comment is a line separator. -/
theorem Site.isLineSeparator_stop (h : Site script t afterValue b rest)
    (hlexeme : lexeme afterValue b rest = ⟨lineComment (b :: rest), .comment⟩) {c : UInt8}
    (hc : script[t.span.stop]? = some c) : isLineSeparator c = true := by
  rw [← List.head?_drop, h.drop_stop, hlexeme] at hc
  exact lineComment_stop (b :: rest) c hc

/-- **A line comment where it stands** reaches as far as the next line separator. -/
theorem Site.lineExtent (h : Site script t afterValue b rest)
    (hlexeme : lexeme afterValue b rest = ⟨lineComment (b :: rest), .comment⟩) :
    LineExtent script t := by
  have hinside : ∀ c ∈ t.text, isLineSeparator c = false := by
    intro c hc
    rw [h.text, hlexeme] at hc
    simpa using List.all_eq_true.1 List.all_takeWhile c hc
  have hstop : t.span.start ≤ t.span.stop := by
    rw [h.stop]
    exact Nat.le_add_right _ _
  refine ⟨hinside, ?_, ?_⟩
  · rintro n ⟨⟨hle, c, hc, hsep⟩, hleast⟩
    have hn : t.span.stop ≤ n := by
      -- before its stop the comment would hold the separator
      by_contra hlt
      have hmem := h.mem_text hle (Nat.lt_of_not_le hlt) hc
      exact absurd ((hinside c hmem).symm.trans hsep) Bool.false_ne_true
    -- not later, since a separator stands where the comment stops
    obtain ⟨hnlt, -⟩ := List.getElem?_eq_some_iff.1 hc
    have hget := List.getElem?_eq_getElem (Nat.lt_of_le_of_lt hn hnlt)
    exact Nat.le_antisymm hn (hleast ⟨hstop, _, hget, h.isLineSeparator_stop hlexeme hget⟩)
  · intro hnone
    refine h.stop_eq_length ?_
    rw [← h.drop_stop, List.drop_eq_nil_iff]
    -- a byte behind the comment would be a separator, and there is none
    by_contra hlt
    have hget := List.getElem?_eq_getElem (Nat.lt_of_not_le hlt)
    have hsep := h.isLineSeparator_stop hlexeme hget
    exact absurd ((hnone _ _ hstop hget).symm.trans hsep) Bool.false_ne_true

/-! ### All comments of a script -/

theorem Site.eq_cons_of_prefix (h : Site script t afterValue b rest) {c : UInt8} {u : List UInt8}
    (hu : c :: u <+: script.drop t.span.start) : b = c ∧ u <+: rest := by
  rw [h.unread] at hu
  obtain ⟨rfl, hbehind⟩ := List.cons_prefix_cons.1 hu
  exact ⟨rfl, hbehind⟩

/-- Both openings lead to one rule. -/
theorem Site.lexeme_eq_lineComment (h : Site script t afterValue b rest)
    (hopen : [slash, slash] <+: script.drop t.span.start ∨
      markupOpening <+: script.drop t.span.start) :
    lexeme afterValue b rest = ⟨lineComment (b :: rest), .comment⟩ := by
  rcases hopen with hslash | hmarkup
  · obtain ⟨rfl, s, rfl⟩ := h.eq_cons_of_prefix hslash
    exact Begins.lineComment.lexeme_eq
  · rw [h.unread] at hmarkup
    obtain ⟨rfl, -⟩ := List.cons_prefix_cons.1 hmarkup
    exact (Begins.markup hmarkup).lexeme_eq

/-- **How far a comment reaches.** A token that starts with a slash and a star is a block comment,
and one that starts with two slashes or with the markup opening is a line comment, which is never
malformed. The byte behind a line comment, if there is one, is the first of a line separator. -/
theorem comment_extent {script : List UInt8} {before behind : List Token} {t : Token}
    (h : (tokenize script).tokens = before ++ t :: behind) :
    ([slash, star] <+: script.drop t.span.start →
      t.kind = .comment ∧ BlockExtent script t ((tokenize script).malformedToken? = some t)) ∧
    ([slash, slash] <+: script.drop t.span.start ∨ markupOpening <+: script.drop t.span.start →
      t.kind = .comment ∧ (tokenize script).malformedToken? ≠ some t ∧ LineExtent script t ∧
        ∀ c, script[t.span.stop]? = some c →
          ∃ u us, behind = u :: us ∧ u.kind = .lineSeparator ∧ u.span.start = t.span.stop ∧
            u.text.head? = some c) := by
  have hmem : t ∈ (tokenize script).tokens := by
    rw [h]
    simp
  obtain ⟨afterValue, b, rest, hsite⟩ := exists_site_of_mem hmem
  constructor
  · intro hopen
    obtain ⟨rfl, s, rfl⟩ := hsite.eq_cons_of_prefix hopen
    have hlexeme : lexeme afterValue slash (star :: s) =
        ⟨(blockTail false (star :: s)).cons slash, .comment⟩ := Begins.blockComment.lexeme_eq
    exact ⟨by rw [hsite.kind]; exact congrArg Lexeme.kind hlexeme, hsite.blockExtent hlexeme⟩
  · intro hopen
    have hlexeme := hsite.lexeme_eq_lineComment hopen
    have hclosed : (tokenize script).malformedToken? ≠ some t := by
      rw [Ne, hsite.malformed_iff, hlexeme]
      exact Bool.noConfusion
    refine ⟨by rw [hsite.kind, hlexeme], hclosed, hsite.lineExtent hlexeme, ?_⟩
    intro c hc
    obtain ⟨u, us, afterValue', rest', hbehind, hstart, hnext⟩ := exists_next h hclosed hc
    have hsep := hsite.isLineSeparator_stop hlexeme hc
    refine ⟨u, us, hbehind, ?_, hstart, ?_⟩
    · rw [hnext.kind, (Begins.lineSeparator hsep).lexeme_eq]
    · rw [hnext.text]
      exact head?_text_lexeme afterValue' c rest'

/-- In `/*//` the star behind the opening slash belongs to the closing pair, so that the comment is
complete with its third byte. The slashes behind it open a line comment up to the line feed. -/
theorem comment_extent_of_overlap :
    ∃ block line feed,
      (tokenize [0x2F, 0x2A, 0x2F, 0x2F, 0x2F, 0x61, 0x0A]).tokens = [block, line, feed] ∧
        block.kind = .comment ∧ block.span.stop = 3 ∧ line.kind = .comment ∧
          LineExtent [0x2F, 0x2A, 0x2F, 0x2F, 0x2F, 0x61, 0x0A] line ∧
            feed.kind = .lineSeparator := by
  have htokens : (tokenize [0x2F, 0x2A, 0x2F, 0x2F, 0x2F, 0x61, 0x0A]).tokens =
      [⟨.comment, ⟨0, 3⟩, [0x2F, 0x2A, 0x2F]⟩, ⟨.comment, ⟨3, 6⟩, [0x2F, 0x2F, 0x61]⟩,
        ⟨.lineSeparator, ⟨6, 7⟩, [0x0A]⟩] := by decide +kernel
  have hpair : IsLeast {i | 0 + 1 ≤ i ∧
      blockClosing <+: [0x2F, 0x2A, 0x2F, 0x2F, 0x2F, 0x61, 0x0A].drop i} 1 :=
    ⟨⟨Nat.le_refl 1, by decide⟩, fun i hi => hi.1⟩
  obtain ⟨hblock, hextent⟩ :=
    (comment_extent (htokens.trans (List.nil_append _).symm)).1 (by decide)
  obtain ⟨hline, -, hfeed, -⟩ :=
    (comment_extent (htokens.trans (List.singleton_append).symm)).2 (.inl (by decide))
  exact ⟨_, _, _, htokens, hblock, (hextent.toPair 1 hpair).1, hline, hfeed, rfl⟩

end PageScan.Script
