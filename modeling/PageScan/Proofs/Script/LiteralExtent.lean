import Mathlib.Algebra.Ring.Parity
import Mathlib.Data.List.DropRight
import PageScan.Proofs.Script.Literal
import PageScan.Proofs.Script.Site

/-!
# How far strings and regular expressions reach

A string and a regular expression stand between two equal marks. How far such a token reaches is
told here in two ways, and neither of them speaks of the rules.

* By the grammar (`MarkedExtent`): if the unread bytes begin with a text of the grammar, they begin
  with one such text only, and this is the token. Otherwise the token is malformed. Both halves come
  from one property of a rule, that it cuts off the texts of the grammar and nothing else
  (`CutsMarked`).
* By the first byte of a kind that no backslash takes. For a string this is its closing quote, and
  it can be found by counting: a quote is taken exactly when an odd number of backslashes stands in
  front of it (`takenAt_iff_odd`). For a regular expression that is broken off it is the line feed
  that breaks it.

The statements are `regex_extent` and `string_extent`.
-/

namespace PageScan.Script

/-! ### Texts between marks -/

/-- A text between two marks: a body with the mark in front and behind. -/
def Marked (mark : UInt8) (body : List UInt8 → Prop) (text : List UInt8) : Prop :=
  ∃ t, body t ∧ text = mark :: (t ++ [mark])

/-- **The extent of a token between marks.** If the unread bytes begin with a text between marks, it
is the only one that they begin with, and it is the text of the token; if they do not, and only
then, the token is malformed. -/
structure MarkedExtent (mark : UInt8) (body : List UInt8 → Prop) (unread text : List UInt8)
    (malformed : Prop) : Prop where
  only : (∃ u, u <+: unread ∧ Marked mark body u) →
    ∀ u, u <+: unread ∧ Marked mark body u ↔ u = text
  malformed_iff : malformed ↔ ¬∃ u, u <+: unread ∧ Marked mark body u

/-- **A rule for tokens between marks,** from behind the opening mark on. A body and its closing
mark are cut off whatever follows them, and nothing else is cut off complete. -/
structure CutsMarked (mark : UInt8) (body : List UInt8 → Prop) (tail : List UInt8 → Cut) :
    Prop where
  ofBody : ∀ t rest, body t → tail (t ++ mark :: rest) = ⟨t ++ [mark], rest, true⟩
  ofClosed : ∀ s, (tail s).closed = true → ∃ t, body t ∧ (tail s).text = t ++ [mark]
  parts : ∀ s, (tail s).text ++ (tail s).rest = s

namespace CutsMarked

variable {mark : UInt8} {body : List UInt8 → Prop} {tail : List UInt8 → Cut} {s u : List UInt8}

/-- A text of the grammar that the unread bytes begin with is what the rule cuts off complete. -/
theorem eq_of_prefix (h : CutsMarked mark body tail) (hu : u <+: mark :: s)
    (hmarked : Marked mark body u) : (tail s).closed = true ∧ u = mark :: (tail s).text := by
  obtain ⟨t, ht, rfl⟩ := hmarked
  obtain ⟨rest, hrest⟩ := hu
  -- the rule meets this very body, with some rest behind it
  obtain rfl : t ++ mark :: rest = s := by simpa using hrest
  rw [h.ofBody t rest ht]
  exact ⟨rfl, rfl⟩

/-- What the rule cuts off complete is a text of the grammar that the unread bytes begin with. -/
theorem marked_of_closed (h : CutsMarked mark body tail) (hc : (tail s).closed = true) :
    mark :: (tail s).text <+: mark :: s ∧ Marked mark body (mark :: (tail s).text) := by
  obtain ⟨t, ht, htext⟩ := h.ofClosed s hc
  refine ⟨(List.prefix_cons_inj mark).2 ⟨_, h.parts s⟩, t, ht, ?_⟩
  rw [htext]

/-- What such a rule cuts off is as the grammar says. -/
theorem markedExtent (h : CutsMarked mark body tail) (s : List UInt8) :
    MarkedExtent mark body (mark :: s) (mark :: (tail s).text) ((tail s).closed = false) where
  only := by
    rintro ⟨v, hv, hmarked⟩ u
    obtain ⟨hc, -⟩ := h.eq_of_prefix hv hmarked
    constructor
    · rintro ⟨hu, hmarked⟩
      exact (h.eq_of_prefix hu hmarked).2
    · rintro rfl
      exact h.marked_of_closed hc
  malformed_iff := by
    constructor
    · -- a text of the grammar would have been cut off complete
      rintro hc ⟨u, hu, hmarked⟩
      exact absurd ((h.eq_of_prefix hu hmarked).1.symm.trans hc) (by simp)
    · intro hnone
      rw [Bool.eq_false_iff]
      intro hc
      exact hnone ⟨_, h.marked_of_closed hc⟩

end CutsMarked

/-- The rule for strings is such a rule, as long as the quote is no backslash. -/
theorem cutsMarked_stringTail {quote : UInt8} (hq : quote ≠ backslash) :
    CutsMarked quote (StringBody quote) (stringTail quote false) where
  ofBody _ rest ht := stringTail_body hq ht rest
  ofClosed _ hc := (stringTail_of_closed hc).exists_body
  parts := stringTail_text_append_rest quote false

theorem cutsMarked_regexTail : CutsMarked slash RegexBody (regexTail false false) where
  ofBody _ rest ht := regexTail_body ht rest
  ofClosed _ hc := (regexTail_of_closed hc).exists_body
  parts := regexTail_text_append_rest false false

/-! ### Regular expressions -/

section BrokenOff

variable {x : Cut} {escaped : Bool} {s : List UInt8} {c : UInt8}

/-- A cut that goes as far as to the first untaken byte `c`, or to the end. -/
theorem Cut.text_of_isLeast (hparts : x.text ++ x.rest = s) (hby : x.StopsBy escaped s c)
    (hat : x.rest = [] ∨ x.StopsAt escaped s c) {n : Nat}
    (hn : IsLeast {i | Untaken escaped s c i} n) : x.text = s.take (n + 1) := by
  have hlen : x.text.length = n + 1 := by
    -- it goes no further than to that byte, and stops at no other before it
    refine Nat.le_antisymm (hby n hn.1) ?_
    rcases hat with hrest | ⟨i, hi, hlen⟩
    · -- all bytes are in the cut, and the untaken one is among them
      rw [hrest, List.append_nil] at hparts
      obtain ⟨hlt, -⟩ := List.getElem?_eq_some_iff.1 hn.1.getElem
      rwa [hparts]
    · rw [hlen]
      exact Nat.succ_le_succ (hn.2 hi)
  rw [← hparts, ← hlen, List.take_left]

/-- A cut that could stop at an untaken byte only, where there is none, takes all. -/
theorem Cut.text_of_forall_not (hparts : x.text ++ x.rest = s)
    (hat : x.rest = [] ∨ x.StopsAt escaped s c) (hnone : ∀ i, ¬Untaken escaped s c i) :
    x.text = s := by
  rcases hat with hrest | ⟨i, hi, -⟩
  · rwa [hrest, List.append_nil] at hparts
  · exact absurd hi (hnone i)

end BrokenOff

/-- **The extent of a regular expression.** When it is malformed, it goes up to and with the first
line feed that no backslash takes, or to the end if there is none. -/
structure RegexExtent (unread text : List UInt8) (malformed : Prop) : Prop
    extends MarkedExtent slash RegexBody unread text malformed where
  toLineFeed : malformed → ∀ n, IsLeast {i | Untaken false unread lineFeed i} n →
    text = unread.take (n + 1)
  toEnd : malformed → (∀ i, ¬Untaken false unread lineFeed i) → text = unread

/-- What the rule cuts off has the extent of a regular expression. -/
theorem regexExtent_regexTail (s : List UInt8) :
    RegexExtent (slash :: s) (slash :: (regexTail false false s).text)
      ((regexTail false false s).closed = false) := by
  have hslash : slash ≠ backslash := by decide
  have hparts : ((regexTail false false s).cons slash).text ++
      ((regexTail false false s).cons slash).rest = slash :: s :=
    congrArg (slash :: ·) (regexTail_text_append_rest false false s)
  have hby := (regexTail_stopsBy false false s).cons_plain hslash (by decide)
  -- what is broken off ends where it must, seen from the opening slash
  have hat (h : (regexTail false false s).closed = false) :=
    (regexTail_stopsAt h).imp_right (Cut.StopsAt.cons_plain · hslash)
  exact {
    toMarkedExtent := cutsMarked_regexTail.markedExtent s
    toLineFeed := fun h n hn => Cut.text_of_isLeast hparts hby (hat h) hn
    toEnd := fun h hnone => Cut.text_of_forall_not hparts (hat h) hnone }

/-- Where bytes are left and none was malformed, pulling is reading. -/
theorem Lexer.pull_of_unread {l : Lexer} {b : UInt8} {rest : List UInt8}
    (hu : l.unread = b :: rest) (hm : l.malformed = false) : l.pull = l.read b rest := by
  exact pull_of_some (next?_eq_some_iff.2 ⟨b, rest, hu, hm, rfl⟩)

/-- **How far a regular expression reaches.** Wherever a lexer goes on with a slash that is not the
last byte, opens no comment and has no value before it, the next token is a regular expression. If
the unread bytes begin with a text of the grammar, this is the only one, and it is the token, which
is not malformed; otherwise the token is malformed, and goes through the first line feed that no
backslash takes or else to the end. -/
theorem regex_extent {l : Lexer} {b : UInt8} {s : List UInt8} (hm : l.malformed = false)
    (hv : l.afterValue = false) (hu : l.unread = slash :: b :: s) (hb : b ≠ slash)
    (hs : b ≠ star) :
    l.pull.token.kind = .regex ∧
      RegexExtent l.unread l.pull.token.text (l.pull.lexer.malformed = true) := by
  have hlexeme : lexeme l.afterValue slash (b :: s) =
      ⟨(regexTail false false (b :: s)).cons slash, .regex⟩ := (Begins.regex hb hs hv).lexeme_eq
  rw [Lexer.pull_of_unread hu hm, Lexer.kind_read, Lexer.text_read, Lexer.malformed_read, hlexeme,
    hu, Bool.not_eq_true']
  exact ⟨rfl, regexExtent_regexTail (b :: s)⟩

/-- In `/[/]\/x/g` neither the slash in the class nor the one behind the backslash is the end. -/
theorem regex_extent_of_class :
    (Lexer.on [0x2F, 0x5B, 0x2F, 0x5D, 0x5C, 0x2F, 0x78, 0x2F, 0x67]).pull.token.kind = .regex ∧
      (Lexer.on [0x2F, 0x5B, 0x2F, 0x5D, 0x5C, 0x2F, 0x78, 0x2F, 0x67]).pull.token.text =
        [0x2F, 0x5B, 0x2F, 0x5D, 0x5C, 0x2F, 0x78, 0x2F] := by
  obtain ⟨hkind, hextent⟩ := regex_extent
    (l := Lexer.on [0x2F, 0x5B, 0x2F, 0x5D, 0x5C, 0x2F, 0x78, 0x2F, 0x67]) rfl rfl rfl (by decide)
    (by decide)
  have hbody : RegexBody [0x5B, 0x2F, 0x5D, 0x5C, 0x2F, 0x78] :=
    .bracketed (c := [0x2F]) (.plain (by decide) (by decide) (by decide) .nil)
      (.escape 0x2F (.plain (by decide) (by decide) (by decide) (by decide) .nil))
  have hmarked : [0x2F, 0x5B, 0x2F, 0x5D, 0x5C, 0x2F, 0x78, 0x2F] <+:
        (Lexer.on [0x2F, 0x5B, 0x2F, 0x5D, 0x5C, 0x2F, 0x78, 0x2F, 0x67]).unread ∧
      Marked slash RegexBody [0x2F, 0x5B, 0x2F, 0x5D, 0x5C, 0x2F, 0x78, 0x2F] :=
    ⟨⟨[0x67], rfl⟩, _, hbody, rfl⟩
  exact ⟨hkind, ((hextent.only ⟨_, hmarked⟩ _).1 hmarked).symm⟩

/-! ### Strings -/

/-- The number of backslashes in a row right in front of an offset. -/
def backslashesBefore (s : List UInt8) (i : Nat) : Nat :=
  ((s.take i).rtakeWhile (· == backslash)).length

/-- Behind a backslash the row is one longer, and behind any other byte it is over. -/
theorem backslashesBefore_succ {s : List UInt8} {i : Nat} {b : UInt8} (h : s[i]? = some b) :
    backslashesBefore s (i + 1) = if b = backslash then backslashesBefore s i + 1 else 0 := by
  -- the byte at the offset is the last of those in front of the next one
  rw [backslashesBefore, List.take_add_one, h, Option.toList_some, List.rtakeWhile_concat]
  by_cases hb : b = backslash
  · rw [if_pos hb, if_pos (beq_iff_eq.2 hb), List.length_append, List.length_singleton,
      backslashesBefore]
  · rw [if_neg hb, if_neg (by simpa using hb), List.length_nil]

/-- **Taken is a matter of parity:** a byte is taken when the number of backslashes in front of it
is odd. -/
theorem takenAt_iff_odd {s : List UInt8} {i : Nat} (h : i ≤ s.length) :
    takenAt false s i = true ↔ Odd (backslashesBefore s i) := by
  induction i with
  | zero => simp [takenAt, backslashesBefore]
  | succ i ih =>
    obtain ⟨b, hb⟩ : ∃ b, s[i]? = some b := ⟨s[i], List.getElem?_eq_getElem h⟩
    rw [backslashesBefore_succ hb, takenAt, hb]
    by_cases hbackslash : b = backslash
    · -- one more backslash takes the next byte unless it is taken itself
      rw [if_pos hbackslash, hbackslash, Nat.odd_add_one, ← ih (Nat.le_of_succ_le h)]
      simp
    · -- any other byte takes nothing, and the row of backslashes is over
      rw [if_neg hbackslash]
      simp [hbackslash]

/-- A byte is untaken when the number of backslashes in front of it is even. -/
theorem untaken_iff_even {s : List UInt8} {b : UInt8} {i : Nat} :
    Untaken false s b i ↔ s[i]? = some b ∧ Even (backslashesBefore s i) := by
  have hfree (h : s[i]? = some b) : takenAt false s i = false ↔ Even (backslashesBefore s i) := by
    obtain ⟨hlt, -⟩ := List.getElem?_eq_some_iff.1 h
    rw [← Bool.not_eq_true, takenAt_iff_odd (Nat.le_of_lt hlt), Nat.not_odd_iff_even]
  constructor
  · rintro ⟨hget, h⟩
    exact ⟨hget, (hfree hget).1 h⟩
  · rintro ⟨hget, h⟩
    exact ⟨hget, (hfree hget).2 h⟩

/-- **The extent of a string.** When it is malformed, it goes to the end. When it is not, its
closing quote is the first later quote with an even number of backslashes in a row before it, and
where there is such a quote it is not malformed. -/
structure StringExtent (quote : UInt8) (unread text : List UInt8) (malformed : Prop) : Prop
    extends MarkedExtent quote (StringBody quote) unread text malformed where
  toEnd : malformed → text = unread
  closing : ∀ n, ¬malformed ∧ text.length = n + 1 ↔
    IsLeast {i | 0 < i ∧ unread[i]? = some quote ∧ Even (backslashesBefore unread i)} n

/-- The string ends behind the first quote that no backslash takes. -/
theorem stringTail_closing_iff {quote : UInt8} (hq : quote ≠ backslash) (s : List UInt8) (n : Nat) :
    (stringTail quote false s).closed = true ∧ (stringTail quote false s).text.length = n + 1 ↔
      IsLeast {i | Untaken false s quote i} n := by
  have hby := stringTail_stopsBy hq false s
  constructor
  · rintro ⟨hc, hlen⟩
    obtain ⟨i, hi, hstop⟩ := stringTail_stopsAt hc
    obtain rfl : i = n := Nat.succ.inj (hstop.symm.trans hlen)
    refine ⟨hi, ?_⟩
    intro j hj
    -- an untaken quote further in front would have stopped the string there
    have hle := hby j hj
    omega
  · rintro ⟨hn, hleast⟩
    -- the string is complete, and stops neither before nor behind the first such quote
    have hc := closed_stringTail_of_untaken hq hn
    obtain ⟨i, hi, hstop⟩ := stringTail_stopsAt hc
    have hle := hby n hn
    have hge := hleast hi
    exact ⟨hc, by omega⟩

/-- What the rule cuts off has the extent of a string. -/
theorem stringExtent_stringTail {quote : UInt8} (hq : quote ≠ backslash) (s : List UInt8) :
    StringExtent quote (quote :: s) (quote :: (stringTail quote false s).text)
      ((stringTail quote false s).closed = false) where
  toMarkedExtent := (cutsMarked_stringTail hq).markedExtent s
  toEnd h := by
    -- a string that is not complete leaves nothing behind
    have hparts := stringTail_text_append_rest quote false s
    rw [stringTail_rest_of_not_closed h, List.append_nil] at hparts
    rw [hparts]
  closing n := by
    -- behind the opening quote, which is no backslash, all offsets are one less
    have hset : {i | (quote :: s)[i + 1]? = some quote ∧
        Even (backslashesBefore (quote :: s) (i + 1))} = {i | Untaken false s quote i} := by
      ext i
      change _ ∧ _ ↔ Untaken false s quote i
      rw [← untaken_iff_even, untaken_cons_succ_iff, beq_false_of_ne hq]
      rfl
    cases n with
    | zero =>
      refine iff_of_false ?_ ?_
      · -- a complete string holds its closing quote
        rintro ⟨hc, hlen⟩
        rw [Bool.not_eq_false] at hc
        obtain ⟨i, -, hstop⟩ := stringTail_stopsAt hc
        rw [List.length_cons, hstop] at hlen
        exact absurd hlen (by simp)
      · rintro ⟨⟨h, -⟩, -⟩
        exact absurd h (Nat.lt_irrefl 0)
    | succ n =>
      rw [Bool.not_eq_false, List.length_cons, Nat.succ_inj, stringTail_closing_iff hq, ← hset]
      exact (isLeast_add_iff (a := 1) (p := fun i => (quote :: s)[i]? = some quote ∧
        Even (backslashesBefore (quote :: s) i))).symm

/-- **How far a string reaches.** A token that starts at a quote is a string. If the unread bytes
begin with a text of the grammar for this quote, this is the only one, and it is the token, which is
not malformed; otherwise the token is all the unread bytes, and is malformed. -/
theorem string_extent {script : List UInt8} {t : Token} (ht : t ∈ (tokenize script).tokens)
    {quote : UInt8} (hq : isQuote quote = true) (hstart : script[t.span.start]? = some quote) :
    t.kind = .string ∧
      StringExtent quote (script.drop t.span.start) t.text
        ((tokenize script).malformedToken? = some t) := by
  have hne : quote ≠ backslash := by
    rintro rfl
    exact absurd hq (by decide)
  obtain ⟨afterValue, b, rest, hsite⟩ := exists_site_of_mem ht
  obtain rfl := hsite.eq_of_getElem? hstart
  have hlexeme : lexeme afterValue b rest = Lexeme.quoted b rest := (Begins.string hq).lexeme_eq
  rw [hsite.malformed_iff, hsite.kind, hsite.text, hsite.unread, hlexeme]
  exact ⟨rfl, stringExtent_stringTail hne rest⟩

/-- The quote behind `'a\\` closes the string, for there are two backslashes before it; the next
quote opens a string that is broken off. -/
theorem string_extent_of_backslashes :
    ⟨.string, ⟨0, 5⟩, [0x27, 0x61, 0x5C, 0x5C, 0x27]⟩ ∈
        (tokenize [0x27, 0x61, 0x5C, 0x5C, 0x27, 0x27]).tokens ∧
      IsLeast {i | 0 < i ∧ [0x27, 0x61, 0x5C, 0x5C, 0x27, 0x27][i]? = some singleQuote ∧
        Even (backslashesBefore [0x27, 0x61, 0x5C, 0x5C, 0x27, 0x27] i)} 4 := by
  have hmem : ⟨.string, ⟨0, 5⟩, [0x27, 0x61, 0x5C, 0x5C, 0x27]⟩ ∈
      (tokenize [0x27, 0x61, 0x5C, 0x5C, 0x27, 0x27]).tokens := by decide +kernel
  have hclosed : (tokenize [0x27, 0x61, 0x5C, 0x5C, 0x27, 0x27]).malformedToken? ≠
      some ⟨.string, ⟨0, 5⟩, [0x27, 0x61, 0x5C, 0x5C, 0x27]⟩ := by decide +kernel
  have hquote : isQuote singleQuote = true := rfl
  obtain ⟨-, hextent⟩ := string_extent hmem hquote rfl
  exact ⟨hmem, (hextent.closing 4).1 ⟨hclosed, rfl⟩⟩

end PageScan.Script
