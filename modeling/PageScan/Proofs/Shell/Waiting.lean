import PageScan.Proofs.Script.GoingOn
import PageScan.Proofs.Text.Utf8
import PageScan.Shell.Session

/-!
# When the shell waits for more lines

A text that stops inside a block comment is not complete, and the shell waits for another line. It
looks at the last token for this: the text is malformed there, the token is a comment, and it begins
with a slash and a star. The last of these three says nothing new, since a comment of another form
is never malformed (`isOpenBlockComment_iff`).

The lines that come are put behind the text, so that the tokens of the longer text are to be known
from the shorter one: `GoesOn`. A malformed text that is not in a comment ends in a string or a
regular expression, and its verdict is that it can be answered (`validate_of_last`). A session goes
by the verdict alone, however lines are read (`Session.feedBy_of_incomplete`).
-/

namespace PageScan.Shell

open Text Script Html

/-! ### Open texts -/

/-- A text is open exactly when it is malformed and ends with a comment. -/
theorem isOpenBlockComment_iff {text : String} :
    isOpenBlockComment text = true ↔ (tokenize (bytes text)).malformed = true ∧
      ∃ c, (tokenize (bytes text)).tokens.getLast? = some c ∧ c.kind = .comment := by
  unfold isOpenBlockComment
  simp only [Bool.and_eq_true, Option.any_eq_true, beq_iff_eq]
  constructor
  · rintro ⟨hm, c, hlast, hkind, -⟩
    exact ⟨hm, c, hlast, hkind⟩
  · rintro ⟨hm, c, hlast, hkind⟩
    -- a comment that is not closed can only be a block comment
    have hbegins : [slash, star] <+: c.text :=
      Token.prefix_of_not_closed (not_closed_of_malformed hm hlast) hkind
    exact ⟨hm, c, hlast, hkind, List.isPrefixOf_iff_prefix.2 hbegins⟩

/-- A malformed text that is not open ends in a string or a regular expression. -/
theorem exists_last_of_not_open {text : String} (hopen : isOpenBlockComment text = false)
    (hm : (tokenize (bytes text)).malformed = true) :
    ∃ last, (tokenize (bytes text)).tokens.getLast? = some last ∧
      (last.kind = .string ∨ last.kind = .regex) := by
  obtain ⟨before, last, htokens⟩ := exists_last_of_malformed hm
  have hlast : (tokenize (bytes text)).tokens.getLast? = some last := by
    rw [htokens, List.getLast?_concat]
  refine ⟨last, hlast, ?_⟩
  have hopen' : ¬last.Closed := not_closed_of_malformed hm hlast
  -- three kinds of token can be broken off, and a comment would make the text open
  rcases Token.kind_of_not_closed hopen' with hstring | hcomment | hregex
  · exact .inl hstring
  · rw [isOpenBlockComment_iff.2 ⟨hm, last, hlast, hcomment⟩] at hopen
    exact Bool.noConfusion hopen
  · exact .inr hregex

/-- A text that ends in a string or a regular expression is not open, malformed or not. -/
theorem not_open_of_last {text : String} {last : Token}
    (hlast : (tokenize (bytes text)).tokens.getLast? = some last)
    (hkind : last.kind = .string ∨ last.kind = .regex) : isOpenBlockComment text = false := by
  rw [Bool.eq_false_iff]
  intro hopen
  obtain ⟨-, c, hc, hcomment⟩ := isOpenBlockComment_iff.1 hopen
  -- the last token would be a comment as well
  obtain rfl := Option.some.inj (hlast.symm.trans hc)
  rw [hcomment] at hkind
  rcases hkind with hstring | hregex
  · exact TokenKind.noConfusion hstring
  · exact TokenKind.noConfusion hregex

/-! ### More text behind an open one -/

section Longer

variable {text : String} {before : List Token} {c : Token}

/-- The last token of an open text is a block comment that the text breaks off. -/
theorem exists_openAt_of_open (hopen : isOpenBlockComment text = true)
    (htokens : (tokenize (bytes text)).tokens = before ++ [c]) :
    ∃ l body, OpenAt (bytes text) before l body ∧
      c = ⟨.comment, ⟨l.position, l.position + (body.length + 2)⟩, slash :: star :: body⟩ := by
  obtain ⟨hm, last, hlast, hkind⟩ := isOpenBlockComment_iff.1 hopen
  rw [htokens, List.getLast?_concat] at hlast
  obtain rfl := Option.some.inj hlast
  exact exists_openAt hm htokens hkind

/-- What comes behind an open text goes on with its comment. -/
theorem goesOn_of_open (hopen : isOpenBlockComment text = true)
    (htokens : (tokenize (bytes text)).tokens = before ++ [c]) (more : String) :
    GoesOn before c (bytes more) (tokenize (bytes (text ++ more))) := by
  obtain ⟨l, body, hat, rfl⟩ := exists_openAt_of_open hopen htokens
  rw [bytes_append]
  exact hat.goesOn (bytes more)

/-- A text whose comment goes on without the closing pair is open. -/
theorem open_of_goesOn {more : List UInt8} (h : GoesOn before c more (tokenize (bytes text)))
    (hnone : ∀ i, 1 ≤ i → ¬blockClosing <+: (c.text ++ more).drop i) :
    isOpenBlockComment text = true := by
  -- the comment takes all that comes, and is the last token still
  rw [isOpenBlockComment_iff, h.toEnd hnone]
  exact ⟨rfl, _, List.getLast?_concat, rfl⟩

/-- The closing pair alone makes an open text complete. -/
theorem complete_of_open (hopen : isOpenBlockComment text = true) :
    (tokenize (bytes (text ++ "*/"))).malformed = false := by
  obtain ⟨-, c, hlast, -⟩ := isOpenBlockComment_iff.1 hopen
  obtain ⟨before, htokens⟩ := List.getLast?_eq_some_iff.1 hlast
  obtain ⟨l, body, hat, -⟩ := exists_openAt_of_open hopen htokens
  rw [bytes_append]
  exact hat.not_malformed_of_closing

end Longer

/-! ### Waiting -/

theorem validate_of_open {text : String} (hopen : isOpenBlockComment text = true) :
    validate text = .incomplete := if_pos hopen

/-- The shell does not wait for the end of a string or of a regular expression. -/
theorem validate_of_last {text : String} {last : Token}
    (hlast : (tokenize (bytes text)).tokens.getLast? = some last)
    (hkind : last.kind = .string ∨ last.kind = .regex) : validate text = .valid := by
  rw [validate, not_open_of_last hlast hkind]
  exact if_neg Bool.false_ne_true

section Feed

variable {m : Type → Type} [Monad m] {read : List Char → List UInt8 → Except Failure Entry}
  {s : Session} {line : List UInt8} {text : String} {lineEnd : List Char}

/-- A session waits with a text that is not complete. -/
theorem Session.feedBy_of_incomplete (files : Files m) (rules : RuleSet)
    (hread : read s.kept line = .ok ⟨text, lineEnd⟩) (hverdict : validate text = .incomplete) :
    s.feedBy read files rules line = return .more ⟨text.toList ++ lineEnd⟩ := by
  simp only [feedBy, hread, hverdict]

/-- A session answers every other text. -/
theorem Session.feedBy_of_valid (files : Files m) (rules : RuleSet)
    (hread : read s.kept line = .ok ⟨text, lineEnd⟩) (hverdict : validate text = .valid) :
    s.feedBy read files rules line = do return .replied (← reply files rules text) := by
  simp only [feedBy, hread, hverdict]

end Feed

/-- **When the shell waits.** A text is open exactly when it is malformed and its last token is a
comment. Whatever comes behind an open text, the tokens before the comment stay, and the comment
goes on to the first pair that closes it; without one the text is still open, and the pair alone
makes it complete. A malformed text that is not open ends in a string or a regular expression. The
verdict on an open text is that it goes on, and on one that ends in a string or a regular expression
that it can be answered; a session waits and answers accordingly, however lines are read. -/
theorem open_text_waits (text : String) :
    (isOpenBlockComment text = true ↔ (tokenize (bytes text)).malformed = true ∧
      ∃ c, (tokenize (bytes text)).tokens.getLast? = some c ∧ c.kind = .comment) ∧
    (isOpenBlockComment text = true →
      (tokenize (bytes (text ++ "*/"))).malformed = false ∧
      ∀ before c, (tokenize (bytes text)).tokens = before ++ [c] → ∀ more : String,
        GoesOn before c (bytes more) (tokenize (bytes (text ++ more))) ∧
        ((∀ i, 1 ≤ i → ¬blockClosing <+: (c.text ++ bytes more).drop i) →
          isOpenBlockComment (text ++ more) = true)) ∧
    (isOpenBlockComment text = false → (tokenize (bytes text)).malformed = true →
      ∃ last, (tokenize (bytes text)).tokens.getLast? = some last ∧
        (last.kind = .string ∨ last.kind = .regex)) ∧
    (isOpenBlockComment text = true → validate text = .incomplete) ∧
    (∀ last, (tokenize (bytes text)).tokens.getLast? = some last →
      last.kind = .string ∨ last.kind = .regex → validate text = .valid) ∧
    ∀ {m : Type → Type} [Monad m] (read : List Char → List UInt8 → Except Failure Entry)
      (files : Files m) (rules : RuleSet) (s : Session) (line : List UInt8) (lineEnd : List Char),
        read s.kept line = .ok ⟨text, lineEnd⟩ →
          (isOpenBlockComment text = true →
            s.feedBy read files rules line = return .more ⟨text.toList ++ lineEnd⟩) ∧
          ∀ last, (tokenize (bytes text)).tokens.getLast? = some last →
            last.kind = .string ∨ last.kind = .regex →
              s.feedBy read files rules line = do return .replied (← reply files rules text) := by
  refine ⟨isOpenBlockComment_iff, ?_, exists_last_of_not_open, validate_of_open,
    fun _ => validate_of_last, ?_⟩
  · intro hopen
    refine ⟨complete_of_open hopen, ?_⟩
    intro before c htokens more
    have hgoes := goesOn_of_open hopen htokens more
    exact ⟨hgoes, open_of_goesOn hgoes⟩
  · intro m _ read files rules s line lineEnd hread
    refine ⟨fun hopen => ?_, fun last hlast hkind => ?_⟩
    · exact Session.feedBy_of_incomplete files rules hread (validate_of_open hopen)
    · exact Session.feedBy_of_valid files rules hread (validate_of_last hlast hkind)

/-- A line without backspaces is typed as it is. -/
theorem readLine_of_not_mem {kept cs lineEnd : List Char} {text : String}
    (hcut : cutLineEnd (kept ++ cs) = (text.toList, lineEnd)) (h : backspace ∉ text.toList) :
    readLine kept (encode cs) = .ok ⟨text, lineEnd⟩ := by
  simp only [readLine, decode?_encode, hcut, typed?_of_not_mem h, String.ofList_toList]

/-- The slash behind `a /*` closes the comment with the star that opened it, and a blank leaves it
open, so that the session waits for the next line. The text `'a` is malformed, too, but the session
answers it. -/
theorem open_text_waits_for_slash :
    (tokenize (bytes ("a /*" ++ "*/"))).malformed = false ∧
      (∃ comment behind, (tokenize (bytes ("a /*" ++ "/"))).tokens =
          [⟨.identifier, ⟨0, 1⟩, [0x61]⟩, ⟨.whitespace, ⟨1, 2⟩, [0x20]⟩] ++ comment :: behind ∧
        comment = ⟨.comment, ⟨2, 5⟩, [0x2F, 0x2A, 0x2F]⟩ ∧
        (tokenize (bytes ("a /*" ++ "/"))).malformedToken? ≠ some comment) ∧
      isOpenBlockComment ("a /*" ++ " ") = true ∧
      Session.feed (m := Option) ⟨fun _ => none, fun _ => none⟩ [] {} (bytes "a /*\n") =
        some (.more ⟨"a /*\n".toList⟩) ∧
      (∃ last, (tokenize (bytes "'a")).tokens.getLast? = some last ∧
        (last.kind = .string ∨ last.kind = .regex)) ∧
      validate "'a" = .valid ∧
      Session.feed (m := Option) ⟨fun _ => none, fun _ => none⟩ [] {} (bytes "'a\n") =
        (do return .replied (← reply ⟨fun _ => none, fun _ => none⟩ [] "'a")) := by
  have hopen : isOpenBlockComment "a /*" = true := by decide +kernel
  have hline : readLine [] (bytes "a /*\n") = .ok ⟨"a /*", ['\n']⟩ :=
    readLine_of_not_mem rfl (by decide)
  have hquote : readLine [] (bytes "'a\n") = .ok ⟨"'a", ['\n']⟩ :=
    readLine_of_not_mem rfl (by decide)
  have hstring : (tokenize (bytes "'a")).tokens.getLast? =
      some ⟨.string, ⟨0, 2⟩, [0x27, 0x61]⟩ := by decide +kernel
  have hpair : IsLeast {i | 1 ≤ i ∧ blockClosing <+: ([0x2F, 0x2A] ++ bytes "/").drop i} 1 :=
    ⟨⟨Nat.le_refl 1, by decide⟩, fun i hi => hi.1⟩
  have hblank : ∀ i, 1 ≤ i → ¬blockClosing <+: ([0x2F, 0x2A] ++ bytes " ").drop i := by
    intro i hi hclosing
    -- the closing pair needs a slash behind the star, and there is a blank
    have hslash : slash ∈ ([0x2F, 0x2A] ++ bytes " ").drop 1 :=
      (List.drop_suffix_drop_left _ hi).subset (hclosing.subset (by decide))
    exact absurd hslash (by decide)
  obtain ⟨-, hwaits, -, -, -, hfed⟩ := open_text_waits "a /*"
  obtain ⟨hcomplete, hgoes⟩ := hwaits hopen
  -- behind the name and the blank stands the comment that is open
  have hgoes := hgoes [⟨.identifier, ⟨0, 1⟩, [0x61]⟩, ⟨.whitespace, ⟨1, 2⟩, [0x20]⟩]
    ⟨.comment, ⟨2, 4⟩, [0x2F, 0x2A]⟩ (by decide +kernel)
  obtain ⟨-, -, hmalformed, -, hvalid, hanswered⟩ := open_text_waits "'a"
  refine ⟨hcomplete, (hgoes "/").1.toPair 1 hpair, (hgoes " ").2 hblank, ?_, ?_, ?_, ?_⟩
  · exact (hfed readLine _ _ _ _ _ hline).1 hopen
  · exact hmalformed (by decide +kernel) (by decide +kernel)
  · exact hvalid _ hstring (.inl rfl)
  · exact (hanswered readLine _ _ _ _ _ hquote).2 _ hstring (.inl rfl)

end PageScan.Shell
