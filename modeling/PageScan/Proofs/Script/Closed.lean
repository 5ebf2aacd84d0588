import PageScan.Proofs.Script.Beginning
import PageScan.Proofs.Script.Comment
import PageScan.Proofs.Script.Literal
import PageScan.Proofs.Script.Site

/-!
# Malformed means not closed

A script is malformed when its last token breaks off before its end mark. Whether a token does can
be seen from its kind and its bytes alone, without the lexer and without the script around it:
`Token.Closed` asks the grammar of strings and of regular expressions, and for the closing pair of a
block comment. Tokens of other kinds have no end mark that could be missing.

The two agree at each token (`closed_lexeme_iff`). One direction is that a rule accepts only the
grammar; for the other it is enough that a rule stops at the first end mark, so that a token which
holds one cannot be broken off. All tokens but the last are closed, since the lexer went on behind
them (`malformed_iff_not_closed`).
-/

namespace PageScan.Script

/-- The bytes of a string: the same quote at both ends and a body between. -/
def IsString (text : List UInt8) : Prop :=
  ∃ quote body, isQuote quote = true ∧ StringBody quote body ∧ text = quote :: (body ++ [quote])

/-- The bytes of a regular expression: a slash at both ends and a body between. -/
def IsRegex (text : List UInt8) : Prop :=
  ∃ body, RegexBody body ∧ text = slash :: (body ++ [slash])

/-- The bytes end with a star and a slash, and the star is not the first of them. -/
def EndsBlock (text : List UInt8) : Prop :=
  ∃ before, before ≠ [] ∧ text = before ++ blockClosing

/-- **A closed token,** judged from its kind and its bytes. -/
def Token.Closed (t : Token) : Prop :=
  match t.kind with
  | .string => IsString t.text
  | .regex => IsRegex t.text
  | .comment => [slash, star] <+: t.text → EndsBlock t.text
  | _ => True

/-! ### Each rule closes what is closed -/

/-- A string is closed as it is read if and only if it has its quotes and a body between them. -/
theorem closed_quoted_iff {quote : UInt8} (hq : isQuote quote = true) (rest : List UInt8) :
    (Lexeme.quoted quote rest).closed = true ↔ IsString (Lexeme.quoted quote rest).text := by
  have hne : quote ≠ backslash := by
    rintro rfl
    exact absurd hq (by decide)
  have hcut := stringTail_text_append_rest quote false rest
  simp only [Lexeme.quoted, Cut.closed_cons, Cut.text_cons]
  constructor
  · intro h
    obtain ⟨body, hbody, htext⟩ := (stringTail_of_closed h).exists_body
    exact ⟨quote, body, hq, hbody, by rw [htext]⟩
  · -- the rule stops behind this very body, whatever the script goes on with
    rintro ⟨_, body, -, hbody, htext⟩
    obtain ⟨rfl, htext⟩ := List.cons.inj htext
    rw [htext, List.append_assoc] at hcut
    rw [← hcut]
    exact congrArg Cut.closed (stringTail_body hne hbody _)

/-- A regular expression is closed as it is read if and only if it has its slashes and a body
between them. -/
theorem closed_regex_iff (rest : List UInt8) :
    (regexTail false false rest).closed = true ↔
      IsRegex (slash :: (regexTail false false rest).text) := by
  have hcut := regexTail_text_append_rest false false rest
  constructor
  · intro h
    obtain ⟨body, hbody, htext⟩ := (regexTail_of_closed h).exists_body
    exact ⟨body, hbody, by rw [htext]⟩
  · -- again the rule stops behind this body
    rintro ⟨body, hbody, htext⟩
    obtain ⟨-, htext⟩ := List.cons.inj htext
    rw [htext, List.append_assoc] at hcut
    rw [← hcut]
    exact congrArg Cut.closed (regexTail_body hbody _)

/-- A block comment is closed as it is read if and only if it ends with the pair. -/
theorem closed_block_iff (s : List UInt8) :
    (blockTail false s).closed = true ↔ EndsBlock (slash :: (blockTail false s).text) := by
  have hcut := blockTail_text_append_rest false s
  constructor
  · intro h
    rcases blockTail_of_closed h with ⟨-, hstar⟩ | ⟨before, hbefore⟩
    · exact absurd hstar Bool.false_ne_true
    · exact ⟨slash :: before, List.cons_ne_nil _ _, by rw [← hbefore, List.cons_append]⟩
  · rintro ⟨before, hne, htext⟩
    obtain ⟨b, before, rfl⟩ := List.exists_cons_of_ne_nil hne
    rw [List.cons_append] at htext
    obtain ⟨-, htext⟩ := List.cons.inj htext
    rw [htext] at hcut
    rw [← hcut]
    exact (blockTail_of_pair before _).1

/-- **A token is closed as it is read** exactly when its kind and bytes say so. -/
theorem closed_lexeme_iff (afterValue : Bool) (b : UInt8) (rest : List UInt8) (span : Span) :
    (lexeme afterValue b rest).closed = true ↔
      Token.Closed ⟨(lexeme afterValue b rest).kind, span, (lexeme afterValue b rest).text⟩ := by
  have hbegins := begins_lexeme afterValue b rest
  generalize lexeme afterValue b rest = x at hbegins ⊢
  cases hbegins with
  -- tokens without an end mark are closed as they are read, and are said to be
  | whitespace | lineSeparator | loneDot => simp [Token.Closed]
  | number => simp [Token.Closed]
  | word =>
    cases hk : Keyword.ofBytes? (wordTail false (b :: rest)).text <;>
      simp [Lexeme.word, hk, Token.Closed]
  | lastSlash | division | operator => simp [Lexeme.punctuator, Token.Closed]
  | @lineComment s =>
    -- a line comment is always closed, and its bytes do not look like a block comment
    have hline := not_prefix_lineComment (b := slash) (c := slash) (s := s) rfl rfl
      (.inr (by decide))
    exact ⟨fun _ hp => absurd hp hline, fun _ => rfl⟩
  | markup hm =>
    obtain ⟨s, hs⟩ := hm
    have hline := not_prefix_lineComment (b := 0x3C) (c := 0x21) (s := 0x2D :: 0x2D :: s) rfl rfl
      (.inl (by decide))
    rw [← hs]
    exact ⟨fun _ hp => absurd hp hline, fun _ => rfl⟩
  | @blockComment s =>
    -- the bytes do look like a block comment, and so the closing pair is asked for
    have hopen : [slash, star] <+: slash :: (blockTail false (star :: s)).text := by
      simp [blockTail]
    exact (closed_block_iff (star :: s)).trans ⟨fun h _ => h, fun h => h hopen⟩
  | string hb => exact closed_quoted_iff hb rest
  | regex => exact closed_regex_iff _

/-! ### The malformed token -/

/-- Only tokens of three kinds have an end mark that may be missing. -/
theorem Token.kind_of_not_closed {t : Token} (h : ¬t.Closed) :
    t.kind = .string ∨ t.kind = .comment ∨ t.kind = .regex := by
  unfold Closed at h
  split at h
  · next hk => exact .inl hk
  · next hk => exact .inr (.inr hk)
  · next hk => exact .inr (.inl hk)
  · exact absurd trivial h

/-- A comment that is not closed is a block comment. -/
theorem Token.prefix_of_not_closed {t : Token} (h : ¬t.Closed) (hk : t.kind = .comment) :
    [slash, star] <+: t.text := by
  unfold Closed at h
  rw [hk] at h
  exact (Classical.not_imp.1 h).1

/-- The malformed token of a script is its token that is not closed. -/
theorem Site.malformedToken?_iff_not_closed {script : List UInt8} {t : Token} {afterValue : Bool}
    {b : UInt8} {rest : List UInt8} (h : Site script t afterValue b rest) :
    (tokenize script).malformedToken? = some t ↔ ¬t.Closed := by
  have hclosed := closed_lexeme_iff afterValue b rest t.span
  rw [← h.kind, ← h.text] at hclosed
  rw [h.malformed_iff, ← Bool.not_eq_true, hclosed]

/-- The last token of a malformed script is not closed. -/
theorem not_closed_of_malformed {script : List UInt8} {t : Token}
    (hm : (tokenize script).malformed = true) (ht : (tokenize script).tokens.getLast? = some t) :
    ¬t.Closed := by
  obtain ⟨afterValue, b, rest, hsite⟩ := exists_site_of_mem (List.mem_of_getLast? ht)
  exact hsite.malformedToken?_iff_not_closed.1
    (Tokenized.malformedToken?_eq_some_iff.2 ⟨hm, ht⟩)

/-! ### The whole script -/

/-- Behind a token that is not closed nothing is read. -/
theorem Reads.closed_of_cons {l l' : Lexer} {b : UInt8} {rest : List UInt8} {t : Token}
    {ts : List Token} (h : Reads (l.read b rest).lexer (t :: ts) l') :
    (l.read b rest).token.Closed := by
  obtain ⟨p, hp, -, -⟩ := Reads.cons_iff.1 h
  -- a token was read behind it, so the lexer was not spoilt
  obtain ⟨-, -, -, hm, -⟩ := Lexer.next?_eq_some_iff.1 hp
  rw [Lexer.malformed_read, Bool.not_eq_false'] at hm
  exact (closed_lexeme_iff l.afterValue b rest _).1 hm

/-- **Malformed means not closed.** Every token of a script but the last is closed, and the script
is malformed exactly when it has a last token and that one is not. -/
theorem malformed_iff_not_closed (script : List UInt8) :
    (∀ t ∈ (tokenize script).tokens.dropLast, t.Closed) ∧
    ((tokenize script).malformed = true ↔
      ∃ t, (tokenize script).tokens.getLast? = some t ∧ ¬t.Closed) := by
  constructor
  · -- a token before the last has tokens behind it, and so was not malformed
    intro t ht
    obtain ⟨before, behind, hsplit⟩ := List.append_of_mem ht
    have hne : (tokenize script).tokens ≠ [] := by
      intro hnil
      rw [hnil] at ht
      exact absurd ht (by simp)
    -- behind `t` there is at least the token that was dropped
    have htokens : (tokenize script).tokens =
        before ++ t :: (behind ++ [(tokenize script).tokens.getLast hne]) := by
      rw [← List.cons_append, ← List.append_assoc, ← hsplit, List.dropLast_concat_getLast]
    obtain ⟨l, b, rest, -, -, -, rfl, hbehind⟩ := exists_site htokens
    cases behind with
    | nil => exact hbehind.closed_of_cons
    | cons u us => exact hbehind.closed_of_cons
  · constructor
    · -- the state behind the last token is the last state of all
      intro hm
      obtain ⟨before, t, htokens⟩ := exists_last_of_malformed hm
      obtain ⟨l, b, rest, -, -, -, rfl, hend⟩ := exists_last_site htokens
      refine ⟨(l.read b rest).token, by rw [htokens, List.getLast?_concat], ?_⟩
      intro hclosed
      have hlast := (closed_lexeme_iff l.afterValue b rest _).2 hclosed
      rw [tokenize, hend, Lexer.malformed_read, hlast] at hm
      exact absurd hm (by simp)
    · -- and the last state is spoilt if its token was not closed
      rintro ⟨t, hlast, hopen⟩
      obtain ⟨before, htokens⟩ := List.getLast?_eq_some_iff.1 hlast
      obtain ⟨l, b, rest, -, -, -, rfl, hend⟩ := exists_last_site htokens
      have hclosed := mt (closed_lexeme_iff l.afterValue b rest _).1 hopen
      rw [tokenize, hend, Lexer.malformed_read, eq_false_of_ne_true hclosed]
      rfl

/-- The escaped quote does not close `'\''`; the quote behind it does, and the next one opens a
string that is broken off. -/
theorem closed_escaped_quote :
    ⟨.string, ⟨0, 4⟩, [0x27, 0x5C, 0x27, 0x27]⟩ ∈
        (tokenize [0x27, 0x5C, 0x27, 0x27, 0x27]).tokens.dropLast ∧
      Token.Closed ⟨.string, ⟨0, 4⟩, [0x27, 0x5C, 0x27, 0x27]⟩ := by
  have hmem : ⟨.string, ⟨0, 4⟩, [0x27, 0x5C, 0x27, 0x27]⟩ ∈
      (tokenize [0x27, 0x5C, 0x27, 0x27, 0x27]).tokens.dropLast := by decide +kernel
  exact ⟨hmem, (malformed_iff_not_closed _).1 _ hmem⟩

end PageScan.Script
