import PageScan.Proofs.Script.Closed
import PageScan.Proofs.Script.CommentExtent

/-!
# A script that goes on inside a block comment

A script that stops inside a block comment may be the beginning of a longer one, and what it goes on
with may close the comment. The pair that closes it may also lie across the place where the script
went on, with the star before and the slash behind.

Whatever comes behind, the lexer on the longer script gives the same tokens up to the comment
(`Reads.goesOn`). It looks no further ahead than to the opening slash of the comment: no rule goes
on over a slash that begins a comment, and the opening mark of a markup comment, the longest that is
looked for, holds none (`Lexeme.EndsBefore.longer`). So both lexers come to stand before the comment
(`OpenAt`), and there only the rule for block comments decides (`OpenAt.goesOn`).
-/

namespace PageScan.Script

/-! ### More bytes behind a slash -/

/-- Bytes with a slash among them end a token also when more bytes come behind them. -/
theorem Lexeme.EndsBefore.longer {x : Lexeme} {s : List UInt8} (h : x.EndsBefore s)
    (hs : slash ∈ s) (more : List UInt8) : x.EndsBefore (s ++ more) := by
  have hhead : (s ++ more).head? = s.head? := by
    obtain ⟨b, s, rfl⟩ := List.exists_cons_of_ne_nil (List.ne_nil_of_mem hs)
    rfl
  unfold EndsBefore at h ⊢
  cases hk : x.kind with
  | whitespace | lineSeparator | number | identifier | keyword =>
    rw [hk] at h
    exact fun b hb => h b (hhead ▸ hb)
  | comment =>
    rw [hk] at h
    exact h.imp_right fun h b hb => h b (hhead ▸ hb)
  | operator =>
    rw [hk] at h
    intro first htext
    obtain ⟨hmarkup, hstop⟩ := h first htext
    refine ⟨?_, fun b hb => hstop b (hhead ▸ hb)⟩
    intro hlonger
    -- the opening mark would have to reach over the slash
    rcases List.prefix_or_prefix_of_prefix hlonger (List.prefix_append (first :: s) more) with
      hwithin | hover
    · exact hmarkup hwithin
    · have hmem : slash ∈ markupOpening := hover.subset (List.mem_cons_of_mem first hs)
      exact absurd hmem (by decide)
  | string | regex | endOfInput => exact trivial

/-- **A run to a slash is one in a longer script.** -/
theorem Reads.goesOn {l l' : Lexer} {ts : List Token} (h : Reads l ts l')
    (hslash : slash ∈ l'.unread) (more : List UInt8) :
    Reads (l.facing (l.unread ++ more)) ts (l'.facing (l'.unread ++ more)) := by
  induction h with
  | done => exact .done _
  | @read l l' p ts hp hr ih =>
    obtain ⟨b, rest, hu, hm, rfl⟩ := Lexer.next?_eq_some_iff.1 hp
    -- the slash is still to come behind this token
    have hleft : slash ∈ (lexeme l.afterValue b rest).rest := by
      rw [← Lexer.unread_read, ← hr.bytes]
      exact List.mem_append_right _ hslash
    have hnext := Lexer.next?_again hm (fun hnil => absurd hnil (List.ne_nil_of_mem hleft))
      ((lexeme_endsBefore l.afterValue b rest).longer hleft more)
    rw [← List.append_assoc, lexeme_text_append_rest, ← hu] at hnext
    exact Reads.read (p := (l.read b rest).facing (_ ++ more)) hnext (ih hslash)

/-! ### An open comment -/

theorem lexeme_blockComment (afterValue : Bool) (s : List UInt8) :
    lexeme afterValue slash (star :: s) = ⟨(blockTail false (star :: s)).cons slash, .comment⟩ :=
  Begins.blockComment.lexeme_eq

/-- The token that a lexer reads in front of a block comment. -/
theorem Lexer.token_read_blockComment (l : Lexer) (s : List UInt8) :
    (l.read slash (star :: s)).token =
      ⟨.comment, ⟨l.position, l.position + ((blockTail false (star :: s)).text.length + 1)⟩,
        slash :: (blockTail false (star :: s)).text⟩ := by
  rw [read, lexeme_blockComment]
  rfl

theorem Lexer.malformed_read_blockComment (l : Lexer) (s : List UInt8) :
    (l.read slash (star :: s)).lexer.malformed = !(blockTail false (star :: s)).closed := by
  rw [malformed_read, lexeme_blockComment]
  rfl

/-- **The lexer before an open comment.** Behind the tokens `before` it stands in front of a slash
and a star, and the bytes that are left behind them do not close the comment. -/
structure OpenAt (script : List UInt8) (before : List Token) (l : Lexer) (body : List UInt8) :
    Prop where
  reads : Reads (Lexer.on script) before l
  unread : l.unread = slash :: star :: body
  fine : l.malformed = false
  unclosed : (blockTail false (star :: body)).closed = false

/-- A script that stops inside a block comment stops behind a lexer that stands before it. -/
theorem exists_openAt {script : List UInt8} {before : List Token} {c : Token}
    (hm : (tokenize script).malformed = true) (hc : (tokenize script).tokens = before ++ [c])
    (hkind : c.kind = .comment) :
    ∃ l body, OpenAt script before l body ∧
      c = ⟨.comment, ⟨l.position, l.position + (body.length + 2)⟩, slash :: star :: body⟩ := by
  obtain ⟨l, b, rest, hbefore, hu, hfine, rfl, hend⟩ := exists_last_site hc
  have hunclosed : (lexeme l.afterValue b rest).closed = false := by
    rwa [tokenize, hend, Lexer.malformed_read, Bool.not_eq_true'] at hm
  -- only a block comment has an end mark that may be missing
  have hopen : [slash, star] <+: (lexeme l.afterValue b rest).text := by
    have hnot : ¬(l.read b rest).token.Closed := by
      rw [← Bool.not_eq_true] at hunclosed
      exact mt (closed_lexeme_iff l.afterValue b rest _).2 hunclosed
    exact Token.prefix_of_not_closed hnot hkind
  obtain ⟨rfl, hstar⟩ := List.cons_prefix_cons.1
    (hopen.trans ⟨_, lexeme_text_append_rest l.afterValue b rest⟩)
  obtain ⟨body, rfl⟩ := hstar
  have hbody : (blockTail false (star :: body)).closed = false := by
    rwa [List.singleton_append, lexeme_blockComment] at hunclosed
  refine ⟨l, body, ⟨hbefore, hu, hfine, hbody⟩, ?_⟩
  rw [List.singleton_append, Lexer.token_read_blockComment, blockTail_text_of_not_closed hbody]
  rfl

/-- **How an open comment goes on.** A script stops inside the block comment `c` behind the tokens
`before`; `t` are the tokens when `more` comes behind it. The comment then ends behind the first
star and slash whose star stands behind the opening slash, and if there is no such pair it takes all
of `more`. The tokens before it stay. -/
structure GoesOn (before : List Token) (c : Token) (more : List UInt8) (t : Tokenized) : Prop where
  toPair : ∀ n, IsLeast {i | 1 ≤ i ∧ blockClosing <+: (c.text ++ more).drop i} n →
    ∃ comment behind, t.tokens = before ++ comment :: behind ∧
      comment = ⟨.comment, ⟨c.span.start, c.span.start + (n + 2)⟩, (c.text ++ more).take (n + 2)⟩ ∧
      t.malformedToken? ≠ some comment
  toEnd : (∀ i, 1 ≤ i → ¬blockClosing <+: (c.text ++ more).drop i) →
    t = ⟨before ++ [⟨.comment, ⟨c.span.start, c.span.stop + more.length⟩, c.text ++ more⟩], true⟩

namespace OpenAt

variable {script : List UInt8} {before : List Token} {l : Lexer} {body : List UInt8}

/-- **The same tokens up to the comment,** whatever comes behind it; then the comment is read. -/
theorem tokenize_append (h : OpenAt script before l body) (more : List UInt8) :
    (tokenize (script ++ more)).tokens = before ++ (l.read slash (star :: (body ++ more))).token ::
        (l.read slash (star :: (body ++ more))).lexer.drain.tokens ∧
      (Lexer.on (script ++ more)).drain.lexer =
        (l.read slash (star :: (body ++ more))).lexer.drain.lexer := by
  have hreads : Reads (Lexer.on (script ++ more)) before (l.facing (l.unread ++ more)) := by
    -- the slash that the comment begins with is what the run leads to
    refine h.reads.goesOn ?_ more
    rw [h.unread]
    exact List.mem_cons_self
  have hnext : (l.facing (l.unread ++ more)).next? =
      some (l.read slash (star :: (body ++ more))) := by
    rw [h.unread]
    exact Lexer.next?_eq_some_iff.2 ⟨_, _, rfl, h.fine, rfl⟩
  have htokens := hreads.tokens_drain
  have hlexer := hreads.lexer_drain
  rw [Lexer.drain_of_some hnext] at htokens hlexer
  exact ⟨htokens, hlexer⟩

/-- Bytes that do not close the comment are all taken into it. -/
theorem tokenize_of_not_closed (h : OpenAt script before l body) {more : List UInt8}
    (hopen : (blockTail false (star :: (body ++ more))).closed = false) :
    tokenize (script ++ more) =
      ⟨before ++ [⟨.comment, ⟨l.position, l.position + (body.length + 2) + more.length⟩,
        slash :: star :: body ++ more⟩], true⟩ := by
  obtain ⟨htokens, hlexer⟩ := h.tokenize_append more
  have hmalformed := l.malformed_read_blockComment (body ++ more)
  rw [hopen, Bool.not_false] at hmalformed
  -- the lexer reads nothing behind a malformed token
  rw [Lexer.drain_of_none (Lexer.next?_eq_none_iff.2 (.inr hmalformed))] at htokens hlexer
  rw [Tokenized.mk.injEq]
  constructor
  · have hlen : l.position + (body ++ more).length.succ.succ =
        l.position + (body.length + 2) + more.length := by
      rw [List.length_append]
      omega
    rw [htokens, Lexer.token_read_blockComment, blockTail_text_of_not_closed hopen, ← hlen]
    rfl
  · exact (congrArg Lexer.malformed hlexer).trans hmalformed

/-- The comment is read up to the pair that closes it. -/
theorem exists_tokens_of_isLeast (h : OpenAt script before l body) {more : List UInt8} {n : ℕ}
    (hn : IsLeast {i | blockClosing <+: (star :: (body ++ more)).drop i} n) :
    ∃ t behind, (tokenize (script ++ more)).tokens = before ++ t :: behind ∧
      t = ⟨.comment, ⟨l.position, l.position + (n + 1 + 2)⟩,
        (slash :: star :: body ++ more).take (n + 1 + 2)⟩ ∧
      (tokenize (script ++ more)).malformedToken? ≠ some t := by
  obtain ⟨htokens, hlexer⟩ := h.tokenize_append more
  obtain ⟨hclosed, hlen⟩ := blockTail_of_isLeast hn
  refine ⟨_, _, htokens, ?_, ?_⟩
  · have htake := List.prefix_iff_eq_take.1
      ⟨_, blockTail_text_append_rest false (star :: (body ++ more))⟩
    rw [hlen] at htake
    rw [Lexer.token_read_blockComment, hlen, htake]
    rfl
  · have hbehind := (l.read slash (star :: (body ++ more))).lexer.reads_drain
    rw [← hlexer] at hbehind
    rw [Ne, malformedToken?_read_iff htokens hbehind, lexeme_blockComment, Cut.closed_cons, hclosed]
    exact Bool.noConfusion

/-- The closing pair alone makes the script complete. -/
theorem not_malformed_of_closing (h : OpenAt script before l body) :
    (tokenize (script ++ blockClosing)).malformed = false := by
  obtain ⟨-, hlexer⟩ := h.tokenize_append blockClosing
  have htail : blockTail false (star :: (body ++ blockClosing)) =
      ⟨star :: (body ++ blockClosing), [], true⟩ := blockTail_append_closing h.unclosed
  -- nothing is left behind the comment
  have hunread : (l.read slash (star :: (body ++ blockClosing))).lexer.unread = [] := by
    rw [Lexer.unread_read, lexeme_blockComment, htail]
    rfl
  rw [Lexer.drain_of_none (Lexer.next?_eq_none_iff.2 (.inl hunread))] at hlexer
  rw [tokenize, hlexer, Lexer.malformed_read_blockComment, htail]
  rfl

/-- **An open comment goes on** as it is described, from wherever the lexer stands before it. -/
theorem goesOn (h : OpenAt script before l body) (more : List UInt8) :
    GoesOn before ⟨.comment, ⟨l.position, l.position + (body.length + 2)⟩, slash :: star :: body⟩
      more (tokenize (script ++ more)) := by
  constructor
  · intro n hn
    -- offsets in the whole comment are one more than in what is behind its slash
    obtain ⟨m, rfl⟩ := Nat.exists_eq_add_of_le' hn.1.1
    exact h.exists_tokens_of_isLeast (isLeast_add_iff.1 hn)
  · intro hnone
    refine h.tokenize_of_not_closed (not_closed_blockTail fun i => ?_)
    exact hnone (i + 1) (Nat.le_add_left 1 i)

end OpenAt

end PageScan.Script
