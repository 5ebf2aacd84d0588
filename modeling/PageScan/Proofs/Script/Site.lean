import Mathlib.Order.Bounds.Basic
import PageScan.Proofs.Script.Ending

/-!
# The site of a token

A token of a script carries its offsets. `Site` says what stood there when it was read: the bytes of
the script from its start on, of which it is the lexeme, and whether it was broken off. Everything
that can be said about how far a token reaches follows from its site, without the lexer that came
there; every token has one (`exists_site_of_mem`).

Behind a token that was not broken off the lexer goes on with the next byte of the script
(`exists_next`), and where a token starts stood a lexer that gave it and all tokens behind it
(`exists_lexer_at`).

Words and numerals are told by the longest beginning of the unread bytes that is one (`Longest`).
-/

namespace PageScan.Script

/-! ### What stood where a token starts -/

/-- **The site of a token:** the script from its start on, the lexeme that it is there, and whether
it is the malformed token of the script. -/
structure Site (script : List UInt8) (t : Token) (afterValue : Bool) (b : UInt8)
    (rest : List UInt8) : Prop where
  unread : script.drop t.span.start = b :: rest
  kind : t.kind = (lexeme afterValue b rest).kind
  text : t.text = (lexeme afterValue b rest).text
  stop : t.span.stop = t.span.start + t.text.length
  malformed_iff : (tokenize script).malformedToken? = some t ↔
    (lexeme afterValue b rest).closed = false

/-- A token is the malformed one of its script exactly when it was broken off as it was read. -/
theorem malformedToken?_read_iff {script : List UInt8} {before behind : List Token}
    {l : Lexer} {b : UInt8} {rest : List UInt8}
    (h : (tokenize script).tokens = before ++ (l.read b rest).token :: behind)
    (hbehind : Reads (l.read b rest).lexer behind (Lexer.on script).drain.lexer) :
    (tokenize script).malformedToken? = some (l.read b rest).token ↔
      (lexeme l.afterValue b rest).closed = false := by
  rw [Tokenized.malformedToken?_eq_some_iff, h]
  cases behind with
  | nil =>
    -- the lexer behind the last token is the one that the whole run leaves
    have hend : (tokenize script).malformed = (l.read b rest).lexer.malformed := by
      rw [tokenize, Reads.nil_iff.1 hbehind]
    rw [hend, Lexer.malformed_read, List.getLast?_concat, Bool.not_eq_true', and_iff_left rfl]
  | cons u us =>
    refine iff_of_false ?_ ?_
    · -- the last token stops behind this one, and so is another
      rintro ⟨-, hlast⟩
      have hmem := List.getLast_mem (List.cons_ne_nil u us)
      rw [List.getLast?_append, List.getLast?_cons_cons,
        List.getLast?_eq_some_getLast (List.cons_ne_nil u us), Option.some_or] at hlast
      rw [Option.some.inj hlast] at hmem
      exact absurd (hbehind.position_lt_stop _ hmem) (Nat.lt_irrefl _)
    · -- the lexer went on behind this token
      obtain ⟨p, hp, -, -⟩ := Reads.cons_iff.1 hbehind
      obtain ⟨-, -, -, hm, -⟩ := Lexer.next?_eq_some_iff.1 hp
      rw [Lexer.malformed_read, Bool.not_eq_false'] at hm
      rw [hm]
      exact Bool.noConfusion

/-- **Every token has a site.** -/
theorem exists_site_of_mem {script : List UInt8} {t : Token}
    (ht : t ∈ (tokenize script).tokens) :
    ∃ afterValue b rest, Site script t afterValue b rest := by
  obtain ⟨before, behind, hsplit⟩ := List.append_of_mem ht
  obtain ⟨l, b, rest, hbefore, hu, -, rfl, hbehind⟩ := exists_site hsplit
  exact ⟨l.afterValue, b, rest,
    { unread := hbefore.unread_eq_drop.symm.trans hu
      kind := rfl
      text := rfl
      stop := rfl
      malformed_iff := malformedToken?_read_iff hsplit hbehind }⟩

theorem exists_site_of_eq_append {script : List UInt8} {before behind : List Token} {t : Token}
    (h : (tokenize script).tokens = before ++ t :: behind) :
    ∃ afterValue b rest, Site script t afterValue b rest := by
  apply exists_site_of_mem
  rw [h]
  exact List.mem_append_right before List.mem_cons_self

namespace Site

variable {script : List UInt8} {t : Token} {afterValue : Bool} {b : UInt8} {rest : List UInt8}

/-- A token starts with the byte that the script holds at its start. -/
theorem eq_of_getElem? (h : Site script t afterValue b rest) {c : UInt8}
    (hc : script[t.span.start]? = some c) : b = c := by
  rw [← List.head?_drop, h.unread] at hc
  exact Option.some.inj hc

/-- The script from a later offset on, counted from the start of the token. -/
theorem drop_add_start (h : Site script t afterValue b rest) (i : ℕ) :
    script.drop (i + t.span.start) = (b :: rest).drop i := by
  rw [Nat.add_comm, ← List.drop_drop, h.unread]

theorem getElem?_start (h : Site script t afterValue b rest) :
    script[t.span.start]? = some b := by
  rw [← List.head?_drop, h.unread, List.head?_cons]

/-- Behind it stands the byte that the lexer looked at next. -/
theorem getElem?_succ_start (h : Site script t afterValue b rest) :
    script[t.span.start + 1]? = rest.head? := by
  rw [← List.head?_drop, Nat.add_comm, h.drop_add_start]
  rfl

theorem mem_text (h : Site script t afterValue b rest) {i : ℕ} {c : UInt8}
    (hstart : t.span.start ≤ i) (hstop : i < t.span.stop) (hc : script[i]? = some c) :
    c ∈ t.text := by
  obtain ⟨m, rfl⟩ := Nat.exists_eq_add_of_le' hstart
  have hm : m < (lexeme afterValue b rest).text.length := by
    rw [h.stop, h.text] at hstop
    omega
  -- from the start of the token on the script is the text and what is behind it
  rw [← List.head?_drop, h.drop_add_start, ← lexeme_text_append_rest afterValue b rest,
    List.head?_drop, List.getElem?_append_left hm, ← h.text] at hc
  exact List.mem_of_getElem? hc

/-- Where a token stops, the script goes on with what the token left. -/
theorem drop_stop (h : Site script t afterValue b rest) :
    script.drop t.span.stop = (lexeme afterValue b rest).rest := by
  have hcut := lexeme_text_append_rest afterValue b rest
  rw [h.stop, ← List.drop_drop, h.unread, ← hcut, h.text, List.drop_left]

/-- What the script goes on with behind a token ends it. -/
theorem endsBefore (h : Site script t afterValue b rest) :
    t.kind.EndsBefore t.text (script.drop t.span.stop) := by
  rw [h.kind, h.text, h.drop_stop]
  exact lexeme_endsBefore afterValue b rest

/-- A token behind which nothing is left stops at the end of the script. -/
theorem stop_eq_length (h : Site script t afterValue b rest)
    (hrest : (lexeme afterValue b rest).rest = []) : t.span.stop = script.length := by
  have hcut := lexeme_text_append_rest afterValue b rest
  have hlen := congrArg List.length h.unread
  rw [← hcut, hrest, List.append_nil, ← h.text, List.length_drop] at hlen
  -- a token holds a byte, so that its start lies in the script
  have hpos := List.length_pos_iff.2 (lexeme_text_ne_nil afterValue b rest)
  rw [← h.text] at hpos
  rw [h.stop]
  omega

end Site

/-- A lexer with a byte left and nothing broken off reads a token where it stands. -/
theorem Reads.exists_cons {l l' : Lexer} {ts : List Token} (h : Reads l ts l')
    (hend : l'.next? = none) (hu : l.unread ≠ []) (hm : l.malformed = false) :
    ∃ t us, ts = t :: us ∧ t.span.start = l.position := by
  cases h with
  | done =>
    -- a run without a token would have had nothing to read
    rcases Lexer.next?_eq_none_iff.1 hend with hnil | hmalformed
    · exact absurd hnil hu
    · exact absurd (hm.symm.trans hmalformed) (by simp)
  | read hp _ =>
    obtain ⟨b, rest, -, -, rfl⟩ := Lexer.next?_eq_some_iff.1 hp
    exact ⟨_, _, rfl, rfl⟩

/-- **The lexer goes on** behind a token that is not malformed: where a byte is left, the next token
starts with it. -/
theorem exists_next {script : List UInt8} {before behind : List Token} {t : Token} {c : UInt8}
    (h : (tokenize script).tokens = before ++ t :: behind)
    (hm : (tokenize script).malformedToken? ≠ some t) (hc : script[t.span.stop]? = some c) :
    ∃ u us afterValue rest, behind = u :: us ∧ u.span.start = t.span.stop ∧
      Site script u afterValue c rest := by
  obtain ⟨l, b, rest, hbefore, hu, hfine, rfl, hbehind⟩ := exists_site h
  have hread : Reads (Lexer.on script) (before ++ [(l.read b rest).token]) (l.read b rest).lexer :=
    Reads.append_iff.2 ⟨l, hbefore, .read (Lexer.next?_eq_some_iff.2 ⟨b, rest, hu, hfine, rfl⟩)
      (.done _)⟩
  -- the lexer behind the token stands where the token stops, in front of `c`
  have hleft : (l.read b rest).lexer.unread ≠ [] := by
    have hget : script[(l.read b rest).lexer.position]? = some c := hc
    intro hnil
    rw [← List.head?_drop, ← hread.unread_eq_drop, hnil] at hget
    exact absurd hget (by simp)
  have hclosed : (l.read b rest).lexer.malformed = false := by
    rw [Lexer.malformed_read, Bool.not_eq_false', ← Bool.not_eq_false]
    exact mt (malformedToken?_read_iff h hbehind).2 hm
  obtain ⟨u, us, rfl, hstart⟩ := hbehind.exists_cons (Lexer.next?_drain _) hleft hclosed
  have hmem : u ∈ (tokenize script).tokens := by
    rw [h]
    simp
  obtain ⟨afterValue, c', rest', hsite⟩ := exists_site_of_mem hmem
  obtain rfl := hsite.eq_of_getElem? (by rw [hstart]; exact hc)
  exact ⟨u, us, afterValue, rest', rfl, hstart, hsite⟩

/-- Of two tokens in a row the second starts where the first stops. -/
theorem start_eq_stop {script : List UInt8} {before behind : List Token} {t u : Token}
    (h : (tokenize script).tokens = before ++ t :: u :: behind) : u.span.start = t.span.stop := by
  obtain ⟨l, b, rest, -, -, -, rfl, hbehind⟩ := exists_site h
  obtain ⟨p, hp, rfl, -⟩ := Reads.cons_iff.1 hbehind
  obtain ⟨c, rest', -, -, rfl⟩ := Lexer.next?_eq_some_iff.1 hp
  rfl

/-- **The lexer at a token.** Where a token starts, a lexer that had met no malformed token stood
before the bytes of the script from there on, and gave this token and all those behind it. -/
theorem exists_lexer_at {script : List UInt8} {before behind : List Token} {t : Token}
    (h : (tokenize script).tokens = before ++ t :: behind) :
    ∃ l : Lexer, l.malformed = false ∧ l.unread = script.drop t.span.start ∧
      l.drain.tokens = t :: behind := by
  obtain ⟨l, b, rest, hbefore, -, hm, rfl, -⟩ := exists_site h
  -- what the whole run gives behind the tokens before is what this lexer gives
  have hall : before ++ l.drain.tokens = before ++ (l.read b rest).token :: behind := by
    calc before ++ l.drain.tokens
        = (Lexer.on script).drain.tokens := hbefore.tokens_drain.symm
      _ = before ++ (l.read b rest).token :: behind := h
  exact ⟨l, hm, hbefore.unread_eq_drop, List.append_cancel_left hall⟩

/-! ### The longest beginning -/

/-- **The longest beginning** of some bytes that has a property, which may ask for the bytes behind
the beginning as well. -/
structure Longest (p : List UInt8 → List UInt8 → Prop) (s text : List UInt8) : Prop where
  holds : ∃ rest, text ++ rest = s ∧ p text rest
  longest : ∀ u rest, u ++ rest = s → p u rest → u <+: text

/-! ### Offsets -/

theorem isLeast_add_iff {p : ℕ → Prop} {a n : ℕ} :
    IsLeast {i | a ≤ i ∧ p i} (n + a) ↔ IsLeast {i | p (i + a)} n := by
  constructor
  · rintro ⟨⟨-, hn⟩, hleast⟩
    exact ⟨hn, fun i hi => Nat.le_of_add_le_add_right (hleast ⟨Nat.le_add_left a i, hi⟩)⟩
  · rintro ⟨hn, hleast⟩
    refine ⟨⟨Nat.le_add_left a n, hn⟩, ?_⟩
    rintro i ⟨hle, hi⟩
    obtain ⟨j, rfl⟩ := Nat.exists_eq_add_of_le' hle
    exact Nat.add_le_add_right (hleast hi) a

end PageScan.Script
