import PageScan.Proofs.Script.InPlaceReading
import PageScan.Proofs.Script.Site

/-!
# How far numerals reach

A numeral is digits, digits around a dot, or digits behind one (`IsNumeral`). One rule reads
numerals and lone dots, and it reads the longest numeral that the bytes begin with
(`longest_numeral`). Where there is none, at a dot that no digit follows, the dot is an operator.

What this makes of digits and dots in any order, such as `1..2` or `1.2.3`, is said by
`GreedySplit`: from the left, the longest numeral that can be had, and a dot alone where none can.
The lexer does this with any run of digits and dots that goes as far as it can
(`Lexer.reads_digitsAndDots`). Each token takes some of the run, and so the induction is on how many
bytes of it are left; what comes behind the run changes nothing, since neither a digit nor a dot is
there for a numeral to go on with.

The lexer in place looks for a second dot in each numeral and would give nothing if it found one.
The statement for all tokens of a script is `number_or_dot`.
-/

namespace PageScan.Script

/-! ### The grammar of numerals -/

/-- One digit or more. -/
def IsDigits (d : List UInt8) : Prop := d ≠ [] ∧ ∀ b ∈ d, isDigit b = true

/-- **A numeral:** digits; digits and a dot, and maybe digits behind it; or a dot and digits. -/
inductive IsNumeral : List UInt8 → Prop
  | whole {d : List UInt8} (hd : IsDigits d) : IsNumeral d
  | point {d e : List UInt8} (hd : IsDigits d) (he : e = [] ∨ IsDigits e) :
      IsNumeral (d ++ dot :: e)
  | fraction {e : List UInt8} (he : IsDigits e) : IsNumeral (dot :: e)

theorem nil_or_isDigits_takeWhile (s : List UInt8) :
    s.takeWhile isDigit = [] ∨ IsDigits (s.takeWhile isDigit) := by
  by_cases h : s.takeWhile isDigit = []
  · exact .inl h
  · exact .inr ⟨h, List.all_eq_true.1 List.all_takeWhile⟩

theorem IsDigits.exists_isDigit {d : List UInt8} (h : IsDigits d) : ∃ b ∈ d, isDigit b = true := by
  obtain ⟨b, d, rfl⟩ := List.exists_cons_of_ne_nil h.1
  exact ⟨b, List.mem_cons_self, h.2 b List.mem_cons_self⟩

/-- A numeral has a digit. -/
theorem IsNumeral.exists_isDigit {u : List UInt8} (h : IsNumeral u) :
    ∃ b ∈ u, isDigit b = true := by
  cases h with
  | whole hd => exact hd.exists_isDigit
  | point hd _ =>
    obtain ⟨b, hb, hdigit⟩ := hd.exists_isDigit
    exact ⟨b, List.mem_append_left _ hb, hdigit⟩
  | fraction he =>
    obtain ⟨b, hb, hdigit⟩ := he.exists_isDigit
    exact ⟨b, List.mem_cons_of_mem dot hb, hdigit⟩

/-! ### The rule for numerals takes the longest -/

section Rule

variable {s u : List UInt8}

/-- What the rule takes is a numeral, unless it is nothing or a lone dot. -/
theorem isNumeral_numeral (hne : (numeral s).text ≠ []) (hdot : (numeral s).text ≠ [dot]) :
    IsNumeral (numeral s).text := by
  revert hne hdot
  unfold numeral
  dsimp only
  -- where no dot is met, the digits are the numeral
  have hwhole (hne : (Cut.run isDigit s).text ≠ []) : IsNumeral (Cut.run isDigit s).text :=
    .whole ((nil_or_isDigits_takeWhile s).resolve_left hne)
  split
  · next b rest _ =>
    split
    · next hb =>
      subst hb
      intro _ hdot
      show IsNumeral (s.takeWhile isDigit ++ dot :: rest.takeWhile isDigit)
      rcases nil_or_isDigits_takeWhile s with hnil | hdigits
      · -- without digits before the dot there are some behind it
        rw [Cut.text_run, Cut.text_run, hnil, List.nil_append] at hdot
        rw [hnil, List.nil_append]
        refine .fraction ((nil_or_isDigits_takeWhile rest).resolve_left ?_)
        intro hrest
        exact hdot (by rw [hrest])
      · exact .point hdigits (nil_or_isDigits_takeWhile rest)
    · exact fun hne _ => hwhole hne
  · exact fun hne _ => hwhole hne

/-- Digits in front of the bytes are taken, whatever the rule takes of the bytes themselves. -/
theorem text_numeral_digits (hu : ∀ b ∈ u, isDigit b = true) (s : List UInt8) :
    (numeral (u ++ s)).text = u ++ (numeral s).text := by
  induction u with
  | nil => rfl
  | cons b u ih =>
    rw [List.forall_mem_cons] at hu
    rw [List.cons_append, numeral_digit hu.1, Cut.text_cons, ih hu.2, List.cons_append]

theorem prefix_numeral_dot {e : List UInt8} (he : ∀ b ∈ e, isDigit b = true) (s : List UInt8) :
    dot :: e <+: (numeral (dot :: (e ++ s))).text := by
  rw [numeral_dot, Cut.text_cons, Cut.text_run, List.takeWhile_append_of_pos he]
  exact (List.prefix_cons_inj dot).2 (List.prefix_append e _)

/-- The rule takes every numeral that the bytes begin with. -/
theorem IsNumeral.prefix_numeral (h : IsNumeral u) (s : List UInt8) :
    u <+: (numeral (u ++ s)).text := by
  cases h with
  | whole hd =>
    rw [text_numeral_digits hd.2]
    exact List.prefix_append u _
  | @point d e hd he =>
    -- digits may be missing behind the dot, and then there is nothing to check
    have hdigits : ∀ b ∈ e, isDigit b = true := by
      rcases he with rfl | he
      · exact fun b hb => absurd hb List.not_mem_nil
      · exact he.2
    rw [List.append_assoc, List.cons_append, text_numeral_digits hd.2]
    exact (List.prefix_append_right_inj d).2 (prefix_numeral_dot hdigits s)
  | fraction he => exact prefix_numeral_dot he.2 s

/-- **The numeral that is read is the longest** that the bytes begin with. -/
theorem longest_numeral (hne : (numeral s).text ≠ []) (hdot : (numeral s).text ≠ [dot]) :
    Longest (fun u _ => IsNumeral u) s (numeral s).text where
  holds := ⟨_, numeral_text_append_rest s, isNumeral_numeral hne hdot⟩
  longest := by
    intro u rest hparts hu
    rw [← hparts]
    exact hu.prefix_numeral rest

/-- No numeral begins at a dot that is taken alone. -/
theorem not_isNumeral_of_loneDot (hs : s.head?.any isDigit = false) (hu : u <+: dot :: s) :
    ¬IsNumeral u := by
  intro h
  obtain ⟨rest, hrest⟩ := hu
  have htaken := h.prefix_numeral rest
  rw [hrest, numeral_loneDot hs] at htaken
  -- the dot would be the digit of the numeral
  obtain ⟨b, hb, hdigit⟩ := h.exists_isDigit
  rw [List.mem_singleton.1 (htaken.subset hb)] at hdigit
  exact absurd hdigit (by decide)

/-- Bytes with which no numeral goes on change nothing in what is read before them. -/
theorem numeral_append {rest : List UInt8}
    (hrest : ∀ c ∈ rest.head?, isDigit c = false ∧ c ≠ dot) :
    numeral (s ++ rest) = (numeral s).before ((numeral s).rest ++ rest) := by
  have hparts := numeral_text_append_rest s
  calc numeral (s ++ rest)
      = numeral ((numeral s).text ++ ((numeral s).rest ++ rest)) := by
        rw [← List.append_assoc, hparts]
    _ = (numeral s).before ((numeral s).rest ++ rest) := by
        apply numeral_again
        intro c hc
        -- the next byte is the one at which the rule stopped, or the first behind `s`
        cases hstop : (numeral s).rest with
        | nil =>
          rw [hstop, List.nil_append] at hc
          exact ⟨(hrest c hc).1, fun hdot => absurd hdot (hrest c hc).2⟩
        | cons d r =>
          rw [hstop] at hc
          exact numeral_stop s c (by rw [hstop]; exact hc)

end Rule

/-! ### Numbers and dots among the tokens -/

/-- A number was read by the rule for numerals, and is no lone dot. -/
theorem lexeme_of_number {afterValue : Bool} {b : UInt8} {rest : List UInt8}
    (h : (lexeme afterValue b rest).kind = .number) :
    lexeme afterValue b rest = ⟨numeral (b :: rest), .number⟩ ∧
      (numeral (b :: rest)).text ≠ [dot] := by
  have hbegins := begins_lexeme afterValue b rest
  generalize lexeme afterValue b rest = x at hbegins h ⊢
  cases hbegins with
  | number _ ht => exact ⟨rfl, ht⟩
  | whitespace | lineSeparator | loneDot | lineComment | blockComment | lastSlash | division | regex
    | string | markup | operator => exact TokenKind.noConfusion h
  | word => exact absurd h (kind_word_ne rfl (b :: rest))

/-- **A number** is a numeral, with one dot at most. The byte behind it is no digit, and no dot
either if it has none itself. -/
structure Token.IsNumber (script : List UInt8) (t : Token) : Prop where
  numeral : IsNumeral t.text
  oneDot : t.text.count dot ≤ 1
  noDigit : ∀ c, script[t.span.stop]? = some c → isDigit c = false
  noDot : dot ∉ t.text → script[t.span.stop]? ≠ some dot

section Tokens

variable {script : List UInt8} {t : Token} {afterValue : Bool} {b : UInt8} {rest : List UInt8}

/-- **A number where it stands** is a numeral, and goes as far as it can. -/
theorem Site.isNumber (h : Site script t afterValue b rest) (hkind : t.kind = .number) :
    t.IsNumber script := by
  have hends := h.endsBefore
  rw [hkind] at hends
  -- the byte behind the number, as the script has it and as the rule left it
  have hstop {c : UInt8} (hc : script[t.span.stop]? = some c) :
      isDigit c = false ∧ (c = dot → dot ∈ t.text) := by
    apply hends c
    rw [List.head?_drop]
    exact hc
  rw [h.kind] at hkind
  obtain ⟨hlexeme, hdot⟩ := lexeme_of_number hkind
  have htext : t.text = (Script.numeral (b :: rest)).text := by
    rw [h.text, hlexeme]
  have hne : (Script.numeral (b :: rest)).text ≠ [] := by
    rw [← htext, h.text]
    exact lexeme_text_ne_nil afterValue b rest
  constructor
  · rw [htext]
    exact isNumeral_numeral hne hdot
  · rw [htext]
    exact count_dot_numeral (b :: rest)
  · intro c hc
    exact (hstop hc).1
  · intro hnone hc
    exact hnone ((hstop hc).2 rfl)

/-- A dot begins a number if a digit follows it, and is an operator if none does. -/
theorem lexeme_dot (afterValue : Bool) (rest : List UInt8) :
    ((lexeme afterValue dot rest).kind = .number ↔ rest.head?.any isDigit = true) ∧
      ((lexeme afterValue dot rest).kind ≠ .number →
        (lexeme afterValue dot rest).kind = .operator ∧
          (lexeme afterValue dot rest).text = [dot]) := by
  -- the rule for numerals takes a lone dot exactly where no digit follows
  cases hr : rest.head?.any isDigit with
  | true =>
    have htext : (numeral (dot :: rest)).text ≠ [dot] := by
      intro htext
      rw [(numeral_text_eq_dot_iff.1 htext).2] at hr
      exact Bool.noConfusion hr
    have hbegins : Begins afterValue dot rest ⟨numeral (dot :: rest), .number⟩ :=
      .number (.inr rfl) htext
    rw [hbegins.lexeme_eq]
    exact ⟨iff_of_true rfl rfl, fun hne => absurd rfl hne⟩
  | false =>
    have hbegins : Begins afterValue dot rest ⟨⟨[dot], rest, true⟩, .operator⟩ := .loneDot hr
    rw [hbegins.lexeme_eq]
    exact ⟨iff_of_false TokenKind.noConfusion Bool.noConfusion, fun _ => ⟨rfl, rfl⟩⟩

end Tokens

/-! ### Runs of digits and dots -/

/-- **Split greedily from the left.** Each token is the longest numeral that the bytes begin with
from there on, and where they begin with none, it is a dot alone. -/
inductive GreedySplit : List UInt8 → List Token → Prop
  | nil : GreedySplit [] []
  | number {t : Token} {ts : List Token} {s : List UInt8} (hkind : t.kind = .number)
      (htext : Longest (fun u _ => IsNumeral u) (t.text ++ s) t.text) (hs : GreedySplit s ts) :
      GreedySplit (t.text ++ s) (t :: ts)
  | loneDot {t : Token} {ts : List Token} {s : List UInt8} (hkind : t.kind = .operator)
      (htext : t.text = [dot]) (hnone : ∀ u, u <+: dot :: s → ¬IsNumeral u)
      (hs : GreedySplit s ts) : GreedySplit (dot :: s) (t :: ts)

/-- Nothing of the bytes is lost. -/
theorem GreedySplit.flatMap_text {s : List UInt8} {ts : List Token} (h : GreedySplit s ts) :
    ts.flatMap (·.text) = s := by
  induction h with
  | nil => rfl
  | number _ _ _ ih => rw [List.flatMap_cons, ih]
  | loneDot _ htext _ _ ih => rw [List.flatMap_cons, ih, htext, List.singleton_append]

/-- Where a run of digits and dots begins, what is read depends on the run alone. -/
theorem lexeme_of_run {b : UInt8} {s rest : List UInt8} (hb : isDigit b = true ∨ b = dot)
    (hrest : ∀ c ∈ rest.head?, isDigit c = false ∧ c ≠ dot) (afterValue : Bool) :
    lexeme afterValue b (s ++ rest) =
      { Lexeme.numeralOrDot (b :: s) with rest := (numeral (b :: s)).rest ++ rest } := by
  rw [lexeme_numeral afterValue hb, Lexeme.numeralOrDot, ← List.cons_append, numeral_append hrest]
  rfl

/-- The first token of a split, as the rule for numerals and lone dots reads it. -/
theorem GreedySplit.cons {b : UInt8} {s : List UInt8} {t : Token} {ts : List Token}
    (hb : isDigit b = true ∨ b = dot) (hkind : t.kind = (Lexeme.numeralOrDot (b :: s)).kind)
    (htext : t.text = (numeral (b :: s)).text) (hs : GreedySplit (numeral (b :: s)).rest ts) :
    GreedySplit (b :: s) (t :: ts) := by
  -- the rule takes the dot alone or the longest numeral, and these are the two ways to go on
  by_cases hdot : (numeral (b :: s)).text = [dot]
  · obtain ⟨rfl, hnone⟩ := numeral_text_eq_dot_iff.1 hdot
    rw [Lexeme.numeralOrDot, if_pos hdot] at hkind
    rw [numeral_loneDot hnone] at hs
    exact .loneDot hkind (htext.trans hdot) (fun u hu => not_isNumeral_of_loneDot hnone hu) hs
  · rw [Lexeme.numeralOrDot, if_neg hdot] at hkind
    have hparts := numeral_text_append_rest (b :: s)
    have hlongest := longest_numeral (numeral_text_ne_nil hb) hdot
    rw [← htext] at hlongest hparts
    rw [← hparts] at hlongest ⊢
    exact .number hkind hlongest hs

/-- **A run of digits and dots** is split greedily, if it goes as far as it can. -/
theorem Lexer.reads_digitsAndDots {run rest : List UInt8} {l : Lexer} (hm : l.malformed = false)
    (hu : l.unread = run ++ rest) (hrun : ∀ c ∈ run, isDigit c = true ∨ c = dot)
    (hrest : ∀ c ∈ rest.head?, isDigit c = false ∧ c ≠ dot) :
    ∃ ts l', Reads l ts l' ∧ GreedySplit run ts := by
  induction hn : run.length using Nat.strong_induction_on generalizing run l with
  | h n ih =>
    cases run with
    | nil => exact ⟨[], l, .done l, .nil⟩
    | cons b s =>
      have hb : isDigit b = true ∨ b = dot := hrun b List.mem_cons_self
      have hnext : l.next? = some (l.read b (s ++ rest)) :=
        next?_eq_some_iff.2 ⟨b, s ++ rest, hu, hm, rfl⟩
      have hlexeme := lexeme_of_run (s := s) hb hrest l.afterValue
      have hparts := numeral_text_append_rest (b :: s)
      -- the token takes some of the run, and what it leaves of it is such a run again
      have hshorter : (numeral (b :: s)).rest.length < n := by
        have hne : (numeral (b :: s)).text ≠ [] := numeral_text_ne_nil hb
        have hlen := congrArg List.length hparts
        have hpos := List.length_pos_iff.2 hne
        rw [List.length_append] at hlen
        omega
      have hleft : ∀ c ∈ (numeral (b :: s)).rest, isDigit c = true ∨ c = dot := by
        intro c hc
        apply hrun
        rw [← hparts]
        exact List.mem_append_right _ hc
      -- the token is no malformed one, so that the lexer goes on behind it
      have hclosed : (l.read b (s ++ rest)).lexer.malformed = false := by
        rw [malformed_read, hlexeme]
        simp [Lexeme.numeralOrDot]
      obtain ⟨ts, l', hts, hsplit⟩ :=
        ih _ hshorter hclosed (by rw [unread_read, hlexeme]) hleft rfl
      refine ⟨_, l', .read hnext hts, hsplit.cons hb ?_ ?_⟩
      · rw [kind_read, hlexeme]
      · rw [text_read, hlexeme]
        rfl

/-! ### All numbers and dots of a script -/

/-- **Numbers and dots.** Every script is read in place, so that no second dot is found in a number;
and every number is one. A token that starts with a dot is a number if a digit follows the dot, and
otherwise the dot alone, an operator. Where a token starts at a run of digits and dots that goes as
far as it can, the tokens from there on split the run greedily, and nothing of it is lost. -/
theorem number_or_dot {script : List UInt8} {before behind : List Token} {t : Token}
    (h : (tokenize script).tokens = before ++ t :: behind) :
    tokenizeInPlace script = some (tokenize script) ∧
    (t.kind = .number → t.IsNumber script) ∧
    (script[t.span.start]? = some dot →
      (t.kind = .number ↔ ∃ c, script[t.span.start + 1]? = some c ∧ isDigit c = true) ∧
        (t.kind ≠ .number → t.kind = .operator ∧ t.text = [dot])) ∧
    ∀ run rest, script.drop t.span.start = run ++ rest →
      (∀ c ∈ run, isDigit c = true ∨ c = dot) →
      (∀ c ∈ rest.head?, isDigit c = false ∧ c ≠ dot) →
        ∃ ts us, t :: behind = ts ++ us ∧ GreedySplit run ts ∧ ts.flatMap (·.text) = run := by
  obtain ⟨afterValue, b, rest, hsite⟩ := exists_site_of_eq_append h
  refine ⟨tokenizeInPlace_eq script, hsite.isNumber, ?_, ?_⟩
  · intro hdot
    obtain rfl := hsite.eq_of_getElem? hdot
    obtain ⟨hnumber, hother⟩ := lexeme_dot afterValue rest
    rw [hsite.kind, hsite.text, hsite.getElem?_succ_start]
    exact ⟨hnumber.trans (Option.any_eq_true _ _), hother⟩
  · intro run rest' hunread hrun hrest
    obtain ⟨l, hm, hu, htokens⟩ := exists_lexer_at h
    obtain ⟨ts, l', hts, hsplit⟩ := l.reads_digitsAndDots hm (hu.trans hunread) hrun hrest
    exact ⟨ts, l'.drain.tokens, htokens.symm.trans hts.tokens_drain, hsplit, hsplit.flatMap_text⟩

/-- In `1..2.3.` the first numeral takes one dot and leaves the other to the second; the last dot
has no digit behind it and is an operator. -/
theorem number_or_dot_of_many :
    ∃ t behind, (tokenize [0x31, 0x2E, 0x2E, 0x32, 0x2E, 0x33, 0x2E]).tokens = t :: behind ∧
      t.IsNumber [0x31, 0x2E, 0x2E, 0x32, 0x2E, 0x33, 0x2E] ∧
        ∃ ts us, t :: behind = ts ++ us ∧
          GreedySplit [0x31, 0x2E, 0x2E, 0x32, 0x2E, 0x33, 0x2E] ts := by
  have htokens : (tokenize [0x31, 0x2E, 0x2E, 0x32, 0x2E, 0x33, 0x2E]).tokens =
      [⟨.number, ⟨0, 2⟩, [0x31, 0x2E]⟩, ⟨.number, ⟨2, 4⟩, [0x2E, 0x32]⟩,
        ⟨.number, ⟨4, 6⟩, [0x2E, 0x33]⟩, ⟨.operator, ⟨6, 7⟩, [0x2E]⟩] := by decide +kernel
  have hrun : ∀ c ∈ [0x31, 0x2E, 0x2E, 0x32, 0x2E, 0x33, 0x2E], isDigit c = true ∨ c = dot := by
    simp [isDigit, dot]
  obtain ⟨-, hnumber, -, hruns⟩ := @number_or_dot _ [] _ _ htokens
  obtain ⟨ts, us, hsplit, hgreedy, -⟩ :=
    hruns _ [] (List.append_nil _).symm hrun (fun c hc => absurd hc (Option.not_mem_none c))
  exact ⟨_, _, htokens, hnumber rfl, ts, us, hsplit, hgreedy⟩

end PageScan.Script
