import PageScan.Proofs.Script.Ending

/-!
# The beginning of a script

A script that goes on and one that is cut off have the same tokens as far as the cut. The lexer
looks ahead, by one byte behind a run or a slash, by four for the opening mark of a markup comment,
and it asks whether the script is at its end. Still a token that ends before the cut is read as if
the script were whole, since the bytes behind it that are left end it as well
(`Lexer.next?_again`). Step by step the lexer on the whole script and the lexer on its beginning go
together until the cut (`Reads.cutOff`).

A malformed token stops both, so when there is one before the cut nothing of the scripts is read
that would tell them apart.
-/

namespace PageScan.Script

/-! ### One token before the cut -/

/-- A token that ends before the cut leaves the bytes from its end to the cut and those behind. -/
theorem exists_rest_of_append {x : Lexeme} {s more : List UInt8}
    (hcut : x.text ++ x.rest = s ++ more) (h : x.text.length ≤ s.length) :
    ∃ r, s = x.text ++ r ∧ x.rest = r ++ more := by
  rcases List.append_eq_append_iff.1 hcut with ⟨r, htext, hrest⟩ | ⟨r, htext, hrest⟩
  · exact ⟨r, htext, hrest⟩
  · rw [htext, List.length_append] at h
    obtain rfl : r = [] := List.eq_nil_of_length_eq_zero (by omega)
    exact ⟨[], by rw [htext, List.append_nil, List.append_nil], hrest.symm⟩

/-! ### The run to the cut -/

/-- **A run that ends before the cut** is one without what is behind the cut. -/
theorem Reads.cutOff {l l' : Lexer} {ts : List Token} (h : Reads l ts l') {s more : List UInt8}
    (hu : l.unread = s ++ more) (hlen : (ts.flatMap (·.text)).length ≤ s.length) :
    ∃ r, l'.unread = r ++ more ∧ Reads (l.facing s) ts (l'.facing r) := by
  induction h generalizing s with
  | done => exact ⟨s, hu, .done _⟩
  | @read l l' p ts hp hr ih =>
    obtain ⟨b, rest, hb, hm, rfl⟩ := Lexer.next?_eq_some_iff.1 hp
    rw [List.flatMap_cons, List.length_append, Lexer.text_read] at hlen
    have hcut := lexeme_text_append_rest l.afterValue b rest
    rw [← hb, hu] at hcut
    obtain ⟨r, htext, hrest⟩ := exists_rest_of_append hcut (by omega)
    -- where nothing is left behind the token, nothing is left before the cut
    have hlast : (lexeme l.afterValue b rest).rest = [] → r = [] := by
      intro hnil
      rw [hnil] at hrest
      exact (List.append_eq_nil_iff.1 hrest.symm).1
    have hends : (lexeme l.afterValue b rest).EndsBefore r :=
      (lexeme_endsBefore l.afterValue b rest).shorter ⟨more, hrest.symm⟩
    have hnext := Lexer.next?_again hm hlast hends
    rw [← htext] at hnext
    rw [htext, List.length_append] at hlen
    obtain ⟨r', hr', hreads⟩ := ih hrest (by omega)
    exact ⟨r', hr', Reads.read (p := (l.read b rest).facing r) hnext hreads⟩

/-! ### All tokens before the cut -/

/-- The tokens of a run that stop before an offset are its first ones. -/
theorem Reads.filter_stop {l l' : Lexer} {ts : List Token} (h : Reads l ts l') (n : Nat) :
    ts.filter (·.span.stop < n) <+: ts := by
  induction h with
  | done => exact List.nil_prefix
  | @read l l' p ts hp hr ih =>
    obtain ⟨b, rest, -, -, rfl⟩ := Lexer.next?_eq_some_iff.1 hp
    by_cases hn : (l.read b rest).token.span.stop < n
    · simp only [List.filter_cons, hn, decide_true, if_true]
      exact (List.prefix_cons_inj _).2 ih
    · -- those behind stop even later
      have hnone : ts.filter (·.span.stop < n) = [] := by
        rw [List.filter_eq_nil_iff]
        intro t ht
        have hlater : (l.read b rest).token.span.stop < t.span.stop := hr.position_lt_stop t ht
        simp only [decide_eq_true_eq]
        omega
      simp only [List.filter_cons, hn, decide_false, Bool.false_eq_true, if_false, hnone]
      exact List.nil_prefix

/-- A run on a script has passed over the bytes before the place where its last token stops. -/
theorem Reads.length_flatMap_text {script : List UInt8} {l : Lexer} {ts : List Token}
    (h : Reads (Lexer.on script) ts l) :
    (ts.flatMap (·.text)).length = (ts.getLast?.map (·.span.stop)).getD 0 := by
  have hposition : l.position = 0 + (ts.flatMap (·.text)).length := h.position
  have hstop : l.position = (ts.getLast?.map (·.span.stop)).getD 0 := h.position_eq_stop
  omega

/-- **Tokens before a cut.** When a script goes on with more bytes, the tokens that stop before the
place where it went on are the first tokens that it has alone. If one of them is malformed, the
tokens are the same altogether. -/
theorem tokens_before_cut (script more : List UInt8) :
    (tokenize (script ++ more)).tokens.filter (·.span.stop < script.length) <+:
        (tokenize script).tokens ∧
      ∀ t ∈ (tokenize (script ++ more)).tokens.filter (·.span.stop < script.length),
        (tokenize (script ++ more)).malformedToken? = some t →
          tokenize script = tokenize (script ++ more) := by
  have hall := reads_tokenize (script ++ more)
  refine ⟨?_, ?_⟩
  · obtain ⟨behind, hsplit⟩ := hall.filter_stop script.length
    generalize hbefore : (tokenize (script ++ more)).tokens.filter (·.span.stop < script.length) =
      before at hsplit ⊢
    rw [← hsplit] at hall
    obtain ⟨l, hreads, -⟩ := Reads.append_iff.1 hall
    -- the bytes of these tokens are no more than there are before the cut
    have hfits : (before.flatMap (·.text)).length ≤ script.length := by
      rw [hreads.length_flatMap_text]
      cases hlast : before.getLast? with
      | none => exact Nat.zero_le _
      | some t =>
        have ht : t ∈ before := List.mem_of_getLast? hlast
        rw [← hbefore, List.mem_filter] at ht
        have hstop : t.span.stop < script.length := by simpa using ht.2
        exact Nat.le_of_lt hstop
    obtain ⟨r, -, hcut⟩ := hreads.cutOff rfl hfits
    exact ⟨_, hcut.tokens_drain.symm⟩
  · intro t ht hmalformed
    obtain ⟨hm, hlast⟩ := Tokenized.malformedToken?_eq_some_iff.1 hmalformed
    have hstop : t.span.stop < script.length := by simpa using (List.mem_filter.1 ht).2
    have hfits : ((tokenize (script ++ more)).tokens.flatMap (·.text)).length ≤ script.length := by
      rw [hall.length_flatMap_text, hlast]
      exact Nat.le_of_lt hstop
    obtain ⟨r, -, hcut⟩ := hall.cutOff rfl hfits
    -- the lexer on the beginning has met the malformed token, too, and reads no further
    have hend : ((Lexer.on (script ++ more)).drain.lexer.facing r).next? = none :=
      Lexer.next?_eq_none_iff.2 (.inr hm)
    have htokens : (tokenize script).tokens = (tokenize (script ++ more)).tokens := by
      have hdrain := hcut.tokens_drain
      rwa [Lexer.drain_of_none hend, List.append_nil] at hdrain
    have hlexer : (tokenize script).malformed = true := by
      have hdrain := hcut.lexer_drain
      rw [Lexer.drain_of_none hend] at hdrain
      exact (congrArg Lexer.malformed hdrain).trans hm
    rw [Tokenized.mk.injEq]
    exact ⟨htokens, hlexer.trans hm.symm⟩

/-- The regular expression `/a` ends with the line feed before the cut, and neither `b` nor what
comes behind it is read. -/
theorem broken_regex_before_cut :
    (tokenize [0x2F, 0x61, 0x0A, 0x62, 0x2F]).malformedToken? =
        some ⟨.regex, ⟨0, 3⟩, [0x2F, 0x61, 0x0A]⟩ ∧
      tokenize [0x2F, 0x61, 0x0A, 0x62] = tokenize [0x2F, 0x61, 0x0A, 0x62, 0x2F] := by
  have hmalformed : (tokenize ([0x2F, 0x61, 0x0A, 0x62] ++ [0x2F])).malformedToken? =
      some ⟨.regex, ⟨0, 3⟩, [0x2F, 0x61, 0x0A]⟩ := by decide +kernel
  have hmem : ⟨.regex, ⟨0, 3⟩, [0x2F, 0x61, 0x0A]⟩ ∈
      (tokenize ([0x2F, 0x61, 0x0A, 0x62] ++ [0x2F])).tokens.filter
        (·.span.stop < [0x2F, 0x61, 0x0A, 0x62].length) := by decide +kernel
  exact ⟨hmalformed, (tokens_before_cut [0x2F, 0x61, 0x0A, 0x62] [0x2F]).2 _ hmem hmalformed⟩

end PageScan.Script
