import PageScan.Proofs.Script.InPlaceExtent
import PageScan.Proofs.Script.Reading

/-!
# Reading in place is reading

The lexer in place and the lexer that cuts bytes off do the same. For one token this is
`InPlaceLexer.pull_view`: whatever marks an earlier token has left, the lexer in place gives the
token that the lexer it shows (`InPlaceLexer.view`) gives, and the two are behind it alike. For a
whole script it is `tokenizeInPlace_eq`.

Both say more than that two answers are equal. The lexer in place answers `none` when it looks for
a byte behind the end of the script, slices out of it, asks a span for a length that it has not or
finds a second dot in a numeral. None of this happens.
-/

namespace PageScan.Script

/-! ### Each scan finds its lexeme -/

/-- The outcome of a scan that started with the marks `m` is the lexeme `x`. -/
def ScansTo (m : Marks) (x : Lexeme) (outcome : Option (TokenKind × Marks)) : Prop :=
  ∃ m', outcome = some (x.kind, m') ∧ m'.index = m.index + x.text.length ∧
    m'.afterValue = x.valueBehind m.afterValue ∧ m'.malformed = !x.closed

/-- A slice that lies within the script is the beginning of what is left there. -/
theorem slice?_of_drop {script text rest : List UInt8} {start : Nat}
    (h : script.drop start = text ++ rest) (hs : start ≤ script.length) :
    slice? script ⟨start, start + text.length⟩ = some text := by
  have hlen := congrArg List.length h
  rw [List.length_drop, List.length_append] at hlen
  rw [slice?, if_pos (by dsimp only; omega), List.drop_take, h]
  simp

/-- A lexeme lies within the script that it is read off: its text is a slice, and the script goes on
behind the slice with what the lexeme leaves. -/
theorem lexeme_within (afterValue : Bool) {script : List UInt8} {offset : Nat} {b : UInt8}
    {rest : List UInt8} (h : script.drop offset = b :: rest) :
    slice? script ⟨offset, offset + (lexeme afterValue b rest).text.length⟩ =
        some (lexeme afterValue b rest).text ∧
      script.drop (offset + (lexeme afterValue b rest).text.length) =
        (lexeme afterValue b rest).rest ∧
      offset + (lexeme afterValue b rest).text.length ≤ script.length := by
  obtain ⟨hlt, -, -⟩ := getElem?_of_drop_eq_cons h
  have hdrop : script.drop offset = _ := h.trans (lexeme_text_append_rest afterValue b rest).symm
  refine ⟨slice?_of_drop hdrop (Nat.le_of_lt hlt), ?_, ?_⟩
  · rw [← List.drop_drop, hdrop, List.drop_left]
  · have hlen := congrArg List.length hdrop
    rw [List.length_drop, List.length_append] at hlen
    omega

section Scans

variable {script : List UInt8} {m : Marks} {b : UInt8} {rest : List UInt8} {x : Lexeme}

/-- A scan that leaves the bit alone finds a lexeme that leaves it alone. -/
theorem scanPlain_scansTo {e : Extent} (hs : script.drop m.index = b :: rest)
    (hx : (e.tail { m with previous := b } rest).cons b = x.toCut)
    (hval : x.valueBehind m.afterValue = m.afterValue) :
    ScansTo m x (scanPlain script e x.kind m) := by
  obtain ⟨m', hc, hidx, haft, hmal⟩ := consume_eq e hs hx
  refine ⟨m', ?_, hidx, haft.trans hval.symm, hmal⟩
  simp [scanPlain, hc]

/-- A scan that sets the bit finds a lexeme that sets it so. -/
theorem scanSetting_scansTo {e : Extent} {afterValue : Bool} (hs : script.drop m.index = b :: rest)
    (hx : (e.tail { m with previous := b } rest).cons b = x.toCut)
    (hval : x.valueBehind m.afterValue = afterValue) :
    ScansTo m x (scanSetting script e x.kind afterValue m) := by
  obtain ⟨m', hc, hidx, -, hmal⟩ := consume_eq e hs hx
  refine ⟨{ m' with afterValue }, ?_, hidx, hval.symm, hmal⟩
  simp [scanSetting, hc]

/-- Trivia that are runs. -/
theorem scanRun_scansTo {e : Extent} {p : UInt8 → Bool} {kind : TokenKind}
    (hp : ∀ (m : Marks) (b : UInt8), m.goesOn b e = (p b, m)) (hend : e.mayMeetEnd = true)
    (hstop : e.takesStop = false) (hkind : kind.isTrivia = true)
    (hs : script.drop m.index = b :: rest) (hm : m.malformed = false) (hb : p b = true) :
    ScansTo m ⟨Cut.run p (b :: rest), kind⟩ (scanPlain script e kind m) := by
  refine scanPlain_scansTo (x := ⟨Cut.run p (b :: rest), kind⟩) hs ?_ ?_
  · rw [Extent.tail_run (m := { m with previous := b }) hp hend hstop hm, Cut.run_cons, if_pos hb]
  · rw [Lexeme.valueBehind, if_pos hkind]

/-- The scan of a numeral finds a number or a lone dot, and no second dot. -/
theorem scanNumber_scansTo (hs : script.drop m.index = b :: rest) (hm : m.malformed = false)
    (hb : isDigit b = true ∨ b = dot) :
    ScansTo m (Lexeme.numeralOrDot (b :: rest)) (scanNumber script b m) := by
  obtain ⟨hlt, -, -⟩ := getElem?_of_drop_eq_cons hs
  have htail : (Extent.number.tail { m with seenDot := b == dot, previous := b } rest).cons b =
      numeral (b :: rest) := by
    rcases hb with hdig | rfl
    · have hne : (b == dot) = false :=
        beq_false_of_ne (by rintro rfl; exact absurd hdig (by decide))
      rw [Extent.tail_number (m := { m with seenDot := b == dot, previous := b }) hm hne,
        numeral_digit hdig]
    · rw [Extent.tail_fraction (m := { m with seenDot := dot == dot, previous := dot }) hm
        (beq_self_eq_true dot), numeral_dot]
  obtain ⟨m', hc, hidx, -, hmal⟩ :=
    consume_eq (m := { m with seenDot := b == dot }) .number hs htail
  have hslice := slice?_of_drop (hs.trans (numeral_text_append_rest (b :: rest)).symm)
    (Nat.le_of_lt hlt)
  -- the text begins with `b`, so it is a lone dot exactly when it is short and `b` is the dot
  have hdot : (numeral (b :: rest)).text.length = 1 ∧ b = dot ↔
      (numeral (b :: rest)).text = [dot] := by
    rw [← htail, Cut.text_cons]
    cases (Extent.number.tail { m with seenDot := b == dot, previous := b } rest).text <;> simp
  have hlen : Span.length? ⟨m.index, m.index + (numeral (b :: rest)).text.length⟩ =
      some (numeral (b :: rest)).text.length := by
    simp [Span.length?]
  by_cases h : (numeral (b :: rest)).text = [dot]
  · refine ⟨{ m' with seenDot := false, afterValue := false }, ?_, hidx, ?_, hmal⟩
    · refine Option.bind_eq_some_iff.2 ⟨_, hc, Option.bind_eq_some_iff.2 ⟨_, hlen, ?_⟩⟩
      rw [if_pos (hdot.2 h), Lexeme.numeralOrDot, if_pos h]
      rfl
    · simp [Lexeme.numeralOrDot, h, Lexeme.valueBehind, TokenKind.isTrivia, TokenKind.endsValue,
        isClosing, dot, closeBracket]
  · refine ⟨{ m' with seenDot := false, afterValue := true }, ?_, hidx, ?_, hmal⟩
    · -- the second dot is looked for, and is not there
      have hguard : guard ((numeral (b :: rest)).text.count dot ≤ 1) = some () :=
        if_pos (count_dot_numeral (b :: rest))
      refine Option.bind_eq_some_iff.2 ⟨_, hc, Option.bind_eq_some_iff.2 ⟨_, hlen, ?_⟩⟩
      rw [if_neg (mt hdot.1 h), Lexeme.numeralOrDot, if_neg h]
      exact Option.bind_eq_some_iff.2
        ⟨_, hslice, Option.bind_eq_some_iff.2 ⟨(), hguard, rfl⟩⟩
    · simp [Lexeme.numeralOrDot, h, Lexeme.valueBehind, TokenKind.isTrivia, TokenKind.endsValue]

/-- The scan of a word finds the keyword that its text spells, or an identifier. -/
theorem scanWord_scansTo (hs : script.drop m.index = b :: rest) (hm : m.malformed = false)
    (hb : isWordStart b = true) :
    ScansTo m (Lexeme.word (b :: rest)) (scanWord script b m) := by
  obtain ⟨hlt, -, -⟩ := getElem?_of_drop_eq_cons hs
  -- a leading backslash opens an escape already
  have htail : (Extent.word.tail { m with escaped := b == backslash, previous := b } rest).cons b =
      wordTail false (b :: rest) := by
    rw [Extent.tail_word (m := { m with escaped := b == backslash, previous := b }) hm, wordTail]
    by_cases h : b = backslash
    · rw [if_pos h, beq_iff_eq.2 h]
    · rw [if_neg h, beq_false_of_ne h, if_pos (by simp [hb])]
  obtain ⟨m', hc, hidx, -, hmal⟩ :=
    consume_eq (m := { m with escaped := b == backslash }) .word hs htail
  have hslice := slice?_of_drop (hs.trans (wordTail_text_append_rest false (b :: rest)).symm)
    (Nat.le_of_lt hlt)
  cases hk : Keyword.ofBytes? (wordTail false (b :: rest)).text with
  | some k =>
    -- the bit is set by the keyword, and for an identifier always
    refine ⟨{ m' with afterValue := k.isValue }, ?_, hidx, ?_, hmal⟩
    · simp [scanWord, hc, hslice, hk, Lexeme.word]
    · simp [Lexeme.word, hk, Lexeme.valueBehind, TokenKind.isTrivia, TokenKind.endsValue]
  | none =>
    refine ⟨{ m' with afterValue := true }, ?_, hidx, ?_, hmal⟩
    · simp [scanWord, hc, hslice, hk, Lexeme.word]
    · simp [Lexeme.word, hk, Lexeme.valueBehind, TokenKind.isTrivia, TokenKind.endsValue]

/-- An operator whose first byte stands among the marks. -/
theorem scanOperator_scansTo {afterValue : Bool} (hs : script.drop m.index = b :: rest)
    (hm : m.malformed = false) (hopen : m.opening = b) (hval : isClosing b = afterValue) :
    ScansTo m (Lexeme.punctuator b rest) (scanSetting script .operator .operator afterValue m) := by
  refine scanSetting_scansTo hs ?_ ?_
  · rw [Extent.tail_operator (m := { m with previous := b }) hm, hopen]
    rfl
  · simpa [Lexeme.valueBehind, Lexeme.punctuator, TokenKind.isTrivia, TokenKind.endsValue]
      using hval

/-- The scan of a slash makes the same choice, by the same byte and the same bit. -/
theorem scanSlash_scansTo (hs : script.drop m.index = slash :: rest) (hm : m.malformed = false)
    (hopen : m.opening = slash) (hesc : m.escaped = false) :
    ScansTo m (Lexeme.slashed m.afterValue rest) (scanSlash script m) := by
  obtain ⟨-, -, hrest⟩ := getElem?_of_drop_eq_cons hs
  have hdivide : ScansTo m (Lexeme.punctuator slash rest)
      (scanSetting script .operator .operator false m) := scanOperator_scansTo hs hm hopen rfl
  have hnext : script[m.index + 1]? = rest.head? := by rw [← List.head?_drop, hrest]
  rw [scanSlash, hnext]
  cases rest with
  | nil => exact hdivide
  | cons b s =>
    simp only [List.head?_cons, Lexeme.slashed]
    by_cases hb : b = slash
    · rw [if_pos hb, if_pos hb]
      exact scanRun_scansTo (fun _ _ => rfl) rfl rfl rfl hs hm rfl
    rw [if_neg hb, if_neg hb]
    by_cases hst : b = star
    · rw [if_pos hst, if_pos hst]
      refine scanPlain_scansTo (x := ⟨(blockTail false (b :: s)).cons slash, .comment⟩) hs ?_ rfl
      rw [Extent.tail_blockComment (m := { m with previous := slash }) hm]
      rfl
    rw [if_neg hst, if_neg hst]
    by_cases hval : m.afterValue = true
    · rw [if_pos hval, if_pos hval]
      exact hdivide
    · rw [if_neg hval, if_neg hval]
      have hfalse : m.afterValue = false := by simpa using hval
      refine scanPlain_scansTo (m := { m with inClass := false }) (e := .regex)
        (x := ⟨(regexTail false false (b :: s)).cons slash, .regex⟩) hs ?_ hfalse.symm
      -- no class and no escape is pending: the one mark was reset here, the other before the scan
      rw [Extent.tail_regex (m := { m with inClass := false, previous := slash }) hm, hesc]

/-- **A scan finds the lexeme** that the unread bytes begin with. -/
theorem scan_scansTo (hs : script.drop m.index = b :: rest) (hm : m.malformed = false)
    (hopen : m.opening = b) (hesc : m.escaped = false) :
    ScansTo m (lexeme m.afterValue b rest) (scan script b m) := by
  unfold scan lexeme
  by_cases hsp : isSpace b = true
  · rw [if_pos hsp, if_pos hsp]
    exact scanRun_scansTo (fun _ _ => rfl) rfl rfl rfl hs hm hsp
  rw [if_neg hsp, if_neg hsp]
  by_cases hls : isLineSeparator b = true
  · rw [if_pos hls, if_pos hls]
    exact scanRun_scansTo (fun _ _ => rfl) rfl rfl rfl hs hm hls
  rw [if_neg hls, if_neg hls]
  by_cases hnum : (isDigit b || b == dot) = true
  · rw [if_pos hnum, if_pos hnum]
    exact scanNumber_scansTo hs hm (by simpa using hnum)
  rw [if_neg hnum, if_neg hnum]
  by_cases hsl : b = slash
  · rw [if_pos hsl, if_pos hsl]
    subst hsl
    exact scanSlash_scansTo hs hm hopen hesc
  rw [if_neg hsl, if_neg hsl]
  by_cases hq : isQuote b = true
  · rw [if_pos hq, if_pos hq]
    refine scanSetting_scansTo (x := Lexeme.quoted b rest) hs ?_ rfl
    rw [Extent.tail_string (m := { m with previous := b }) hm, hopen, hesc]
    rfl
  rw [if_neg hq, if_neg hq]
  by_cases hw : isWordStart b = true
  · rw [if_pos hw, if_pos hw]
    exact scanWord_scansTo hs hm hw
  rw [if_neg hw, if_neg hw, hs]
  by_cases hmk : markupOpening.isPrefixOf (b :: rest) = true
  · rw [if_pos hmk, if_pos hmk]
    exact scanRun_scansTo (p := (!isLineSeparator ·)) (fun _ _ => rfl) rfl rfl rfl hs hm
      (by simpa using hls)
  rw [if_neg hmk, if_neg hmk]
  exact scanOperator_scansTo hs hm hopen rfl

end Scans

/-! ### Each pull gives the token -/

namespace InPlaceLexer

/-- The end mark lies at the offset of the lexer, as long as this is within the script. -/
theorem pullEnd_eq {l : InPlaceLexer} (hl : l.marks.index ≤ l.script.length) :
    l.pullEnd = some { token := l.view.endToken, lexer := l } := by
  have hmin : min l.marks.index l.script.length = l.marks.index := Nat.min_eq_left hl
  have hslice :
      slice? l.script ⟨l.marks.index, l.marks.index + ([] : List UInt8).length⟩ = some [] :=
    slice?_of_drop (List.nil_append (l.script.drop l.marks.index)).symm hl
  rw [List.length_nil, Nat.add_zero] at hslice
  simp [pullEnd, hmin, hslice, Lexer.endToken, view]

/-- **One token in place.** The lexer in place finds every byte that it looks for, gives the token
and the report that the lexer it shows gives, and then shows the lexer behind that token. -/
theorem pull_view {l : InPlaceLexer} (hl : l.marks.index ≤ l.script.length) :
    ∃ p, l.pull = some p ∧ p.token = l.view.pull.token ∧ p.report = l.view.pull.report ∧
      p.lexer.view = l.view.pull.lexer ∧ p.lexer.script = l.script ∧
      p.lexer.marks.index ≤ l.script.length := by
  cases hnext : l.view.next? with
  | none =>
    -- the two reasons to stop are those of the lexer shown
    have hend : (decide (l.marks.index ≥ l.script.length) || l.marks.malformed) = true := by
      simpa [view] using Lexer.next?_eq_none_iff.1 hnext
    refine ⟨{ token := l.view.endToken, lexer := l }, ?_, ?_, ?_, ?_, rfl, hl⟩
    · rw [pull, if_pos hend, pullEnd_eq hl]
    all_goals rw [Lexer.pull_of_none hnext]
  | some p =>
    obtain ⟨b, rest, hs, hm, rfl⟩ := Lexer.next?_eq_some_iff.1 hnext
    obtain ⟨hlt, hb, -⟩ := getElem?_of_drop_eq_cons hs
    have hgo : (decide (l.marks.index ≥ l.script.length) || l.marks.malformed) = false := by
      have hmarks : l.marks.malformed = false := hm
      simp [hlt, hmarks]
    have hpull : l.view.pull = l.view.read b rest := Lexer.pull_of_some hnext
    -- the scan starts from the marks of the token
    obtain ⟨m', hscan, hidx, haft, hmal⟩ :=
      scan_scansTo (m := { l.marks with opening := b, escaped := false }) hs hm rfl rfl
    obtain ⟨hslice, hrest, hle⟩ := lexeme_within l.marks.afterValue hs
    have hlen : m'.index ≤ l.script.length := by rwa [hidx]
    refine ⟨⟨(l.view.read b rest).token, { l with marks := m' },
      if m'.malformed then some ⟨l.marks.index, (lexeme l.marks.afterValue b rest).kind⟩ else none⟩,
      ?_, ?_, ?_, ?_, rfl, hlen⟩
    · rw [pull, hgo, hb]
      simp [hscan, hidx, hslice, Lexer.read, view]
    · rw [hpull]
    · rw [hpull, hmal]
      cases h : (lexeme l.marks.afterValue b rest).closed <;> simp [Lexer.read, view, h]
    · rw [hpull]
      simp [Lexer.read, view, hrest, hidx, haft, hmal]

/-- **Some tokens in place.** They are the tokens that the lexer shown takes, and behind them the
lexer in place shows the lexer behind those. -/
theorem take_view {l : InPlaceLexer} (hl : l.marks.index ≤ l.script.length) (n : Nat) :
    ∃ last, l.take n = some ((l.view.take n).tokens, last) ∧
      last.view = (l.view.take n).lexer := by
  induction n generalizing l with
  | zero => exact ⟨l, rfl, rfl⟩
  | succ n ih =>
    obtain ⟨p, hp, htok, -, hview, hscript, hidx⟩ := pull_view hl
    rw [take, hp, Lexer.take]
    cases hnext : l.view.next? with
    | none =>
      rw [Lexer.pull_of_none hnext] at htok hview
      -- nothing is left: the end mark comes, and taking stops
      refine ⟨p.lexer, ?_, hview⟩
      rw [Option.bind_eq_bind, Option.bind_some, if_pos (by rw [htok]; rfl)]
      rfl
    | some q =>
      rw [Lexer.pull_of_some hnext] at htok hview
      rw [← hscript] at hidx
      obtain ⟨last, htake, hlast⟩ := ih hidx
      rw [hview] at htake hlast
      have hend : p.token.isEnd = false := by rw [htok, Lexer.isEnd_next? hnext]
      refine ⟨last, ?_, hlast⟩
      rw [Option.bind_eq_bind, Option.bind_some, if_neg (Bool.eq_false_iff.1 hend), htake, htok]
      rfl

/-- **All tokens in place.** They are the tokens of the lexer shown, and none of them is missed. -/
theorem drain_view {l : InPlaceLexer} (hl : l.marks.index ≤ l.script.length) :
    ∃ last, l.drain = some (l.view.drain.tokens, last) ∧ last.view = l.view.drain.lexer := by
  generalize hv : l.view = v
  induction v using Lexer.drain.induct generalizing l with
  | case1 v hnone =>
    obtain ⟨p, hp, htok, -, hview, -, -⟩ := pull_view hl
    rw [hv, Lexer.pull_of_none hnone] at htok hview
    refine ⟨p.lexer, ?_, ?_⟩
    · -- the loop stops at the end mark, which is not among the tokens
      rw [Lexer.drain_of_none hnone]
      exact drain_of_isEnd hp (by rw [htok]; rfl)
    · rw [hview, Lexer.drain_of_none hnone]
  | case2 v q hsome ih =>
    obtain ⟨p, hp, htok, -, hview, hscript, hidx⟩ := pull_view hl
    rw [hv, Lexer.pull_of_some hsome] at htok hview
    rw [← hscript] at hidx
    obtain ⟨last, hdrain, hlast⟩ := ih hidx hview
    have hend : q.token.isEnd = false := Lexer.isEnd_next? hsome
    refine ⟨last, ?_, ?_⟩
    · rw [← htok] at hend
      rw [drain_of_pull hp hend, hdrain, Lexer.drain_of_some hsome, Run.tokens_cons, ← htok]
      rfl
    · rw [hlast, Lexer.drain_of_some hsome, Run.lexer_cons]

end InPlaceLexer

/-- **Reading in place is reading.** In place, too, every script comes out in tokens, the same. -/
theorem tokenizeInPlace_eq (script : List UInt8) :
    tokenizeInPlace script = some (tokenize script) := by
  obtain ⟨last, hdrain, hlast⟩ :=
    InPlaceLexer.drain_view (l := InPlaceLexer.on script) (Nat.zero_le _)
  have hview : (InPlaceLexer.on script).view = Lexer.on script := rfl
  rw [hview] at hdrain hlast
  have hmal : last.marks.malformed = (Lexer.on script).drain.lexer.malformed := by
    rw [← hlast]
    rfl
  rw [tokenizeInPlace, hdrain]
  simp [tokenize, hmal]

end PageScan.Script
