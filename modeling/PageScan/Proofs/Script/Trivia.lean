import PageScan.Proofs.Script.Closed
import PageScan.Proofs.Script.Ending
import PageScan.Proofs.Script.Placement

/-!
# Trivia and the tokens that carry meaning

A script may be set anew: its significant tokens in their order, with spaces and line separators of
any kind put between them, and all else left out (`Joined`). It still says the same.

What a script says is `Tokenized.content`, the kinds and texts of its significant tokens. The
comparison goes along the run on the old script (`Lexer.message_joined`). At each token the lexer on
the new script has the same bit about the text behind it, since trivia leave that alone, and before
it the bytes of the same token with a separator behind them, or nothing; either ends a significant
token (`Lexeme.endsBefore_separator`), so the token is read again. Separators in front of a token
say nothing (`Lexer.message_separators`). A malformed token is the last and stays so, with nothing
behind it; only a malformed comment is lost with the other trivia.
-/

namespace PageScan.Script

/-! ### What a script says -/

/-- The token without its place. -/
def Token.unplaced (t : Token) : TokenKind × List UInt8 := (t.kind, t.text)

/-- **What the tokens say:** kind and text of those that carry meaning. -/
def Tokenized.content (t : Tokenized) : List (TokenKind × List UInt8) :=
  t.significant.map (·.unplaced)

/-- Trivia in front add nothing to what is said. -/
theorem Tokenized.content_cons_of_trivia {t : Token} (ht : t.kind.isTrivia = true)
    (ts : List Token) (malformed : Bool) :
    content ⟨t :: ts, malformed⟩ = content ⟨ts, malformed⟩ := by
  simp [content, significant, Token.isSignificant, ht]

/-- A significant token in front is said first. -/
theorem Tokenized.content_cons_of_significant {t : Token} (ht : t.kind.isTrivia = false)
    (ts : List Token) (malformed : Bool) :
    content ⟨t :: ts, malformed⟩ = t.unplaced :: content ⟨ts, malformed⟩ := by
  simp [content, significant, Token.isSignificant, ht]

/-- The texts of what is said are those of the significant tokens. -/
theorem Tokenized.map_snd_content (t : Tokenized) :
    t.content.map (·.2) = t.significant.map (·.text) := by
  simp [content, Token.unplaced, Function.comp_def]

/-- Whether a token that carries meaning is malformed. -/
def Tokenized.breaksOff (t : Tokenized) : Bool := t.malformedToken?.any (·.kind != .comment)

namespace Lexer

/-- All that is ahead of a lexer, in tokens. -/
def ahead (l : Lexer) : Tokenized := ⟨l.drain.tokens, l.drain.lexer.malformed⟩

/-- What a lexer will say, and whether it will be malformed in the end. -/
def message (l : Lexer) : List (TokenKind × List UInt8) × Bool :=
  (l.ahead.content, l.ahead.malformed)

variable {l k : Lexer} {p : Pull}

theorem ahead_of_none (h : l.next? = none) : l.ahead = ⟨[], l.malformed⟩ := by
  rw [ahead, drain_of_none h]

theorem ahead_of_some (h : l.next? = some p) :
    l.ahead = ⟨p.token :: p.lexer.ahead.tokens, p.lexer.ahead.malformed⟩ := by
  rw [ahead, drain_of_some h]
  rfl

theorem message_of_none (h : l.next? = none) : l.message = ([], l.malformed) := by
  rw [message, ahead_of_none h]
  rfl

theorem content_ahead_of_trivia (h : l.next? = some p) (hp : p.token.kind.isTrivia = true) :
    l.ahead.content = p.lexer.ahead.content := by
  rw [ahead_of_some h, Tokenized.content_cons_of_trivia hp]

theorem content_ahead_of_significant (h : l.next? = some p)
    (hp : p.token.kind.isTrivia = false) :
    l.ahead.content = p.token.unplaced :: p.lexer.ahead.content := by
  rw [ahead_of_some h, Tokenized.content_cons_of_significant hp]

/-- In front of trivia the message is the one behind them. -/
theorem message_of_trivia (h : l.next? = some p) (hp : p.token.kind.isTrivia = true) :
    l.message = p.lexer.message := by
  rw [message, content_ahead_of_trivia h hp, ahead_of_some h, message]

/-- In front of a significant token the message is that token and the message behind it. -/
theorem message_of_significant (h : l.next? = some p) (hp : p.token.kind.isTrivia = false) :
    l.message = (p.token.unplaced :: p.lexer.message.1, p.lexer.message.2) := by
  rw [message, content_ahead_of_significant h hp, ahead_of_some h, message]

/-- Where a lexer stands makes no difference to what it will say. -/
theorem message_congr (hu : l.unread = k.unread) (hv : l.afterValue = k.afterValue)
    (hm : l.malformed = k.malformed) : l.message = k.message := by
  -- brought to offset zero, the two lexers are one
  have hzero : l.atZero = k.atZero := by
    simp [atZero, hu, hv, hm]
  -- moving the tokens changes neither their kinds nor their texts
  have hcontent (n : Nat) (r : Run) :
      Tokenized.content ⟨(r.moved n).tokens, (r.moved n).lexer.malformed⟩ =
        Tokenized.content ⟨r.tokens, r.lexer.malformed⟩ := by
    simp [Tokenized.content, Tokenized.significant, Run.moved, List.filter_map, Function.comp_def,
      Token.unplaced, Token.isSignificant]
  unfold message ahead
  rw [l.drain_eq_moved, k.drain_eq_moved, hzero, hcontent, hcontent]
  rfl

/-! ### Separators say nothing -/

section Separators

variable {q : UInt8 → Bool} {kind : TokenKind} {b : UInt8}

/-- A run of separators of one kind is one token, and says nothing. -/
theorem message_dropWhile (hm : l.malformed = false) (hkind : kind.isTrivia = true)
    (hrun : ∀ b s, q b = true → lexeme l.afterValue b s = ⟨Cut.run q (b :: s), kind⟩)
    (s : List UInt8) : (l.facing (s.dropWhile q)).message = (l.facing s).message := by
  cases s with
  | nil => rfl
  | cons b s =>
    cases hb : q b with
    | false => rw [List.dropWhile_cons, hb, if_neg Bool.false_ne_true]
    | true =>
      have hx := hrun b s hb
      have hnext : (l.facing (b :: s)).next? = some ((l.facing (b :: s)).read b s) :=
        next?_eq_some_iff.2 ⟨b, s, rfl, hm, rfl⟩
      have htrivia : ((l.facing (b :: s)).read b s).token.kind.isTrivia = true := by
        rw [kind_read, facing, hx]
        exact hkind
      rw [message_of_trivia hnext htrivia]
      -- the lexer behind the run differs only by its place
      apply message_congr
      · simp [facing, hx]
      · simp [facing, hx, Lexeme.valueBehind, hkind]
      · simp [facing, hx, hm]

/-- One separator says nothing, whether it is a token alone or begins a run of its kind. -/
theorem message_separator (hm : l.malformed = false) (hb : isSeparator b = true) (s : List UInt8) :
    (l.facing (b :: s)).message = (l.facing s).message := by
  have hrun {q : UInt8 → Bool} {kind : TokenKind} (hkind : kind.isTrivia = true)
      (hrun : ∀ b s, q b = true → lexeme l.afterValue b s = ⟨Cut.run q (b :: s), kind⟩)
      (hb : q b = true) : (l.facing (b :: s)).message = (l.facing s).message := by
    -- a longer run and the run without its first byte come to the same bytes behind it
    calc (l.facing (b :: s)).message
        = (l.facing ((b :: s).dropWhile q)).message := (message_dropWhile hm hkind hrun _).symm
      _ = (l.facing (s.dropWhile q)).message := by rw [List.dropWhile_cons, if_pos hb]
      _ = (l.facing s).message := message_dropWhile hm hkind hrun s
  -- a separator is a blank or part of a line end, and either makes runs of its own
  rcases Bool.or_eq_true_iff.1 hb with hb | hb
  · exact hrun rfl (fun _ _ h => (Begins.whitespace h).lexeme_eq) hb
  · exact hrun rfl (fun _ _ h => (Begins.lineSeparator h).lexeme_eq) hb

/-- **Separators say nothing.** -/
theorem message_separators (hm : l.malformed = false) {separator : List UInt8}
    (hsep : ∀ b ∈ separator, isSeparator b = true) (s : List UInt8) :
    (l.facing (separator ++ s)).message = (l.facing s).message := by
  induction separator with
  | nil => rfl
  | cons b separator ih =>
    rw [List.forall_mem_cons] at hsep
    rw [List.cons_append, message_separator hm hsep.1, ih hsep.2]

end Separators

/-! ### The malformed token -/

/-- A malformed token is the last. -/
theorem breaksOff_of_malformed (h : l.next? = some p) (hp : p.lexer.malformed = true) :
    l.ahead.breaksOff = (p.token.kind != .comment) := by
  have hnone : p.lexer.next? = none := next?_eq_none_iff.2 (.inr hp)
  have hahead : l.ahead = ⟨[p.token], true⟩ := by
    rw [ahead_of_some h, ahead_of_none hnone, hp]
  rw [hahead]
  rfl

/-- Where no token is malformed yet, one that will be is still ahead. -/
theorem tokens_ahead_ne_nil (hm : l.malformed = false) (h : l.ahead.malformed = true) :
    l.ahead.tokens ≠ [] := by
  intro hnil
  cases hp : l.next? with
  | none =>
    rw [ahead_of_none hp] at h
    exact Bool.noConfusion (hm.symm.trans h)
  | some p =>
    rw [ahead_of_some hp] at hnil
    exact List.cons_ne_nil _ _ hnil

/-- Behind a token that is complete, the malformed one is still to come. -/
theorem breaksOff_of_closed (h : l.next? = some p) (hp : p.lexer.malformed = false) :
    l.ahead.breaksOff = p.lexer.ahead.breaksOff := by
  rw [ahead_of_some h, Tokenized.breaksOff, Tokenized.breaksOff, Tokenized.malformedToken?,
    Tokenized.malformedToken?]
  cases hm : p.lexer.ahead.malformed with
  | false => rfl
  | true => rw [if_pos rfl, if_pos rfl, List.getLast?_cons_of_ne_nil (tokens_ahead_ne_nil hp hm)]

/-- Of the trivia only a comment can be malformed. -/
theorem kind_eq_comment_of_malformed (h : l.next? = some p) (hp : p.lexer.malformed = true)
    (htrivia : p.token.kind.isTrivia = true) : p.token.kind = .comment := by
  obtain ⟨b, rest, -, -, rfl⟩ := next?_eq_some_iff.1 h
  rw [kind_read] at htrivia ⊢
  have hopen : ¬(lexeme l.afterValue b rest).closed = true := by simpa using hp
  -- what is not closed by its text is no blank and no line separator
  rw [closed_lexeme_iff l.afterValue b rest {}] at hopen
  cases hk : (lexeme l.afterValue b rest).kind with
  | comment => rfl
  | whitespace | lineSeparator =>
    rw [hk] at hopen
    exact absurd trivial hopen
  | number | string | regex | identifier | keyword | operator | endOfInput =>
    rw [hk] at htrivia
    exact Bool.noConfusion htrivia

end Lexer

/-! ### A script set anew -/

/-- **Tokens set anew.** The bytes are those of the texts in their order, with some separators
between any two of them and none behind the last. -/
inductive Joined : List (List UInt8) → List UInt8 → Prop
  | nil : Joined [] []
  | cons {text separator s : List UInt8} {texts : List (List UInt8)}
      (hsep : ∀ b ∈ separator, isSeparator b = true) (hlast : separator = [] ↔ texts = [])
      (hs : Joined texts s) : Joined (text :: texts) (text ++ (separator ++ s))

theorem Joined.eq_nil {s : List UInt8} (h : Joined [] s) : s = [] := by
  cases h with
  | nil => rfl

/-- What is set anew begins with the first text and the separators behind it. -/
theorem joined_cons_iff {text s : List UInt8} {texts : List (List UInt8)} :
    Joined (text :: texts) s ↔ ∃ separator behind, (∀ b ∈ separator, isSeparator b = true) ∧
      (separator = [] ↔ texts = []) ∧ Joined texts behind ∧ s = text ++ (separator ++ behind) := by
  constructor
  · intro h
    cases h with
    | cons hsep hlast hs => exact ⟨_, _, hsep, hlast, hs, rfl⟩
  · rintro ⟨separator, behind, hsep, hlast, hs, rfl⟩
    exact .cons hsep hlast hs

/-- What is set behind a significant token ends it, be it a separator or nothing. -/
theorem Lexeme.endsBefore_joined {x : Lexeme} (hx : x.kind.isTrivia = false)
    (hends : x.EndsBefore []) {separator behind : List UInt8} {texts : List (List UInt8)}
    (hsep : ∀ b ∈ separator, isSeparator b = true) (hlast : separator = [] ↔ texts = [])
    (hbehind : Joined texts behind) : x.EndsBefore (separator ++ behind) := by
  cases separator with
  | nil =>
    rw [hlast.1 rfl] at hbehind
    rwa [hbehind.eq_nil]
  | cons b separator => exact endsBefore_separator hx (hsep b List.mem_cons_self) _

namespace Lexer

variable {l : Lexer} {p : Pull} {s : List UInt8}

/-- **A significant token set anew** is read again. Behind it there are the separators, and behind
these the tokens that are left, set anew. -/
theorem next?_joined (hm : l.malformed = false) (hp : l.next? = some p)
    (htrivia : p.token.kind.isTrivia = false) (hs : Joined (l.ahead.content.map (·.2)) s) :
    ∃ separator behind, (∀ b ∈ separator, isSeparator b = true) ∧
      Joined (p.lexer.ahead.content.map (·.2)) behind ∧
      (l.facing s).next? = some (p.facing (separator ++ behind)) := by
  rw [content_ahead_of_significant hp htrivia, List.map_cons, joined_cons_iff] at hs
  obtain ⟨separator, behind, hsep, hlast, hbehind, rfl⟩ := hs
  refine ⟨separator, behind, hsep, hbehind, ?_⟩
  obtain ⟨b, rest, -, -, rfl⟩ := next?_eq_some_iff.1 hp
  have hends : (lexeme l.afterValue b rest).EndsBefore (separator ++ behind) := by
    refine Lexeme.endsBefore_joined htrivia ?_ hsep hlast hbehind
    exact (lexeme_endsBefore l.afterValue b rest).shorter List.nil_prefix
  refine next?_again hm (fun hrest => ?_) hends
  -- with nothing left behind the token there was no other to set
  have hnone : (l.read b rest).lexer.next? = none := next?_eq_none_iff.2 (.inl hrest)
  have hnil : (l.read b rest).lexer.ahead.content.map (·.2) = [] := by
    rw [ahead_of_none hnone]
    rfl
  rw [hnil] at hlast hbehind
  rw [hlast.2 rfl, hbehind.eq_nil, List.append_nil]

theorem message_facing_nil (l : Lexer) : (l.facing []).message = ([], l.malformed) :=
  message_of_none rfl

/-- Behind a malformed token nothing is said, whatever bytes there are. -/
theorem message_facing_of_malformed (hm : l.malformed = true) (s : List UInt8) :
    (l.facing s).message = ([], true) := by
  have hnone : (l.facing s).next? = none := next?_eq_none_iff.2 (.inr hm)
  rw [message_of_none hnone]
  exact congrArg (Prod.mk []) hm

theorem content_ahead_of_malformed (hm : l.malformed = true) : l.ahead.content = [] :=
  congrArg Prod.fst (message_facing_of_malformed hm l.unread)

/-- With trivia left out a lexer comes to say the same, since they leave alone the bit about the
text behind. -/
theorem message_facing_of_trivia (hm : l.malformed = false) (hp : l.next? = some p)
    (htrivia : p.token.kind.isTrivia = true) (hclosed : p.lexer.malformed = false)
    (s : List UInt8) : (l.facing s).message = (p.lexer.facing s).message := by
  apply message_congr
  · rfl
  · -- the bit behind trivia is the bit in front of them
    obtain ⟨b, rest, -, -, rfl⟩ := next?_eq_some_iff.1 hp
    exact (if_pos htrivia).symm
  · exact hm.trans hclosed.symm

/-- **What is ahead, set anew,** says the same, and is malformed where a significant token was. -/
theorem message_joined (hm : l.malformed = false) (hs : Joined (l.ahead.content.map (·.2)) s) :
    (l.facing s).message = (l.ahead.content, l.ahead.breaksOff) := by
  -- along the run on the old script, by whether a token is trivia and whether it is malformed
  induction l using drain.induct generalizing s with
  | case1 l hnone =>
    rw [ahead_of_none hnone, hm] at hs ⊢
    rw [hs.eq_nil, message_facing_nil, hm]
    rfl
  | case2 l p hp ih =>
    cases htrivia : p.token.kind.isTrivia with
    | true =>
      rw [content_ahead_of_trivia hp htrivia] at hs ⊢
      cases hopen : p.lexer.malformed with
      | false =>
        rw [message_facing_of_trivia hm hp htrivia hopen, ih hopen hs, breaksOff_of_closed hp hopen]
      | true =>
        -- the comment was the last token, and now nothing is left of it
        have hcomment := kind_eq_comment_of_malformed hp hopen htrivia
        rw [content_ahead_of_malformed hopen] at hs ⊢
        rw [hs.eq_nil, message_facing_nil, hm, breaksOff_of_malformed hp hopen, hcomment]
        rfl
    | false =>
      obtain ⟨separator, behind, hsep, hbehind, hnext⟩ := next?_joined hm hp htrivia hs
      have hmessage : (l.facing s).message =
          (p.token.unplaced :: (p.lexer.facing (separator ++ behind)).message.1,
            (p.lexer.facing (separator ++ behind)).message.2) :=
        message_of_significant hnext htrivia
      rw [hmessage, content_ahead_of_significant hp htrivia]
      cases hopen : p.lexer.malformed with
      | false =>
        -- the separators say nothing, and behind them the induction goes on
        rw [message_separators hopen hsep, ih hopen hbehind, breaksOff_of_closed hp hopen]
      | true =>
        -- a significant token is no comment, so it is reported in the new script as well
        have hkind : (p.token.kind != .comment) = true := by
          rw [bne_iff_ne]
          intro hcomment
          rw [hcomment] at htrivia
          exact Bool.noConfusion htrivia
        rw [message_facing_of_malformed hopen, content_ahead_of_malformed hopen,
          breaksOff_of_malformed hp hopen, hkind]

end Lexer

/-- **Trivia carry no meaning.** When the significant tokens of a script are set anew, with
separators between them, they are the significant tokens of the new script, in kind and text. The
new script is malformed if and only if the old one was and its malformed token was no comment. -/
theorem significant_of_joined (script joined : List UInt8)
    (h : Joined ((tokenize script).significant.map (·.text)) joined) :
    (tokenize joined).significant.map (·.unplaced) =
        (tokenize script).significant.map (·.unplaced) ∧
      ((tokenize joined).malformed = true ↔
        ∃ t, (tokenize script).malformedToken? = some t ∧ t.kind ≠ .comment) := by
  rw [← Tokenized.map_snd_content] at h
  have hmessage := Lexer.message_joined (l := Lexer.on script) rfl h
  obtain ⟨hcontent, hmalformed⟩ := Prod.mk.inj hmessage
  refine ⟨hcontent, ?_⟩
  calc (tokenize joined).malformed = true
      ↔ (tokenize script).breaksOff = true := by
        rw [show (tokenize joined).malformed = (tokenize script).breaksOff from hmalformed]
    _ ↔ ∃ t, (tokenize script).malformedToken? = some t ∧ t.kind ≠ .comment := by
        simp only [Tokenized.breaksOff, Option.any_eq_true, bne_iff_ne]

/-- Of `a/b/*` the comment is lost, with the report of it; behind the line feed the slash still
divides. -/
theorem significant_without_broken_comment :
    let script : List UInt8 := [0x61, 0x2F, 0x62, 0x2F, 0x2A]
    let joined : List UInt8 := [0x61, 0x0A, 0x2F, 0x20, 0x09, 0x62]
    Joined ((tokenize script).significant.map (·.text)) joined ∧
      (tokenize joined).significant.map (·.unplaced) =
        [(.identifier, [0x61]), (.operator, [0x2F]), (.identifier, [0x62])] ∧
      (tokenize script).malformedToken? = some ⟨.comment, ⟨3, 5⟩, [0x2F, 0x2A]⟩ ∧
      (tokenize joined).malformed = false := by
  intro script joined
  have htexts : (tokenize script).significant.map (·.text) = [[0x61], [0x2F], [0x62]] := by
    decide +kernel
  have hcomment : (tokenize script).malformedToken? = some ⟨.comment, ⟨3, 5⟩, [0x2F, 0x2A]⟩ := by
    decide +kernel
  have hjoined : Joined ((tokenize script).significant.map (·.text)) joined := by
    rw [htexts]
    have hlast : Joined [[0x62]] [0x62] :=
      joined_cons_iff.2 ⟨[], [], List.all_eq_true.1 rfl, by decide, .nil, rfl⟩
    have hslash : Joined [[0x2F], [0x62]] [0x2F, 0x20, 0x09, 0x62] :=
      joined_cons_iff.2 ⟨[0x20, 0x09], _, List.all_eq_true.1 rfl, by decide, hlast, rfl⟩
    exact joined_cons_iff.2 ⟨[0x0A], _, List.all_eq_true.1 rfl, by decide, hslash, rfl⟩
  obtain ⟨hcontent, hmalformed⟩ := significant_of_joined script joined hjoined
  refine ⟨hjoined, hcontent.trans (by decide +kernel), hcomment, ?_⟩
  rw [Bool.eq_false_iff]
  intro hbroken
  obtain ⟨t, ht, hkind⟩ := hmalformed.1 hbroken
  rw [hcomment] at ht
  exact hkind (by rw [← Option.some.inj ht])

end PageScan.Script
