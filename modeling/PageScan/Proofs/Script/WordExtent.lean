import PageScan.Proofs.Script.Site

/-!
# How far words reach, and which of them are reserved

A word is made of units (`Units`): bytes that may stand in a name, digits, and escapes. A backslash
is no unit by itself, it takes the byte behind it into the word whatever that is, and only where the
script ends may it stand alone. So a run of backslashes falls into pairs from the left, and a blank
or a quote may be in a word. The word that the lexer reads is the longest one that the unread bytes
begin with. What has to be shown for that is that the rule for words takes units and nothing else
(`units_wordTail`), and that it stops in front of none (`Units.prefix_wordTail`); the pending
escape, which the rule remembers, is written out as its backslash.

Whether a word is reserved is a matter of its bytes (`Token.Spelled`). No two spellings are equal,
and all of them are small letters, so there is no keyword with an escape or a capital letter in it.

`word_extent` is the statement for all words of a script.
-/

namespace PageScan.Script

/-! ### The grammar of words -/

/-- A byte that stands for itself in a name: a letter, `_`, `$` or a byte from `0x7F` on. -/
def IsNameByte (b : UInt8) : Prop := isLetter b = true ∨ b = 0x5F ∨ b = 0x24 ∨ 0x7F ≤ b

/-- **Units of a word** in a row, in front of the bytes `behind`. -/
inductive Units (behind : List UInt8) : List UInt8 → Prop
  | nil : Units behind []
  | name {b : UInt8} {u : List UInt8} (hb : IsNameByte b) (hu : Units behind u) :
      Units behind (b :: u)
  | digit {b : UInt8} {u : List UInt8} (hb : isDigit b = true) (hu : Units behind u) :
      Units behind (b :: u)
  | escape (b : UInt8) {u : List UInt8} (hu : Units behind u) : Units behind (backslash :: b :: u)
  | lastBackslash (hbehind : behind = []) : Units behind [backslash]

/-- **A word** in front of the bytes `behind`: units, the first of which is no digit. -/
structure IsWord (text behind : List UInt8) : Prop where
  units : Units behind text
  first : ∃ b ∈ text.head?, isDigit b = false

/-- A word begins with a byte of a name or with an escape. -/
theorem isWordStart_iff (b : UInt8) : isWordStart b = true ↔ IsNameByte b ∨ b = backslash := by
  simp only [isWordStart, IsNameByte, Bool.or_eq_true, beq_iff_eq, decide_eq_true_eq, or_assoc,
    or_comm (a := b = backslash)]

/-- A backslash does not stand for itself. -/
theorem ne_backslash_of_isNameByte {b : UInt8} (h : IsNameByte b) : b ≠ backslash := by
  rintro rfl
  exact absurd h (by unfold IsNameByte; decide)

/-! ### The rule for words takes the longest -/

/-- A backslash opens an escape. -/
theorem wordTail_backslash (s : List UInt8) :
    wordTail false (backslash :: s) = (wordTail true s).cons backslash := by
  rw [wordTail, if_pos rfl]

theorem wordTail_name {b : UInt8} (h : IsNameByte b) (s : List UInt8) :
    wordTail false (b :: s) = (wordTail false s).cons b := by
  have hstart : isWordStart b = true := (isWordStart_iff b).2 (.inl h)
  rw [wordTail, if_neg (ne_backslash_of_isNameByte h), hstart, Bool.true_or, if_pos rfl]

theorem wordTail_digit {b : UInt8} (h : isDigit b = true) (s : List UInt8) :
    wordTail false (b :: s) = (wordTail false s).cons b := by
  have hne : b ≠ backslash := by
    rintro rfl
    exact absurd h (by decide)
  rw [wordTail, if_neg hne, h, Bool.or_true, if_pos rfl]

/-- The rule takes units. An escape that is pending when it begins belongs to the first of them. -/
theorem units_wordTail (escaped : Bool) (s : List UInt8) :
    Units (wordTail escaped s).rest
      ((if escaped then [backslash] else []) ++ (wordTail escaped s).text) := by
  fun_induction wordTail escaped s with
  | case1 escaped =>
    -- at the end of the script the backslash of a pending escape stands alone
    cases escaped with
    | false => exact .nil
    | true => exact .lastBackslash rfl
  -- the byte behind a backslash makes one unit with it; the backslash itself waits for it
  | case2 b s ih => exact .escape b ih
  | case3 s ih => exact ih
  | case4 b s hb hword ih =>
    -- a byte that goes on with the word is a unit alone
    rw [Bool.or_eq_true, isWordStart_iff] at hword
    rcases hword with (hname | hbackslash) | hdigit
    · exact .name hname ih
    · exact absurd hbackslash hb
    · exact .digit hdigit ih
  | case5 => exact .nil

/-- The rule stops in front of no unit. -/
theorem Units.prefix_wordTail {u behind : List UInt8} (h : Units behind u) :
    u <+: (wordTail false (u ++ behind)).text := by
  induction h with
  | nil => exact List.nil_prefix
  | @name b u hb _ ih =>
    rw [List.cons_append, wordTail_name hb, Cut.text_cons]
    exact (List.prefix_cons_inj b).2 ih
  | @digit b u hb _ ih =>
    rw [List.cons_append, wordTail_digit hb, Cut.text_cons]
    exact (List.prefix_cons_inj b).2 ih
  | @escape b u _ ih =>
    -- the rule takes both bytes of an escape, whatever the second one is
    rw [List.cons_append, List.cons_append, wordTail_backslash, wordTail]
    apply (List.prefix_cons_inj backslash).2
    exact (List.prefix_cons_inj b).2 ih
  | lastBackslash hbehind =>
    rw [hbehind, List.append_nil, wordTail_backslash]
    exact List.prefix_rfl

/-- **The word that is read is the longest** that the bytes begin with. -/
theorem longest_wordTail {b : UInt8} (hb : isWordStart b = true) (rest : List UInt8) :
    Longest IsWord (b :: rest) (wordTail false (b :: rest)).text where
  holds := by
    have hhead : (wordTail false (b :: rest)).text.head? = some b := by
      rcases (isWordStart_iff b).1 hb with hname | rfl
      · rw [wordTail_name hname, Cut.text_cons, List.head?_cons]
      · rw [wordTail_backslash, Cut.text_cons, List.head?_cons]
    -- what is cut off is made of units, and begins with `b`
    refine ⟨(wordTail false (b :: rest)).rest, wordTail_text_append_rest false (b :: rest), ?_, ?_⟩
    · exact units_wordTail false (b :: rest)
    · exact ⟨b, hhead, not_isDigit_of_isWordStart hb⟩
  longest := by
    intro u behind hparts hword
    rw [← hparts]
    exact hword.units.prefix_wordTail

/-! ### Words among the tokens -/

/-- A token is a word when its first byte begins one, and only then. -/
theorem isWord_kind_lexeme_iff (afterValue : Bool) (b : UInt8) (rest : List UInt8) :
    (lexeme afterValue b rest).kind.isWord = true ↔ isWordStart b = true := by
  constructor
  · intro h
    have hbegins := begins_lexeme afterValue b rest
    generalize lexeme afterValue b rest = x at hbegins h
    cases hbegins with
    | word hb => exact hb
    | whitespace | lineSeparator | number | loneDot | lineComment | blockComment | lastSlash
      | division | regex | string | markup | operator => exact Bool.noConfusion h
  · intro hb
    rw [(Begins.word hb).lexeme_eq]
    exact isWord_kind_word (b :: rest)

/-! ### Reserved words -/

/-- All spellings are small letters. -/
theorem Keyword.small_of_mem_bytes (k : Keyword) {b : UInt8} (hb : b ∈ k.bytes) :
    0x61 ≤ b ∧ b ≤ 0x7A := by
  have hall : (all.all fun k => k.bytes.all fun b => 0x61 ≤ b && b ≤ 0x7A) = true := by
    decide +kernel
  have hsmall := List.all_eq_true.1 (List.all_eq_true.1 hall k (mem_all k)) b hb
  simpa using hsmall

/-- The byte with a capital letter made small. -/
def foldByte (b : UInt8) : UInt8 := if 0x41 ≤ b ∧ b ≤ 0x5A then b + 0x20 else b

/-- No spelling changes when capital letters are made small. -/
theorem Keyword.map_foldByte_bytes (k : Keyword) : k.bytes.map foldByte = k.bytes := by
  have hid : ∀ b ∈ k.bytes, foldByte b = id b := by
    intro b hb
    -- a small letter lies above all capital ones
    obtain ⟨hlow, -⟩ := k.small_of_mem_bytes hb
    apply if_neg
    rintro ⟨-, hhigh⟩
    exact absurd (UInt8.le_trans hlow hhigh) (by decide)
  rw [List.map_congr_left hid, List.map_id]

/-- No spelling has an escape in it. -/
theorem Keyword.backslash_notMem_bytes (k : Keyword) : backslash ∉ k.bytes := by
  intro hb
  exact absurd (k.small_of_mem_bytes hb).1 (by decide)

/-- **Spelling decides.** A word is the keyword that its bytes spell, and there is one such keyword
at most; a word that spells none is an identifier. So is a word with an escape in it, and one that
agrees with a keyword but for capital letters; and a word that goes on behind the spelling of a
keyword is not that keyword. -/
structure Token.Spelled (t : Token) : Prop where
  keyword_iff : ∀ k, t.kind = .keyword k ↔ k ∈ Keyword.all ∧ t.text = k.bytes
  unique : ∀ k k' : Keyword, t.text = k.bytes → t.text = k'.bytes → k = k'
  identifier_iff : t.kind = .identifier ↔ ∀ k ∈ Keyword.all, t.text ≠ k.bytes
  escaped : backslash ∈ t.text → t.kind = .identifier
  otherCase : ∀ k : Keyword, t.text.map foldByte = k.bytes → t.text ≠ k.bytes → t.kind = .identifier
  longer : ∀ (k : Keyword) (u : List UInt8), u ≠ [] → t.text = k.bytes ++ u → t.kind ≠ .keyword k

/-- A word is the keyword that its text spells. -/
theorem kind_word_eq_keyword_iff {s : List UInt8} {k : Keyword} :
    (Lexeme.word s).kind = .keyword k ↔ (Lexeme.word s).text = k.bytes := by
  rw [← Keyword.ofBytes?_eq_some_iff]
  show _ ↔ Keyword.ofBytes? (wordTail false s).text = some k
  cases hk : Keyword.ofBytes? (wordTail false s).text with
  | some k' => simp [Lexeme.word, hk]
  | none => simp [Lexeme.word, hk]

theorem kind_word_eq_identifier_iff {s : List UInt8} :
    (Lexeme.word s).kind = .identifier ↔ ∀ k : Keyword, (Lexeme.word s).text ≠ k.bytes := by
  constructor
  · intro hid k hspell
    have hword := kind_word_eq_keyword_iff.2 hspell
    rw [hid] at hword
    exact TokenKind.noConfusion hword
  · intro h
    rcases kind_word s with hid | ⟨k, hword⟩
    · exact hid
    · exact absurd (kind_word_eq_keyword_iff.1 hword) (h k)

/-- For a word, spelling decides. -/
theorem Token.spelled_of_word {t : Token} {s : List UInt8}
    (hkind : t.kind = (Lexeme.word s).kind) (htext : t.text = (Lexeme.word s).text) :
    t.Spelled := by
  have hkeyword (k : Keyword) : t.kind = .keyword k ↔ t.text = k.bytes := by
    rw [hkind, htext]
    exact kind_word_eq_keyword_iff
  have hidentifier : t.kind = .identifier ↔ ∀ k : Keyword, t.text ≠ k.bytes := by
    rw [hkind, htext]
    exact kind_word_eq_identifier_iff
  refine ⟨?_, ?_, ?_, ?_, ?_, ?_⟩
  · intro k
    rw [hkeyword k, and_iff_right k.mem_all]
  · intro k k' hk hk'
    exact Keyword.bytes_injective (hk.symm.trans hk')
  · rw [hidentifier]
    exact ⟨fun h k _ => h k, fun h k => h k k.mem_all⟩
  · intro hescape
    apply hidentifier.2
    intro k hspell
    rw [hspell] at hescape
    exact k.backslash_notMem_bytes hescape
  · intro k hfold hne
    apply hidentifier.2
    intro k' hspell
    -- folding leaves a keyword as it is, so the two would be one
    apply hne
    calc t.text
        = k'.bytes := hspell
      _ = t.text.map foldByte := by rw [hspell, k'.map_foldByte_bytes]
      _ = k.bytes := hfold
  · intro k u hu hlonger hword
    have hspell := (hkeyword k).1 hword
    -- the spelling would be longer than itself
    rw [hlonger] at hspell
    exact hu (List.append_right_eq_self.1 hspell)

/-! ### All words of a script -/

/-- Behind a word comes no word: what stands there could have gone on with it. -/
theorem not_isWord_behind {script : List UInt8} {before behind : List Token} {t u : Token}
    (h : (tokenize script).tokens = before ++ t :: u :: behind) (ht : t.kind.isWord = true) :
    u.kind.isWord = false := by
  obtain ⟨v, b, rest, hsite⟩ := exists_site_of_eq_append h
  obtain ⟨v', c, rest', hnext⟩ := exists_site_of_eq_append (h.trans (List.append_cons _ _ _))
  rw [hsite.kind, isWord_kind_lexeme_iff] at ht
  have hlexeme : lexeme v b rest = Lexeme.word (b :: rest) := (Begins.word ht).lexeme_eq
  -- the second token begins with the byte at which the first stopped
  have hrest : (wordTail false (b :: rest)).rest = c :: rest' := by
    calc (wordTail false (b :: rest)).rest
        = (lexeme v b rest).rest := by rw [hlexeme]; rfl
      _ = script.drop t.span.stop := hsite.drop_stop.symm
      _ = script.drop u.span.start := by rw [start_eq_stop h]
      _ = c :: rest' := hnext.unread
  obtain ⟨hstart, -⟩ := wordTail_stop false (b :: rest) c (by rw [hrest]; rfl)
  rw [hnext.kind, Bool.eq_false_iff, Ne, isWord_kind_lexeme_iff, hstart]
  exact Bool.false_ne_true

/-- **How far a word reaches, and what it is.** The tokens that start with a byte that begins a word
are the identifiers and the keywords. Such a token is the longest word that the unread bytes begin
with, and is never malformed; its spelling decides which of the two it is; and the token behind it,
if there is one, is no word. -/
theorem word_extent {script : List UInt8} {before behind : List Token} {t : Token}
    (h : (tokenize script).tokens = before ++ t :: behind) :
    (t.kind.isWord = true ↔ ∃ b, script[t.span.start]? = some b ∧ isWordStart b = true) ∧
    (t.kind.isWord = true →
      Longest IsWord (script.drop t.span.start) t.text ∧
        (tokenize script).malformedToken? ≠ some t ∧ t.Spelled ∧
          ∀ u ∈ behind.head?, u.kind.isWord = false) := by
  obtain ⟨v, b, rest, hsite⟩ := exists_site_of_eq_append h
  have hiff : t.kind.isWord = true ↔ isWordStart b = true := by
    rw [hsite.kind]
    exact isWord_kind_lexeme_iff v b rest
  refine ⟨?_, ?_⟩
  · rw [hiff, hsite.getElem?_start]
    simp
  · intro ht
    have hb := hiff.1 ht
    have hlexeme : lexeme v b rest = Lexeme.word (b :: rest) := (Begins.word hb).lexeme_eq
    refine ⟨?_, ?_, ?_, ?_⟩
    · rw [hsite.unread, hsite.text, hlexeme]
      exact longest_wordTail hb rest
    · -- the rule for words leaves none unclosed
      rw [Ne, hsite.malformed_iff, hlexeme]
      simp [Lexeme.word]
    · exact Token.spelled_of_word (hsite.kind.trans (congrArg Lexeme.kind hlexeme))
        (hsite.text.trans (congrArg (·.text) hlexeme))
    · intro u hu
      obtain ⟨us, rfl⟩ := List.head?_eq_some_iff.1 hu
      exact not_isWord_behind h ht

/-- In `i\ f if` the backslash takes the blank, so that the first word goes on to the `f`; with the
escape in it, it is an identifier. The second word is the keyword that it spells. -/
theorem word_extent_of_escaped_blank :
    ∃ first blank second, (tokenize [0x69, 0x5C, 0x20, 0x66, 0x20, 0x69, 0x66]).tokens =
        [first, blank, second] ∧
      Longest IsWord [0x69, 0x5C, 0x20, 0x66, 0x20, 0x69, 0x66] [0x69, 0x5C, 0x20, 0x66] ∧
        first.kind = .identifier ∧ second.kind = .keyword .ifKw := by
  have htokens : (tokenize [0x69, 0x5C, 0x20, 0x66, 0x20, 0x69, 0x66]).tokens =
      [⟨.identifier, ⟨0, 4⟩, [0x69, 0x5C, 0x20, 0x66]⟩, ⟨.whitespace, ⟨4, 5⟩, [0x20]⟩,
        ⟨.keyword .ifKw, ⟨5, 7⟩, [0x69, 0x66]⟩] := by decide +kernel
  obtain ⟨hlongest, -, hfirst, -⟩ := (@word_extent _ [] _ _ htokens).2 rfl
  obtain ⟨-, -, hsecond, -⟩ := (@word_extent _ [_, _] _ _ htokens).2 rfl
  have hif : [0x69, 0x66] = Keyword.bytes .ifKw := by decide +kernel
  refine ⟨_, _, _, htokens, hlongest, ?_, ?_⟩
  · exact hfirst.escaped (by simp)
  · exact (hsecond.keyword_iff .ifKw).2 ⟨Keyword.mem_all _, hif⟩

end PageScan.Script
