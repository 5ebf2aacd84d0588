import PageScan.Proofs.Script.Beginning
import PageScan.Proofs.Script.Comment
import PageScan.Proofs.Script.Literal
import PageScan.Proofs.Script.Reading
import PageScan.Proofs.Script.Stopping
import PageScan.Proofs.Text.Utf8
import PageScan.Script.Listing

/-!
# No token cuts a character

A script is read byte by byte, and no rule asks how its bytes make characters. Still no token ends
inside one. Where a token ends, the byte before or the byte behind is ASCII, or the script is at its
end (`asciiPlace_lexeme`):

* a run of spaces, a numeral, an operator holds nothing but ASCII;
* a string, a regular expression, a block comment ends with its end mark, with a line feed, or with
  the script;
* a word and a line comment take every byte outside ASCII that they meet.

A backslash may take the first byte of a character alone, but the token goes on behind it and the
other bytes come along. So a run that starts between two characters stops between two characters
(`Reads.characters`), and every token lies on the boundaries of the characters
(`onBoundaries_of_mem`).
-/

namespace PageScan.Script

open Text

/-! ### Classes of bytes in ASCII -/

theorem ascii_of_isSpace {b : UInt8} (h : isSpace b = true) : b.toNat < 0x80 := by
  simp only [isSpace, Bool.or_eq_true, beq_iff_eq] at h
  rcases h with (rfl | rfl) | rfl <;> decide

theorem ascii_of_isLineSeparator {b : UInt8} (h : isLineSeparator b = true) : b.toNat < 0x80 := by
  simp only [isLineSeparator, Bool.or_eq_true, beq_iff_eq] at h
  rcases h with rfl | rfl <;> decide

theorem ascii_of_isDigit {b : UInt8} (h : isDigit b = true) : b.toNat < 0x80 := by
  simp only [isDigit, Bool.and_eq_true, decide_eq_true_eq, UInt8.le_iff_toNat_le] at h
  have hle : b.toNat ≤ 0x39 := h.2
  omega

theorem ascii_of_isQuote {b : UInt8} (h : isQuote b = true) : b.toNat < 0x80 := by
  simp only [isQuote, Bool.or_eq_true, beq_iff_eq] at h
  rcases h with rfl | rfl <;> decide

theorem ascii_of_isOperatorPair {a b : UInt8} (h : isOperatorPair a b = true) :
    b.toNat < 0x80 := by
  simp only [isOperatorPair, Bool.or_eq_true, Bool.and_eq_true, beq_iff_eq] at h
  rcases h with ⟨rfl | rfl, rfl⟩ | ⟨-, rfl⟩ <;> decide

/-- What begins no word is ASCII. -/
theorem ascii_of_not_isWordStart {b : UInt8} (h : isWordStart b = false) : b.toNat < 0x80 := by
  simp only [isWordStart, Bool.or_eq_false_iff, decide_eq_false_iff_not,
    UInt8.le_iff_toNat_le] at h
  have hlt : ¬0x7F ≤ b.toNat := h.2
  omega

/-! ### Where a rule stops -/

/-- A token that holds nothing but ASCII ends next to ASCII. -/
theorem asciiPlace_of_text {text rest : List UInt8} (h : ∀ b ∈ text, b.toNat < 0x80) :
    AsciiPlace text rest :=
  .inl fun b hb => h b (List.mem_of_getLast? hb)

/-- So does a token whose last byte is ASCII. -/
theorem asciiPlace_of_getLast? {text rest : List UInt8} {b : UInt8} (h : text.getLast? = some b)
    (hb : b.toNat < 0x80) : AsciiPlace text rest := by
  left
  intro c hc
  obtain rfl := Option.some.inj (h.symm.trans hc)
  exact hb

theorem asciiPlace_nil (text : List UInt8) : AsciiPlace text [] :=
  .inr fun b hb => absurd hb (Option.not_mem_none b)

/-- A run of a class of ASCII bytes ends next to ASCII. -/
theorem asciiPlace_run {p : UInt8 → Bool} (hp : ∀ b, p b = true → b.toNat < 0x80)
    (s : List UInt8) : AsciiPlace (Cut.run p s).text (Cut.run p s).rest := by
  refine asciiPlace_of_text fun b hb => hp b ?_
  exact List.all_eq_true.1 List.all_takeWhile b hb

/-- A line comment ends in front of a line separator, which is ASCII. -/
theorem asciiPlace_lineComment (s : List UInt8) :
    AsciiPlace (lineComment s).text (lineComment s).rest := by
  right
  intro b hb
  exact ascii_of_isLineSeparator (lineComment_stop s b hb)

/-- A numeral holds digits and dots only. -/
theorem mem_text_numeral {s : List UInt8} {b : UInt8} (h : b ∈ (numeral s).text) :
    isDigit b = true ∨ b = dot := by
  have hdigit : ∀ {s : List UInt8}, b ∈ s.takeWhile isDigit → isDigit b = true := fun hb =>
    List.all_eq_true.1 List.all_takeWhile b hb
  unfold numeral at h
  dsimp only at h
  split at h
  · split at h
    · next hdot =>
      rcases List.mem_append.1 h with hb | hb
      · exact .inl (hdigit hb)
      rcases List.mem_cons.1 hb with rfl | hb
      · exact .inr hdot
      · exact .inl (hdigit hb)
    · exact .inl (hdigit h)
  · exact .inl (hdigit h)

/-- An operator of ASCII bytes ends next to ASCII. -/
theorem asciiPlace_punctuator {first : UInt8} (hfirst : first.toNat < 0x80) (s : List UInt8) :
    AsciiPlace (Lexeme.punctuator first s).text (Lexeme.punctuator first s).rest := by
  refine asciiPlace_of_text fun b hb => ?_
  rcases List.mem_cons.1 hb with rfl | hb
  · exact hfirst
  cases s with
  | nil => exact absurd hb List.not_mem_nil
  | cons c s =>
    simp only [operatorTail] at hb
    split at hb
    · next hpair =>
      -- the second byte of a pair
      obtain rfl := List.mem_singleton.1 hb
      exact ascii_of_isOperatorPair hpair
    · exact absurd hb List.not_mem_nil

/-- A token with an end mark stops behind the mark, behind a line feed, or with the script. -/
theorem asciiPlace_of_marked {c : Cut} {mark : UInt8} (hmark : mark.toNat < 0x80)
    (hclosed : c.closed = true → c.text.getLast? = some mark)
    (hbroken : c.closed = false → c.rest = [] ∨ c.text.getLast? = some lineFeed) (b : UInt8) :
    AsciiPlace (c.cons b).text (c.cons b).rest := by
  -- closed by its mark; if not, broken off by a line feed or by the end
  cases hc : c.closed with
  | true => exact asciiPlace_of_getLast? (getLast?_cons_of_some (hclosed hc)) hmark
  | false =>
    rcases hbroken hc with hrest | hlast
    · rw [Cut.rest_cons, hrest]
      exact asciiPlace_nil _
    · exact asciiPlace_of_getLast? (getLast?_cons_of_some hlast) (by decide)

/-- **A token ends next to ASCII,** or with the script. -/
theorem asciiPlace_lexeme (afterValue : Bool) (b : UInt8) (rest : List UInt8) :
    AsciiPlace (lexeme afterValue b rest).text (lexeme afterValue b rest).rest := by
  have hbegins := begins_lexeme afterValue b rest
  generalize lexeme afterValue b rest = x at hbegins ⊢
  cases hbegins with
  | whitespace => exact asciiPlace_run (fun _ => ascii_of_isSpace) _
  | lineSeparator => exact asciiPlace_run (fun _ => ascii_of_isLineSeparator) _
  | number =>
    refine asciiPlace_of_text fun c hc => ?_
    -- digits and the dot are ASCII
    rcases mem_text_numeral hc with hd | rfl
    · exact ascii_of_isDigit hd
    · decide
  | loneDot => exact asciiPlace_of_getLast? (b := dot) rfl (by decide)
  | lineComment | markup => exact asciiPlace_lineComment _
  | blockComment =>
    exact asciiPlace_of_marked (by decide) getLast?_blockTail_of_closed
      (fun h => .inl (blockTail_rest_of_not_closed h)) slash
  | lastSlash | division => exact asciiPlace_punctuator (by decide) _
  | operator _ _ _ _ _ _ hw => exact asciiPlace_punctuator (ascii_of_not_isWordStart hw) _
  | regex =>
    exact asciiPlace_of_marked (by decide) (fun h => (regexTail_of_closed h).getLast?)
      regexTail_of_not_closed slash
  | string hb =>
    exact asciiPlace_of_marked (ascii_of_isQuote hb) (fun h => (stringTail_of_closed h).getLast?)
      (fun h => .inl (stringTail_rest_of_not_closed h)) b
  | word =>
    -- bytes outside ASCII go on with a word, also those that an escape has cut off
    exact .inr fun c hc => ascii_of_not_isWordStart (wordTail_stop false _ c hc).1

/-! ### Tokens of a text -/

/-- **A run keeps the characters whole.** Before characters it takes some of them, each of its
tokens the bytes of its own, and stops before the others. -/
theorem Reads.characters {l l' : Lexer} {ts : List Token} {cs : List Char} (h : Reads l ts l')
    (hu : l.unread = encode cs) :
    ∃ behind, cs = ts.flatMap (·.characters) ++ behind ∧ l'.unread = encode behind ∧
      ∀ t ∈ ts, encode t.characters = t.text := by
  induction h generalizing cs with
  | done l => exact ⟨cs, rfl, hu, by simp⟩
  | @read l l' p ts hnext hr ih =>
    obtain ⟨b, rest, hb, -, rfl⟩ := Lexer.next?_eq_some_iff.1 hnext
    have hcut := lexeme_text_append_rest l.afterValue b rest
    rw [← hb, hu] at hcut
    -- the characters are parted where the token ends
    obtain ⟨own, others, rfl, htext, hrest⟩ :=
      exists_split_of_ascii hcut.symm (asciiPlace_lexeme l.afterValue b rest)
    have hown : (l.read b rest).token.characters = own := by
      rw [Token.characters, Lexer.text_read, htext, decodeLossy_encode]
    obtain ⟨behind, rfl, hbehind, htokens⟩ := ih hrest
    refine ⟨behind, ?_, hbehind, ?_⟩
    · rw [List.flatMap_cons, hown, List.append_assoc]
    · intro t ht
      rcases List.mem_cons.1 ht with rfl | ht
      · rw [hown, Lexer.text_read, htext]
      · exact htokens t ht

/-- An offset between two characters of a text, or at one of its ends. -/
def IsBoundary (text : List UInt8) (offset : Nat) : Prop :=
  ∃ before behind, text = encode (before ++ behind) ∧ offset = byteLength before

/-- **A token on the boundaries** of a text: it starts and stops between two characters, its bytes
are valid UTF-8, and reading them as characters changes nothing. -/
structure Token.OnBoundaries (text : List UInt8) (t : Token) : Prop where
  start : IsBoundary text t.span.start
  stop : IsBoundary text t.span.stop
  valid : t.text.toByteArray.IsValidUTF8
  lossless : encode t.characters = t.text

/-- The characters of some tokens in a row have the bytes of these tokens. -/
theorem encode_flatMap_characters {ts : List Token}
    (h : ∀ t ∈ ts, encode t.characters = t.text) :
    encode (ts.flatMap (·.characters)) = ts.flatMap (·.text) := by
  induction ts with
  | nil => rfl
  | cons t ts ih =>
    rw [List.flatMap_cons, encode_append, h t List.mem_cons_self,
      ih fun u hu => h u (List.mem_cons_of_mem t hu), List.flatMap_cons]

/-- **No token cuts a character.** -/
theorem onBoundaries_of_mem {cs : List Char} {t : Token}
    (ht : t ∈ (tokenize (encode cs)).tokens) : t.OnBoundaries (encode cs) := by
  obtain ⟨before, behind, hsplit⟩ := List.append_of_mem ht
  obtain ⟨l, b, rest, hbefore, hu, hm, rfl, -⟩ := exists_site hsplit
  obtain ⟨ahead, hcs, hahead, hread⟩ := hbefore.characters rfl
  -- one more step of the run takes the characters of the token itself
  have hstep : Reads l [(l.read b rest).token] (l.read b rest).lexer :=
    .read (Lexer.next?_eq_some_iff.2 ⟨b, rest, hu, hm, rfl⟩) (.done _)
  obtain ⟨others, hown, -, hlossless⟩ := hstep.characters hahead
  rw [List.flatMap_singleton] at hown
  have htext := hlossless _ (List.mem_singleton_self _)
  -- the token starts behind the characters of the tokens before it
  have hstart : l.position = byteLength (before.flatMap (·.characters)) := by
    rw [byteLength, encode_flatMap_characters hread, hbefore.position]
    exact Nat.zero_add _
  refine ⟨⟨_, ahead, congrArg encode hcs, hstart⟩,
    ⟨before.flatMap (·.characters) ++ (l.read b rest).token.characters, others, ?_, ?_⟩, ?_, htext⟩
  · rw [hcs, hown, List.append_assoc]
  · rw [byteLength, encode_append, List.length_append, htext, Lexer.stop_read, hstart, byteLength,
      Lexer.text_read]
  · exact isValidUTF8_iff.2 ⟨_, htext.symm⟩

end PageScan.Script
