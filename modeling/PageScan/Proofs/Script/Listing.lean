import PageScan.Proofs.Script.Tiling
import PageScan.Proofs.Text.Escape
import PageScan.Proofs.Text.Utf8
import PageScan.Script.Listing

/-!
# A listing can be read back

The line of a token is an offset, a kind and a text, in columns that give way when a cell is too
wide. What a line says is put here without the widths (`Lists`): any number of spaces may stand
before the offset and behind the kind, and the text may be in any of its written forms.

Still there is one way to read a line (`Lists.unique`). The offset and the kind hold no space, so
each of them ends at the first one behind it, and the text is what is left between the outer quotes.
The kind is read off its label, since no two kinds share one (`TokenKind.label_injective`).
-/

namespace PageScan.Script

open Text

/-! ### Kinds by their labels -/

namespace TokenKind

/-- Every kind. -/
def all : List TokenKind :=
  [whitespace, lineSeparator, number, string, regex, comment, identifier, operator, endOfInput] ++
    Keyword.all.map keyword

theorem mem_all (kind : TokenKind) : kind ∈ all := by
  cases kind with
  | keyword word =>
    exact List.mem_append_right _ (List.mem_map_of_mem (Keyword.mem_all word))
  | _ => exact List.mem_append_left _ (by decide)

/-- **A kind is known by its label.** -/
theorem label_injective : Function.Injective label := by
  have hnodup : (all.map label).Nodup := by decide +kernel
  intro a b h
  exact List.inj_on_of_nodup_map hnodup (mem_all a) (mem_all b) h

/-- Labels hold no space, so that a label ends at the first one, and no control character. -/
theorem label_chars {kind : TokenKind} {c : Char} (hc : c ∈ kind.label.toList) :
    c ≠ ' ' ∧ ¬IsControl c := by
  have hall : all.all (fun kind =>
      kind.label.toList.all fun c => c != ' ' && !decide (IsControl c)) = true := by
    decide +kernel
  simpa using List.all_eq_true.1 (List.all_eq_true.1 hall kind (mem_all kind)) c hc

end TokenKind

/-! ### Columns -/

section Columns

variable {cell cell' gap gap' rest rest' : List Char}

/-- A cell without spaces ends at the first one behind it. -/
theorem cell_append_inj (hcell : ∀ c ∈ cell, c ≠ ' ') (hcell' : ∀ c ∈ cell', c ≠ ' ')
    (hrest : rest.head? = some ' ') (hrest' : rest'.head? = some ' ')
    (h : cell ++ rest = cell' ++ rest') : cell = cell' ∧ rest = rest' := by
  refine append_inj_of_stops (p := (· != ' ')) ?_ ?_ ?_ ?_ h
  · exact fun c hc => bne_iff_ne.2 (hcell c hc)
  · exact fun c hc => bne_iff_ne.2 (hcell' c hc)
  · simp [hrest]
  · simp [hrest']

/-- A gap ends at the first character that is not a space. -/
theorem gap_append_inj (hgap : ∀ c ∈ gap, c = ' ') (hgap' : ∀ c ∈ gap', c = ' ')
    (hrest : ∀ c ∈ rest.head?, c ≠ ' ') (hrest' : ∀ c ∈ rest'.head?, c ≠ ' ')
    (h : gap ++ rest = gap' ++ rest') : rest = rest' := by
  refine (append_inj_of_stops (p := (· == ' ')) ?_ ?_ ?_ ?_ h).2
  · exact fun c hc => beq_iff_eq.2 (hgap c hc)
  · exact fun c hc => beq_iff_eq.2 (hgap' c hc)
  · exact fun c hc => beq_false_of_ne (hrest c hc)
  · exact fun c hc => beq_false_of_ne (hrest' c hc)

end Columns

/-! ### Lines -/

theorem toList_offset (n : Nat) : (toString n).toList = Nat.toDigits 10 n := by
  rw [Nat.toString_eq_ofList_toDigits, String.toList_ofList]

/-- An offset is known by its digits. -/
theorem offset_inj {m n : Nat} (h : (toString m).toList = (toString n).toList) : m = n := by
  rw [toList_offset, toList_offset] at h
  calc m = Nat.ofDigitChars 10 (Nat.toDigits 10 m) 0 := Nat.ofDigitChars_ten_toDigits.symm
    _ = Nat.ofDigitChars 10 (Nat.toDigits 10 n) 0 := by rw [h]
    _ = n := Nat.ofDigitChars_ten_toDigits

theorem offset_chars {n : Nat} {c : Char} (hc : c ∈ (toString n).toList) :
    c ≠ ' ' ∧ ¬IsControl c := by
  rw [toList_offset] at hc
  -- digits stand above the space and the control characters, and below the delete character
  have hdigit : 0x30 ≤ c.toNat ∧ c.toNat ≤ 0x39 :=
    Char.isDigit_iff_toNat.1 (Nat.isDigit_of_mem_toDigits (by decide) (by decide) hc)
  constructor
  · rintro rfl
    exact absurd hdigit (by decide)
  · rintro (hlow | hdelete) <;> omega

/-- **What a line of a listing says:** an offset, a kind and a text. There may be spaces before the
offset, and there are some behind the kind. -/
def Lists (line : List Char) (start : Nat) (kind : TokenKind) (text : List Char) : Prop :=
  ∃ indent gap written, (∀ c ∈ indent, c = ' ') ∧ gap ≠ [] ∧ (∀ c ∈ gap, c = ' ') ∧
    Escaped text written ∧
    line = indent ++ (toString start).toList ++ [' '] ++ kind.label.toList ++ gap ++ ['"'] ++
      written ++ ['"']

/-- The line of a token says its offset, its kind and its text, however texts are written. -/
theorem lists_lineBy {write : List Char → List Char} (hwrite : IsEscaping write) (t : Token) :
    Lists (t.lineBy write).toList t.span.start t.kind t.characters := by
  refine ⟨List.replicate (6 - (toString t.span.start).length) ' ',
    List.replicate (20 - t.kind.label.length) ' ' ++ [' '], write t.characters, ?_, ?_, ?_,
    hwrite t.characters, ?_⟩
  · exact fun c hc => List.eq_of_mem_replicate hc
  · simp
  · intro c hc
    rcases List.mem_append.1 hc with hc | hc
    · exact List.eq_of_mem_replicate hc
    · exact List.mem_singleton.1 hc
  · simp [Token.lineBy, padLeft, padRight]

theorem head?_offset_append (n : Nat) (rest : List Char) :
    ∀ c ∈ ((toString n).toList ++ rest).head?, c ≠ ' ' := by
  have hne : (toString n).toList ≠ [] := by
    rw [toList_offset]
    exact Nat.toDigits_ne_nil
  intro c hc
  rw [List.head?_append_of_ne_nil _ hne] at hc
  exact (offset_chars (List.mem_of_head? hc)).1

theorem head?_gap_append {gap : List Char} (hne : gap ≠ []) (hgap : ∀ c ∈ gap, c = ' ')
    (rest : List Char) : (gap ++ rest).head? = some ' ' := by
  obtain ⟨c, gap, rfl⟩ := List.exists_cons_of_ne_nil hne
  rw [List.cons_append, List.head?_cons, hgap c List.mem_cons_self]

section Lists

variable {line text text' : List Char} {start start' : Nat} {kind kind' : TokenKind}

/-- **A line is read in one way.** -/
theorem Lists.unique (h : Lists line start kind text) (h' : Lists line start' kind' text') :
    start = start' ∧ kind = kind' ∧ text = text' := by
  obtain ⟨indent, gap, written, hindent, hne, hgap, htext, rfl⟩ := h
  obtain ⟨indent', gap', written', hindent', hne', hgap', htext', h⟩ := h'
  simp only [List.append_assoc] at h
  -- the line is taken apart from the left, column by column
  have hcolumns := gap_append_inj hindent hindent' (head?_offset_append _ _)
    (head?_offset_append _ _) h
  obtain ⟨hstart, hbehind⟩ := cell_append_inj (fun c hc => (offset_chars hc).1)
    (fun c hc => (offset_chars hc).1) rfl rfl hcolumns
  obtain ⟨hkind, hquoted⟩ := cell_append_inj (fun c hc => (TokenKind.label_chars hc).1)
    (fun c hc => (TokenKind.label_chars hc).1) (head?_gap_append hne hgap _)
    (head?_gap_append hne' hgap' _) (List.append_cancel_left hbehind)
  have hwritten := gap_append_inj hgap hgap' (by simp) (by simp) hquoted
  -- what is left is the text between the outer quotes
  obtain rfl : written = written' :=
    List.append_cancel_right (List.append_cancel_left hwritten)
  exact ⟨offset_inj hstart,
    TokenKind.label_injective (String.toList_inj.1 hkind), htext.unique htext'⟩

/-- A line holds no control character, so it is one line. -/
theorem Lists.not_isControl (h : Lists line start kind text) : ∀ c ∈ line, ¬IsControl c := by
  obtain ⟨indent, gap, written, hindent, -, hgap, htext, rfl⟩ := h
  have hspace : ¬IsControl ' ' := by decide
  intro c hc
  simp only [List.mem_append, List.mem_singleton] at hc
  -- a character of the line is in one of its columns
  rcases hc with (((((((hc | hc) | rfl) | hc) | hc) | rfl) | hc) | rfl)
  · rw [hindent c hc]
    exact hspace
  · exact (offset_chars hc).2
  · exact hspace
  · exact (TokenKind.label_chars hc).2
  · rw [hgap c hc]
    exact hspace
  · decide
  · exact htext.not_isControl c hc
  · decide

end Lists

/-! ### Tokens -/

/-- The characters of valid bytes give the bytes back. -/
theorem Token.text_eq_encode {t : Token} (h : t.text.toByteArray.IsValidUTF8) :
    t.text = encode t.characters := by
  obtain ⟨cs, hcs⟩ := isValidUTF8_iff.1 h
  rw [Token.characters, hcs, decodeLossy_encode]

/-- Tokens with the same line have the same offset, kind and text. -/
theorem eq_of_lineBy_eq {write : List Char → List Char} (hwrite : IsEscaping write) {a b : Token}
    (ha : a.text.toByteArray.IsValidUTF8) (hb : b.text.toByteArray.IsValidUTF8)
    (h : a.lineBy write = b.lineBy write) :
    a.span.start = b.span.start ∧ a.kind = b.kind ∧ a.text = b.text := by
  -- the line of `a` says what the line of `b` says, and a line says one thing
  have hlists := lists_lineBy hwrite b
  rw [← h] at hlists
  obtain ⟨hstart, hkind, hcharacters⟩ := (lists_lineBy hwrite a).unique hlists
  exact ⟨hstart, hkind, by rw [Token.text_eq_encode ha, Token.text_eq_encode hb, hcharacters]⟩

/-- Where a token of a script stops follows from its start and its text. -/
theorem stop_of_mem_tokenize {script : List UInt8} {t : Token} (ht : t ∈ (tokenize script).tokens) :
    t.span.stop = t.span.start + t.text.length := by
  have htiles : Tiles script 0 (tokenize script).tokens :=
    (reads_tokenize script).tiles rfl (Nat.zero_le _)
  have hlen := (htiles.of_mem t ht).2
  unfold Span.length? at hlen
  split at hlen
  · have := Option.some.inj hlen
    omega
  · exact absurd hlen (by simp)

/-- **Each token has a line of its own,** in whichever of their forms texts are written. The line of
a token breaks nowhere, and two tokens with the same line have the same offset, kind and text,
provided that these are texts at all. Of two tokens that were read off scripts, the spans are the
same as well. -/
theorem line_identifies_token {write : List Char → List Char} (hwrite : IsEscaping write) :
    (∀ t : Token, t.text.toByteArray.IsValidUTF8 →
      '\n' ∉ (t.lineBy write).toList ∧ '\r' ∉ (t.lineBy write).toList) ∧
    (∀ a b : Token, a.text.toByteArray.IsValidUTF8 → b.text.toByteArray.IsValidUTF8 →
      a.lineBy write = b.lineBy write →
        a.span.start = b.span.start ∧ a.kind = b.kind ∧ a.text = b.text) ∧
    ∀ script script' : List UInt8, ∀ a ∈ (tokenize script).tokens,
      ∀ b ∈ (tokenize script').tokens, a.text.toByteArray.IsValidUTF8 →
        b.text.toByteArray.IsValidUTF8 → a.lineBy write = b.lineBy write → a = b := by
  refine ⟨?_, fun _ _ => eq_of_lineBy_eq hwrite, ?_⟩
  · intro t _
    have hplain := (lists_lineBy hwrite t).not_isControl
    exact ⟨fun h => hplain _ h (by decide), fun h => hplain _ h (by decide)⟩
  · intro script script' a ha b hb hvalid hvalid' h
    obtain ⟨hstart, hkind, htext⟩ := eq_of_lineBy_eq hwrite hvalid hvalid' h
    -- the text says how long the token is, so its end needs no column
    have hstop := stop_of_mem_tokenize ha
    have hstop' := stop_of_mem_tokenize hb
    obtain ⟨kind, ⟨start, stop⟩, text⟩ := a
    obtain ⟨kind', ⟨start', stop'⟩, text'⟩ := b
    dsimp only at hstart hkind htext hstop hstop'
    subst hstart hkind htext
    rw [hstop, hstop']

/-- A line feed in a string is shown as an escape, and a string that holds this escape itself has
another line. The same string in another script has the same line. -/
theorem line_identifies_string_with_line_feed :
    let t : Token := ⟨.string, ⟨2, 5⟩, bytes "'\n'"⟩
    let u : Token := ⟨.string, ⟨2, 6⟩, bytes "'\\n'"⟩
    IsEscaping escape ∧ t.text.toByteArray.IsValidUTF8 ∧ u.text.toByteArray.IsValidUTF8 ∧
      ('\n' ∉ t.line.toList ∧ '\r' ∉ t.line.toList) ∧ t.line ≠ u.line ∧
      ∃ x ∈ (tokenize (bytes "a='\n'")).tokens, ∃ y ∈ (tokenize (bytes "b+'\n';")).tokens,
        x.line = y.line ∧ x = y := by
  intro t u
  have ht : t.text.toByteArray.IsValidUTF8 := isValidUTF8_iff.2 ⟨_, rfl⟩
  have hu : u.text.toByteArray.IsValidUTF8 := isValidUTF8_iff.2 ⟨_, rfl⟩
  obtain ⟨honeLine, hlines, htokens⟩ := line_identifies_token isEscaping_escape
  refine ⟨isEscaping_escape, ht, hu, honeLine t ht, ?_, ?_⟩
  · intro h
    obtain ⟨-, -, htext⟩ := hlines t u ht hu h
    exact absurd htext (by decide)
  · have hx : t ∈ (tokenize (bytes "a='\n'")).tokens := by decide +kernel
    have hy : t ∈ (tokenize (bytes "b+'\n';")).tokens := by decide +kernel
    exact ⟨t, hx, t, hy, rfl, htokens _ _ t hx t hy ht ht rfl⟩

end PageScan.Script
