import PageScan.Proofs.Script.Beginning
import PageScan.Proofs.Script.Comment
import PageScan.Proofs.Script.InPlaceReading
import PageScan.Proofs.Script.Literal

/-!
# The tokens of a script tile it

Tokens lie one behind the other, without a gap and without an overlap, from the first byte of the
script on, and each holds the bytes of its stretch (`Tiles`). They reach to the end of the script,
unless a regular expression was broken off behind a line feed.

That a run of the lexer tiles is an invariant of its steps (`Reads.tiles`). How far the tiles reach
is decided by the last token alone: `lexeme_of_not_closed` says what may be left behind a malformed
one. `tokenizeInPlace_tiles` puts this together for the lexer in place, which looks up every byte
and every slice and so could miss one.
-/

namespace PageScan.Script

/-- **A tiling.** From an offset on, the tokens lie in the script one behind the other; each is of
at least one byte and holds the bytes of the script in its span. -/
inductive Tiles (script : List UInt8) : Nat → List Token → Prop
  | nil (offset : Nat) : Tiles script offset []
  | cons {t : Token} {ts : List Token} (hne : t.span.start < t.span.stop)
      (ht : slice? script t.span = some t.text) (hts : Tiles script t.span.stop ts) :
      Tiles script t.span.start (t :: ts)

/-! ### The steps of a run tile -/

/-- A run that has reached the bytes behind its position tiles the script from there on. -/
theorem Reads.tiles {script : List UInt8} {l l' : Lexer} {ts : List Token} (h : Reads l ts l')
    (hu : l.unread = script.drop l.position) (hp : l.position ≤ script.length) :
    Tiles script l.position ts := by
  induction h with
  | done l => exact .nil l.position
  | @read l l' p ts hnext hr ih =>
    obtain ⟨b, rest, hb, -, rfl⟩ := Lexer.next?_eq_some_iff.1 hnext
    obtain ⟨hslice, hrest, hle⟩ := lexeme_within l.afterValue (hu.symm.trans hb)
    have hpos := List.length_pos_iff.2 (lexeme_text_ne_nil l.afterValue b rest)
    -- the lexer behind the token stands where the token stops
    have hbehind : Tiles script (l.read b rest).token.span.stop ts := by
      refine ih ?_ ?_
      · rw [Lexer.unread_read, Lexer.position_read, hrest]
      · rwa [Lexer.position_read]
    refine .cons (t := (l.read b rest).token) ?_ hslice hbehind
    rw [Lexer.start_read, Lexer.stop_read]
    omega

/-! ### The end of the tiling -/

/-- Behind a malformed token nothing is left, unless it is a regular expression broken off behind a
line feed. -/
theorem lexeme_of_not_closed {afterValue : Bool} {b : UInt8} {rest : List UInt8}
    (h : (lexeme afterValue b rest).closed = false) :
    (lexeme afterValue b rest).rest = [] ∨
      (lexeme afterValue b rest).kind = .regex ∧
        (lexeme afterValue b rest).text.getLast? = some lineFeed := by
  have hbegins := begins_lexeme afterValue b rest
  generalize lexeme afterValue b rest = x at hbegins h ⊢
  cases hbegins with
  | whitespace | lineSeparator | loneDot | lineComment | markup =>
    exact absurd h (by simp [lineComment])
  | number => exact absurd h (by simp)
  | word => exact absurd h (by simp [Lexeme.word])
  | lastSlash | division | operator => exact absurd h (by simp [Lexeme.punctuator])
  | blockComment => exact .inl (blockTail_rest_of_not_closed h)
  | string => exact .inl (stringTail_rest_of_not_closed h)
  | regex =>
    rcases regexTail_of_not_closed h with hrest | hlast
    · exact .inl hrest
    · exact .inr ⟨rfl, getLast?_cons_of_some hlast⟩

/-! ### The whole script -/

/-- What a span cuts out of a script is as long as the span. -/
theorem length?_of_slice? {script text : List UInt8} {s : Span} (h : slice? script s = some text) :
    s.length? = some text.length := by
  unfold slice? at h
  split at h
  · next hs =>
    obtain rfl := Option.some.inj h
    rw [Span.length?, if_pos hs.1, List.length_drop, List.length_take, Nat.min_eq_left hs.2]
  · exact absurd h (by simp)

/-- The tokens of a tiling are not empty, and as long as their spans. -/
theorem Tiles.of_mem {script : List UInt8} {offset : Nat} {ts : List Token}
    (h : Tiles script offset ts) :
    ∀ t ∈ ts, t.span.isEmpty = false ∧ t.span.length? = some t.text.length := by
  induction h with
  | nil => simp
  | cons hne hslice _ ih =>
    intro t ht
    rcases List.mem_cons.1 ht with rfl | ht
    · exact ⟨beq_false_of_ne (Nat.ne_of_lt hne), length?_of_slice? hslice⟩
    · exact ih t ht

/-- A regular expression that ends with a line feed. -/
def Token.EndsLine (t : Token) : Prop := t.kind = .regex ∧ t.text.getLast? = some lineFeed

/-- **The tokens of a script tile it.** Read in place, every script comes out in tokens. None of
them is an end mark or empty, and they tile the script from its first byte on. They reach to its
end, unless the last of them is malformed and a regular expression that ends with a line feed; then
they reach to that line feed. -/
theorem tokenizeInPlace_tiles (script : List UInt8) :
    ∃ t, tokenizeInPlace script = some t ∧ t = tokenize script ∧
      (∀ x ∈ t.tokens, x.isEnd = false ∧ x.span.isEmpty = false ∧
        x.span.length? = some x.text.length) ∧
      Tiles script 0 t.tokens ∧ t.reconstruct <+: script ∧
      (t.malformed = false → t.reconstruct = script) ∧
      (t.malformed = true → ∃ last, t.tokens.getLast? = some last ∧
        (¬last.EndsLine → t.reconstruct = script) ∧
        (last.EndsLine → t.reconstruct = script.take last.span.stop ∧
          script[last.span.stop - 1]? = some lineFeed)) := by
  have hr := reads_tokenize script
  have htiles : Tiles script 0 (tokenize script).tokens := hr.tiles rfl (Nat.zero_le _)
  have hparts := reconstruct_append_unread script
  refine ⟨tokenize script, tokenizeInPlace_eq script, rfl, ?_, htiles, ⟨_, hparts⟩, ?_, ?_⟩
  · intro x hx
    exact ⟨hr.not_isEnd x hx, htiles.of_mem x hx⟩
  · -- not malformed: the lexer has stopped because nothing is left
    intro hm
    rwa [unread_of_not_malformed hm, List.append_nil] at hparts
  · intro hm
    obtain ⟨before, last, hlast⟩ := exists_last_of_malformed hm
    obtain ⟨l, b, rest, hbefore, hu, -, rfl, hend⟩ := exists_last_site hlast
    refine ⟨(l.read b rest).token, by rw [hlast, List.getLast?_concat], ?_, ?_⟩
    · intro hline
      have hopen : (lexeme l.afterValue b rest).closed = false := by
        simpa [tokenize, hend] using hm
      -- the token is malformed, so either it took all or it is such a regular expression
      rcases lexeme_of_not_closed hopen with hrest | hbroken
      · rwa [hend, Lexer.unread_read, hrest, List.append_nil] at hparts
      · exact absurd hbroken hline
    · intro hline
      have hstop : (l.read b rest).token.span.stop = (tokenize script).reconstruct.length := by
        have hpos := hr.position
        rw [hend] at hpos
        exact hpos.trans (Nat.zero_add _)
      have hlf : (tokenize script).reconstruct.getLast? = some lineFeed := by
        rw [Tokenized.reconstruct, hlast, List.flatMap_append, List.flatMap_singleton,
          List.getLast?_append, hline.2, Option.some_or]
      -- the tokens end where the last of them stops, and with its last byte
      rw [hstop]
      refine ⟨?_, ?_⟩
      · rw [← List.prefix_iff_eq_take]
        exact ⟨_, hparts⟩
      · rw [List.getLast?_eq_getElem?] at hlf
        obtain ⟨hlt, -⟩ := List.getElem?_eq_some_iff.1 hlf
        calc script[(tokenize script).reconstruct.length - 1]?
            = ((tokenize script).reconstruct ++ (Lexer.on script).drain.lexer.unread)[
                (tokenize script).reconstruct.length - 1]? := by rw [hparts]
          _ = (tokenize script).reconstruct[(tokenize script).reconstruct.length - 1]? :=
              List.getElem?_append_left hlt
          _ = some lineFeed := hlf

/-- The regular expression that begins with `/a` is broken off, and what is behind its line feed is
not read. -/
theorem tiles_broken_regex :
    (tokenize [0x2F, 0x61, 0x0A, 0x62]).malformed = true ∧
      (tokenize [0x2F, 0x61, 0x0A, 0x62]).reconstruct = [0x2F, 0x61, 0x0A] := by
  obtain ⟨t, -, rfl, -, -, -, -, hmalformed⟩ := tokenizeInPlace_tiles [0x2F, 0x61, 0x0A, 0x62]
  have hm : (tokenize [0x2F, 0x61, 0x0A, 0x62]).malformed = true := by decide +kernel
  have hlast : (tokenize [0x2F, 0x61, 0x0A, 0x62]).tokens.getLast? =
      some ⟨.regex, ⟨0, 3⟩, [0x2F, 0x61, 0x0A]⟩ := by decide +kernel
  obtain ⟨last, h, -, hline⟩ := hmalformed hm
  obtain rfl := Option.some.inj (hlast.symm.trans h)
  exact ⟨hm, (hline ⟨rfl, rfl⟩).1⟩

end PageScan.Script
