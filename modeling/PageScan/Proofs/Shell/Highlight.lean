import Mathlib.Algebra.GroupWithZero.Nat
import PageScan.Proofs.Script.Characters
import PageScan.Proofs.Script.Tiling
import PageScan.Shell.Highlight

/-!
# A line in colour is the line

Colouring must not change what the user types. What the terminal receives for a line is the line in
pieces, one behind the other, each of them bare or between escape sequences (`Shows`); take these
away and the line is left.

For a script this rests on the lexer: its tokens hold whole characters, so that the text of each is
shown as it is, and the bytes behind them begin at a character, so that the rest of the line can be
cut off there (`splitAt?_consumed`). A cut inside a character would have dropped the rest.
-/

namespace PageScan.Shell

open Text Script

/-- **A text as it is shown:** bare, in one style, or in an emphasis laid around a colour. -/
inductive Wraps (text : String) : String → Prop
  | bare : Wraps text text
  | styled (s : Style) : Wraps text (s.wrap text)
  | emphasised (colour emphasis : Style) (h : emphasis = .bold ∨ emphasis = .italic) :
      Wraps text (emphasis.wrap (colour.wrap text))

/-- **A text shown in pieces.** What is shown is made of consecutive pieces, and the texts of the
pieces make up the text. -/
inductive Shows : String → String → Prop
  | nil : Shows "" ""
  | cons {piece shownPiece text shown : String} (hp : Wraps piece shownPiece)
      (ht : Shows text shown) : Shows (piece ++ text) (shownPiece ++ shown)

/-! ### Pieces -/

/-- The styles that a piece may have: none, one, or a colour and an emphasis around it. -/
def IsPlain (styles : List Style) : Prop :=
  styles = [] ∨ (∃ s, styles = [s]) ∨
    ∃ colour emphasis, (emphasis = .bold ∨ emphasis = .italic) ∧ styles = [colour, emphasis]

/-- A piece in such styles is shown as its text, bare or wrapped. -/
theorem wraps_render {p : Piece} (h : IsPlain p.styles) : Wraps p.text p.render := by
  unfold Piece.render
  rcases h with h | ⟨s, h⟩ | ⟨colour, emphasis, he, h⟩
  · rw [h]
    exact .bare
  · rw [h]
    exact .styled s
  · rw [h]
    exact .emphasised colour emphasis he

theorem isPlain_styles (kind : TokenKind) : IsPlain kind.styles := by
  cases kind with
  | whitespace | lineSeparator | identifier | endOfInput => exact .inl rfl
  | number | string | regex | comment | operator => exact .inr (.inl ⟨_, rfl⟩)
  | keyword word =>
    unfold TokenKind.styles
    dsimp only
    split
    · exact .inr (.inl ⟨_, rfl⟩)
    split
    · exact .inr (.inr ⟨_, _, .inr rfl, rfl⟩)
    · exact .inr (.inr ⟨_, _, .inl rfl, rfl⟩)

/-- What is shown of pieces in such styles is their text in pieces. -/
theorem shows_render {t : Styled} (h : ∀ p ∈ t, IsPlain p.styles) : Shows t.content t.render := by
  induction t with
  | nil => exact .nil
  | cons p t ih =>
    rw [Styled.content_cons, Styled.render_cons]
    exact .cons (wraps_render (h p List.mem_cons_self))
      (ih fun q hq => h q (List.mem_cons_of_mem p hq))

/-! ### The tokens and the rest -/

/-- The number of bytes that the spans of the tokens take. -/
def consumed (t : Tokenized) : Nat := (t.tokens.map fun x => x.span.stop - x.span.start).sum

/-- The spans of the tokens of a script take as many bytes as the tokens hold. -/
theorem consumed_tokenize (script : List UInt8) :
    consumed (tokenize script) = (tokenize script).reconstruct.length := by
  have htiles : Tiles script 0 (tokenize script).tokens :=
    (reads_tokenize script).tiles rfl (Nat.zero_le _)
  rw [consumed, Tokenized.reconstruct, List.length_flatMap]
  refine congrArg List.sum (List.map_congr_left fun t ht => ?_)
  have hlen := (htiles.of_mem t ht).2
  -- no span stops before it starts, so the difference is not cut off at zero
  unfold Span.length? at hlen
  split at hlen
  · exact Option.some.inj hlen
  · exact absurd hlen (by simp)

/-- **The rest begins at a character.** The tokens of a text stand for characters of it, and the
text can be cut off behind them. -/
theorem exists_splitAt?_reconstruct (line : String) :
    ∃ behind, splitAt? (tokenize (bytes line)).reconstruct.length line.toList =
        some ((tokenize (bytes line)).tokens.flatMap (·.characters), behind) ∧
      line.toList = (tokenize (bytes line)).tokens.flatMap (·.characters) ++ behind := by
  have hunread : (Lexer.on (bytes line)).unread = encode line.toList := rfl
  obtain ⟨behind, hline, -, hlossless⟩ := (reads_tokenize (bytes line)).characters hunread
  refine ⟨behind, ?_, hline⟩
  -- the characters of the tokens are as many bytes as the tokens hold
  have hcut := splitAt?_encode ((tokenize (bytes line)).tokens.flatMap (·.characters)) behind
  rwa [← hline, encode_flatMap_characters hlossless] at hcut

theorem content_painted (t : Tokenized) :
    t.painted.content = String.ofList (t.tokens.flatMap (·.characters)) := by
  rw [Tokenized.painted]
  induction t.tokens with
  | nil => rfl
  | cons u ts ih =>
    rw [List.map_cons, Styled.content_cons, ih, List.flatMap_cons, String.ofList_append]
    rfl

/-! ### The line -/

/-- Nothing of the line is lost, doubled or replaced. -/
theorem content_highlight (line : String) : (highlight line).content = line := by
  unfold highlight
  split
  · simp [Styled.styled]
  · -- the characters of the tokens and the characters cut off behind them
    obtain ⟨behind, hsplit, hline⟩ := exists_splitAt?_reconstruct line
    dsimp only
    rw [hsplit, Styled.content_append, content_painted]
    calc String.ofList ((tokenize (bytes line)).tokens.flatMap (·.characters)) ++
          (Styled.styled .red (String.ofList behind)).content
        = String.ofList ((tokenize (bytes line)).tokens.flatMap (·.characters) ++ behind) := by
          rw [String.ofList_append]; simp [Styled.styled]
      _ = line := by rw [← hline, String.ofList_toList]

/-- All of a highlighted line is in such styles: the tokens, and the rest in red. -/
theorem isPlain_highlight (line : String) : ∀ p ∈ highlight line, IsPlain p.styles := by
  have hstyled : ∀ s text, ∀ p ∈ Styled.styled s text, IsPlain p.styles := by
    intro s text p hp
    obtain rfl := List.mem_singleton.1 hp
    exact .inr (.inl ⟨s, rfl⟩)
  unfold highlight
  split
  · exact hstyled _ _
  intro p hp
  rcases List.mem_append.1 hp with hp | hp
  · obtain ⟨t, -, rfl⟩ := List.mem_map.1 hp
    exact isPlain_styles t.kind
  · -- behind the tokens there is the rest, or the cut would have failed and nothing is there
    split at hp
    · exact hstyled _ _ p hp
    · exact absurd hp List.not_mem_nil

/-- **Tokens of a text lie on the boundaries of its characters,** whatever the text. So each line is
shown in colour as it is: in pieces whose texts are the line, with the rest behind the tokens cut
off at a character. -/
theorem tokens_on_boundaries_and_highlight_shows :
    (∀ script : List UInt8, script.toByteArray.IsValidUTF8 →
      ∀ t ∈ (tokenize script).tokens, t.OnBoundaries script) ∧
    ∀ line : String, Shows line (highlight line).render ∧
      (splitAt? (consumed (tokenize (bytes line))) line.toList).isSome = true := by
  constructor
  · intro script hscript t ht
    -- valid UTF-8 is a text that was written
    obtain ⟨cs, rfl⟩ := isValidUTF8_iff.1 hscript
    exact onBoundaries_of_mem ht
  · intro line
    constructor
    · -- what is shown are the texts of the pieces, and these are the line
      have hshows := shows_render (isPlain_highlight line)
      rwa [content_highlight] at hshows
    · obtain ⟨behind, hsplit, -⟩ := exists_splitAt?_reconstruct line
      rw [consumed_tokenize, hsplit]
      rfl

/-- The backslash in `"\é"` takes only the first byte of the character, and the string is whole. -/
theorem escaped_character_on_boundaries :
    [0x22, 0x5C, 0xC3, 0xA9, 0x22].toByteArray.IsValidUTF8 ∧
      (⟨.string, ⟨0, 5⟩, [0x22, 0x5C, 0xC3, 0xA9, 0x22]⟩ : Token).OnBoundaries
        [0x22, 0x5C, 0xC3, 0xA9, 0x22] := by
  have hvalid : [0x22, 0x5C, 0xC3, 0xA9, 0x22].toByteArray.IsValidUTF8 :=
    isValidUTF8_iff.2 ⟨['"', '\\', 'é', '"'], by decide⟩
  exact ⟨hvalid, tokens_on_boundaries_and_highlight_shows.1 _ hvalid _ (by decide +kernel)⟩

end PageScan.Shell
