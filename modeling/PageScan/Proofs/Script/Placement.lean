import Mathlib.Data.List.Forall2
import PageScan.Proofs.Script.InPlaceReading

/-!
# Where a lexer stands

A lexer counts the bytes that it has passed over, and looks at the count only to write the spans of
its tokens. A lexer that has passed over `n` bytes more, all else being equal, gives the same tokens
`n` bytes further on. This is an equation between runs (`Lexer.drain_moved`), and with it everything
that is known of a lexer at offset zero is known of one anywhere in a script.

The lexer in place keeps five marks more from token to token: the byte before, the opening byte, a
pending escape, an open class, a dot that was seen. None of them is read before it is written, so
what such a lexer will give is settled by its unread bytes and two bits (`unread_decides`).
-/

namespace PageScan.Script

/-! ### Moving -/

/-- The span `n` bytes further on. -/
def Span.moved (n : Nat) (s : Span) : Span := ⟨s.start + n, s.stop + n⟩

/-- The token `n` bytes further on. -/
def Token.moved (n : Nat) (t : Token) : Token := { t with span := t.span.moved n }

@[simp] theorem Token.kind_moved (n : Nat) (t : Token) : (t.moved n).kind = t.kind := rfl

@[simp] theorem Token.text_moved (n : Nat) (t : Token) : (t.moved n).text = t.text := rfl

@[simp] theorem Token.start_moved (n : Nat) (t : Token) :
    (t.moved n).span.start = t.span.start + n := rfl

@[simp] theorem Token.stop_moved (n : Nat) (t : Token) :
    (t.moved n).span.stop = t.span.stop + n := rfl

/-- The report of a token `n` bytes further on. -/
def Malformed.moved (n : Nat) (m : Malformed) : Malformed := { m with offset := m.offset + n }

/-- The lexer that has passed over `n` bytes more. -/
def Lexer.moved (n : Nat) (l : Lexer) : Lexer := { l with position := l.position + n }

@[simp] theorem Lexer.unread_moved (n : Nat) (l : Lexer) : (l.moved n).unread = l.unread := rfl

@[simp] theorem Lexer.malformed_moved (n : Nat) (l : Lexer) :
    (l.moved n).malformed = l.malformed := rfl

def Pull.moved (n : Nat) (p : Pull) : Pull :=
  ⟨p.token.moved n, p.lexer.moved n, p.report.map (·.moved n)⟩

def Run.moved (n : Nat) (r : Run) : Run :=
  ⟨r.tokens.map (·.moved n), r.lexer.moved n, r.reports.map (·.moved n)⟩

/-! ### Moved lexers read moved tokens -/

namespace Lexer

/-- A token that is read further on is the token, moved. -/
theorem read_moved (n : Nat) (l : Lexer) (b : UInt8) (rest : List UInt8) :
    (l.moved n).read b rest = (l.read b rest).moved n := by
  -- the stop is counted from the place of the lexer, and moves as that does
  have hstop (text : List UInt8) :
      l.position + n + text.length = l.position + text.length + n := by
    omega
  cases h : (lexeme l.afterValue b rest).closed <;>
    simp [read, moved, Pull.moved, Token.moved, Span.moved, Malformed.moved, h, hstop]

/-- One step further on is the step, moved. -/
theorem next?_moved (n : Nat) (l : Lexer) :
    (l.moved n).next? = l.next?.map (Pull.moved n) := by
  unfold next?
  rw [unread_moved, malformed_moved]
  cases l.unread with
  | nil => rfl
  | cons b rest =>
    cases l.malformed with
    | true => rfl
    | false => exact congrArg some (read_moved n l b rest)

/-- **A moved lexer** gives the moved tokens and reports. -/
theorem drain_moved (n : Nat) (l : Lexer) : (l.moved n).drain = l.drain.moved n := by
  -- along the run of `l`; the moved lexer has a next token exactly when `l` has one
  fun_induction drain l with
  | case1 l h =>
    have hnone : (l.moved n).next? = none := by rw [next?_moved, h, Option.map_none]
    exact drain_of_none hnone
  | case2 l p h ih =>
    have hsome : (l.moved n).next? = some (p.moved n) := by rw [next?_moved, h, Option.map_some]
    -- one step, and the rest of the run by induction
    rw [drain_of_some hsome, show (p.moved n).lexer = p.lexer.moved n from rfl, ih]
    cases hr : p.report <;> simp [Run.cons, Run.moved, Pull.moved, hr]

/-- The lexer as if it had not passed over any byte. -/
def atZero (l : Lexer) : Lexer := { l with position := 0 }

/-- Every lexer is one at offset zero, moved to its place. -/
theorem moved_atZero (l : Lexer) : l.atZero.moved l.position = l := by
  simp [atZero, moved]

/-- All tokens that are left, from those that there would be at offset zero. -/
theorem drain_eq_moved (l : Lexer) : l.drain = l.atZero.drain.moved l.position := by
  rw [← drain_moved, moved_atZero]

end Lexer

/-! ### The marks inside a token -/

namespace InPlaceLexer

/-- Also a lexer that was put behind the end of its script shows one: both have nothing to read. -/
theorem drain_shows (l : InPlaceLexer) :
    ∃ last, l.drain = some (l.view.drain.tokens, last) ∧ last.view = l.view.drain.lexer := by
  rcases Nat.lt_or_ge l.script.length l.marks.index with hgt | hle
  · have hle : l.script.length ≤ l.marks.index := Nat.le_of_lt hgt
    have hnone : l.view.next? = none :=
      Lexer.next?_eq_none_iff.2 (.inl (List.drop_eq_nil_of_le hle))
    -- the empty slice at the end of the script is the text of the end mark
    have hslice : slice? l.script ⟨l.script.length, l.script.length + ([] : List UInt8).length⟩ =
        some [] := slice?_of_drop (List.drop_length.trans (List.append_nil []).symm) (Nat.le_refl _)
    rw [List.length_nil, Nat.add_zero] at hslice
    have hpull : l.pull = some
        { token := ⟨.endOfInput, ⟨l.script.length, l.script.length⟩, []⟩, lexer := l } := by
      simp [pull, pullEnd, hle, hslice]
    refine ⟨l, ?_, ?_⟩
    · rw [Lexer.drain_of_none hnone]
      exact drain_of_isEnd hpull rfl
    · rw [Lexer.drain_of_none hnone]
  · exact drain_view hle

end InPlaceLexer

/-- The same token at another place: kind and bytes agree, and both ends of the span lie `distance`
bytes further on. -/
structure Token.Displaced (distance : Int) (t u : Token) : Prop where
  kind : u.kind = t.kind
  text : u.text = t.text
  start : (u.span.start : Int) - t.span.start = distance
  stop : (u.span.stop : Int) - t.span.stop = distance

/-- A token moved by two distances lies as far apart as these differ. -/
theorem Token.displaced_moved (m n : Nat) (t : Token) :
    Token.Displaced ((n : Int) - m) (t.moved m) (t.moved n) := by
  refine ⟨rfl, rfl, ?_, ?_⟩
  · rw [Token.start_moved, Token.start_moved]
    omega
  · rw [Token.stop_moved, Token.stop_moved]
    omega

/-- **The unread bytes decide.** Let two lexers in place, neither of which has met a malformed
token, have the same bytes before them and the same bit about the text behind them. Whatever scripts
they stand in and whatever other marks earlier tokens have left, they give the same tokens, apart as
far as the lexers stand apart, and in the end both have met a malformed token or neither. -/
theorem unread_decides {l k : InPlaceLexer} (hl : l.marks.malformed = false)
    (hk : k.marks.malformed = false)
    (hunread : l.script.drop l.marks.index = k.script.drop k.marks.index)
    (hvalue : l.marks.afterValue = k.marks.afterValue) :
    ∃ ts us l' k', l.drain = some (ts, l') ∧ k.drain = some (us, k') ∧
      List.Forall₂ (Token.Displaced ((k.marks.index : Int) - l.marks.index)) ts us ∧
      k'.marks.malformed = l'.marks.malformed := by
  obtain ⟨l', hl', hlast⟩ := l.drain_shows
  obtain ⟨k', hk', hlast'⟩ := k.drain_shows
  -- brought to offset zero, the two lexers show the same one
  have hzero : l.view.atZero = k.view.atZero := by
    simp [InPlaceLexer.view, Lexer.atZero, hunread, hvalue, hl, hk]
  rw [Lexer.drain_eq_moved] at hl' hlast hk' hlast'
  rw [← hzero] at hk' hlast'
  refine ⟨_, _, l', k', hl', hk', ?_, ?_⟩
  · change List.Forall₂ _ (l.view.atZero.drain.tokens.map (Token.moved l.marks.index))
      (l.view.atZero.drain.tokens.map (Token.moved k.marks.index))
    -- one list of tokens, moved to two places
    rw [List.forall₂_map_left_iff, List.forall₂_map_right_iff, List.forall₂_same]
    intro t _
    exact Token.displaced_moved _ _ t
  · calc k'.marks.malformed
        = k'.view.malformed := rfl
      _ = l'.view.malformed := by rw [hlast', hlast]; rfl
      _ = l'.marks.malformed := rfl

/-- A lexer that still bears an open class and a pending escape reads `/a/` behind an equals sign as
a fresh lexer reads it alone, one byte further on. -/
theorem unread_decides_in_class :
    let l : InPlaceLexer :=
      ⟨[0x3D, 0x2F, 0x61, 0x2F], { index := 1, inClass := true, escaped := true }⟩
    let k := InPlaceLexer.on [0x2F, 0x61, 0x2F]
    l.script.drop l.marks.index = k.script.drop k.marks.index ∧
      ∃ ts us l' k', l.drain = some (ts, l') ∧ k.drain = some (us, k') ∧
        List.Forall₂ (Token.Displaced (-1)) ts us ∧ k'.marks.malformed = l'.marks.malformed := by
  refine ⟨rfl, ?_⟩
  exact unread_decides rfl rfl rfl rfl

end PageScan.Script
