/-!
# Styled text

What the program shows on a terminal is a sequence of pieces (`Styled`), each a plain text with
the styles laid around it. Only `Styled.render` knows the terminal's escape sequences: a style
opens before its text and closes behind it, also when the text is empty, and a later style is laid
outside an earlier one. `Styled.content` is the text without its styles.
-/

namespace PageScan.Text

/-- A colour or emphasis of the terminal. -/
inductive Style where
  | red
  | green
  | yellow
  | blue
  | magenta
  | cyan
  | white
  | brightGreen
  | brightYellow
  | brightCyan
  | bold
  | dimmed
  | italic
  deriving DecidableEq, Repr

namespace Style

/-- The number that switches a style on. -/
def code : Style → Nat
  | red => 31
  | green => 32
  | yellow => 33
  | blue => 34
  | magenta => 35
  | cyan => 36
  | white => 37
  | brightGreen => 92
  | brightYellow => 93
  | brightCyan => 96
  | bold => 1
  | dimmed => 2
  | italic => 3

/-- The number that ends a style: the default colour after a colour, everything off after an
emphasis. -/
def endCode : Style → Nat
  | bold | dimmed | italic => 0
  | _ => 39

/-- The escape sequence with the given number. -/
def sequence (n : Nat) : String := "\x1b[" ++ toString n ++ "m"

/-- Lays a style around a text. -/
def wrap (s : Style) (text : String) : String := sequence s.code ++ text ++ sequence s.endCode

end Style

/-- A text and the styles around it, the innermost first. -/
structure Piece where
  text : String
  styles : List Style := []
  deriving DecidableEq, Repr

/-- The piece as the terminal receives it. -/
def Piece.render (p : Piece) : String := p.styles.foldl (fun text s => s.wrap text) p.text

/-- A text in pieces. -/
abbrev Styled := List Piece

namespace Styled

/-- A text without styles. -/
def plain (text : String) : Styled := [⟨text, []⟩]

/-- A text in one style. -/
def styled (s : Style) (text : String) : Styled := [⟨text, [s]⟩]

/-- The text as the terminal receives it. -/
def render (t : Styled) : String := String.join (t.map Piece.render)

/-- The text alone, without its styles. -/
def content (t : Styled) : String := String.join (t.map Piece.text)

@[simp] theorem render_nil : render [] = "" := rfl

@[simp] theorem render_cons (p : Piece) (t : Styled) : render (p :: t) = p.render ++ render t := by
  simp [render]

@[simp] theorem render_append (s t : Styled) : render (s ++ t) = render s ++ render t := by
  simp [render]

@[simp] theorem content_nil : content [] = "" := rfl

@[simp] theorem content_cons (p : Piece) (t : Styled) : content (p :: t) = p.text ++ content t := by
  simp [content]

@[simp] theorem content_append (s t : Styled) : content (s ++ t) = content s ++ content t := by
  simp [content]

end Styled

end PageScan.Text
