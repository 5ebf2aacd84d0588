import PageScan.Script.Comment
import PageScan.Script.Literal
import PageScan.Script.Numeral
import PageScan.Script.Punctuator
import PageScan.Script.Token
import PageScan.Script.Word

/-!
# The next token of a script

`lexeme` reads one token off the unread bytes. The first byte chooses the rule; only a slash needs
more. It begins a comment before another slash or a star; it divides when it is the last byte of
the script or when the text so far may end a value; otherwise it begins a regular expression.
Telling division from a regular expression needs a parser, and one bit about the previous tokens
(`afterValue`) stands in for it.

What the token makes of that bit is `TokenKind.endsValue`: trivia leave it alone, every other token
sets it (`valueBehind`).
-/

namespace PageScan.Script

/-- A cut and the kind of token that it is. -/
structure Lexeme extends Cut where
  kind : TokenKind
  deriving DecidableEq, Repr

namespace Lexeme

/-- A string from its opening quote on. -/
def quoted (quote : UInt8) (rest : List UInt8) : Lexeme :=
  ⟨(stringTail quote false rest).cons quote, .string⟩

/-- A word, which is a keyword when it is spelled as one. -/
def word (s : List UInt8) : Lexeme :=
  let c := wordTail false s
  ⟨c, match Keyword.ofBytes? c.text with
    | some k => .keyword k
    | none => .identifier⟩

/-- A numeral, or the operator that a lone dot is. -/
def numeralOrDot (s : List UInt8) : Lexeme :=
  let c := numeral s
  ⟨c, if c.text = [dot] then .operator else .number⟩

/-- An operator from its first byte on. -/
def punctuator (first : UInt8) (rest : List UInt8) : Lexeme :=
  ⟨(operatorTail first rest).cons first, .operator⟩

/-- What a slash begins. -/
def slashed (afterValue : Bool) (rest : List UInt8) : Lexeme :=
  match rest with
  | [] => punctuator slash []
  | b :: s =>
    if b = slash then ⟨lineComment (slash :: b :: s), .comment⟩
    else if b = star then ⟨(blockTail false (b :: s)).cons slash, .comment⟩
    else if afterValue then punctuator slash (b :: s)
    else ⟨(regexTail false false (b :: s)).cons slash, .regex⟩

end Lexeme

/-- **The next token** of a script whose unread bytes are `b :: rest`. -/
def lexeme (afterValue : Bool) (b : UInt8) (rest : List UInt8) : Lexeme :=
  if isSpace b then ⟨Cut.run isSpace (b :: rest), .whitespace⟩
  else if isLineSeparator b then ⟨Cut.run isLineSeparator (b :: rest), .lineSeparator⟩
  else if isDigit b || b == dot then Lexeme.numeralOrDot (b :: rest)
  else if b = slash then Lexeme.slashed afterValue rest
  else if isQuote b then Lexeme.quoted b rest
  else if isWordStart b then Lexeme.word (b :: rest)
  else if markupOpening.isPrefixOf (b :: rest) then ⟨lineComment (b :: rest), .comment⟩
  else Lexeme.punctuator b rest

/-- Whether a token of this kind and text can end a value: identifiers, numerals, strings, the four
value keywords and the closing brackets can. -/
def TokenKind.endsValue (text : List UInt8) : TokenKind → Bool
  | .identifier | .number | .string => true
  | .keyword k => k.isValue
  | .operator => text.head?.any isClosing
  | _ => false

/-- Whether the text behind a token may end a value, given whether the text before it may. -/
def Lexeme.valueBehind (x : Lexeme) (before : Bool) : Bool :=
  if x.kind.isTrivia then before else x.kind.endsValue x.text

/-! ### A token takes bytes and loses none -/

theorem Lexeme.slashed_text_append_rest (afterValue : Bool) (rest : List UInt8) :
    (slashed afterValue rest).text ++ (slashed afterValue rest).rest = slash :: rest := by
  unfold slashed
  split
  · rfl
  · split
    · exact lineComment_text_append_rest _
    · split
      · simp [blockTail_text_append_rest]
      · split
        · simp [punctuator, operatorTail_text_append_rest]
        · simp [regexTail_text_append_rest]

theorem lexeme_text_append_rest (afterValue : Bool) (b : UInt8) (rest : List UInt8) :
    (lexeme afterValue b rest).text ++ (lexeme afterValue b rest).rest = b :: rest := by
  unfold lexeme
  split
  · exact Cut.run_text_append_rest ..
  split
  · exact Cut.run_text_append_rest ..
  split
  · exact numeral_text_append_rest _
  split
  · next hb => rw [hb]; exact Lexeme.slashed_text_append_rest ..
  split
  · simp [Lexeme.quoted, stringTail_text_append_rest]
  split
  · exact wordTail_text_append_rest ..
  split
  · exact lineComment_text_append_rest _
  · simp [Lexeme.punctuator, operatorTail_text_append_rest]

theorem numeral_text_ne_nil {b : UInt8} {rest : List UInt8} (h : isDigit b = true ∨ b = dot) :
    (numeral (b :: rest)).text ≠ [] := by
  rcases h with h | rfl
  · unfold numeral
    dsimp only
    split
    · split <;> simp [h]
    · simp [h]
  · have hd : isDigit dot = false := rfl
    simp [numeral, hd]

theorem Lexeme.slashed_text_ne_nil (afterValue : Bool) (rest : List UInt8) :
    (slashed afterValue rest).text ≠ [] := by
  unfold slashed
  split
  · simp [punctuator]
  · split
    · have h : isLineSeparator slash = false := rfl
      simp [lineComment, h]
    · split
      · simp
      · split <;> simp [punctuator]

theorem lexeme_text_ne_nil (afterValue : Bool) (b : UInt8) (rest : List UInt8) :
    (lexeme afterValue b rest).text ≠ [] := by
  unfold lexeme
  split
  · next h => simp [h]
  split
  · next h => simp [h]
  split
  · next h => exact numeral_text_ne_nil (by simpa using h)
  split
  · exact Lexeme.slashed_text_ne_nil afterValue rest
  split
  · simp [Lexeme.quoted]
  split
  · next h =>
    by_cases hb : b = backslash
    · simp [Lexeme.word, wordTail, hb]
    · simp [Lexeme.word, wordTail, hb, h]
  split
  · next h _ _ _ _ _ => simp [lineComment, h]
  · simp [Lexeme.punctuator]

/-- A token leaves fewer bytes than it found. -/
theorem length_lexeme_rest_lt (afterValue : Bool) (b : UInt8) (rest : List UInt8) :
    (lexeme afterValue b rest).rest.length < (b :: rest).length := by
  have hlen := congrArg List.length (lexeme_text_append_rest afterValue b rest)
  have hpos := List.length_pos_iff.2 (lexeme_text_ne_nil afterValue b rest)
  rw [List.length_append] at hlen
  omega

end PageScan.Script
