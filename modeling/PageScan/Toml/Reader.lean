/-!
# Readers

A `Reader` takes characters off the front of a text or gives up and takes none. Readers are put
together with `do` and `<|>`. Repetition is total: it ends when the repeated reader gives up or
takes nothing.
-/

namespace PageScan.Toml

/-- A function that takes a value off the front of a text. -/
abbrev Reader := StateT (List Char) Option

namespace Reader

/-- The next character, which stays where it is. -/
def peek? : Reader (Option Char) := fun cs => some (cs.head?, cs)

/-- The next character, if it has the property. -/
def satisfy (p : Char → Bool) : Reader Char := fun cs =>
  match cs with
  | c :: rest => if p c then some (c, rest) else none
  | [] => none

/-- The given character. -/
def char (c : Char) : Reader Unit := do let _ ← satisfy (· == c)

/-- The given characters in a row. -/
def text (cs : List Char) : Reader Unit := cs.forM char

/-- The longest run of characters with the property. -/
def chars (p : Char → Bool) : Reader (List Char) := fun cs => some (cs.takeWhile p, cs.dropWhile p)

/-- The longest run of characters with the property, if there is one. -/
def chars1 (p : Char → Bool) : Reader (List Char) := fun cs =>
  if (cs.takeWhile p).isEmpty then none else some (cs.takeWhile p, cs.dropWhile p)

/-- Exactly so many characters with the property. -/
def exactly (n : Nat) (p : Char → Bool) : Reader (List Char) := fun cs =>
  if (cs.take n).length = n ∧ (cs.take n).all p then some (cs.take n, cs.drop n) else none

/-- Accepts what was read only under a condition. -/
def check (condition : Bool) : Reader Unit := if condition then pure () else failure

/-- The end of the text. -/
def atEnd : Reader Unit := fun cs => if cs.isEmpty then some ((), []) else none

/-- What a repetition finds in a text, and what is left. -/
def repeatOn {α : Type} (r : Reader α) (cs : List Char) : List α × List Char :=
  match StateT.run r cs with
  | some (a, rest) =>
    if _h : rest.length < cs.length then
      let (as, rest') := repeatOn r rest
      (a :: as, rest')
    else ([], cs)
  | none => ([], cs)
termination_by cs.length

/-- As often as possible. -/
def many {α : Type} (r : Reader α) : Reader (List α) := fun cs => some (repeatOn r cs)

/-- At least once, with a separator in between. -/
def separated1 {α : Type} (separator : Reader Unit) (r : Reader α) : Reader (List α) := do
  let first ← r
  let others ← many do
    separator
    r
  return first :: others

end Reader

end PageScan.Toml
