import PageScan.Toml.Scalar

/-!
# TOML documents

A document is a list of statements, one a line: `key = value` puts a value into the table at hand,
`[key]` turns to another table, `[[key]]` to a new table at the end of an array. `assign` and
`Entries.descend` say what a statement may touch:

* a key is given once;
* a table gets one header at most, and not after it was written out in any other way;
* dotted keys go into tables that dotted keys made, not into those with a header;
* a table between braces is complete and so is an array between brackets.

`parse` reads a document or refuses it as a whole.
-/

namespace PageScan.Toml

open Reader

/-! ### Tables -/

/-- Follows a path through tables, making those that are missing, and changes the entries at its
end. The last table of an array of tables stands for the array. Tables that dotted keys make or
pass are `dotted`; `passing` is for the path of a header. -/
def Entries.descend (dotted : Bool) (change : Option Origin → Entries → Option Entries) :
    List String → Option Origin → Entries → Option Entries
  | [], here, t => change here t
  | k :: path, _, t => do
    match t.get? k with
    | none =>
      let origin : Origin := if dotted then .dotted else .passing
      return t.set k (.table origin (← descend dotted change path (some origin) []))
    | some (.table .braces _) => none
    | some (.table origin entries) =>
      if dotted ∧ origin = .header then none
      else return t.set k (.table origin (← descend dotted change path (some origin) entries))
    | some (.tables elements) =>
      let last ← elements.getLast?
      let entries ← descend dotted change path (some .header) last
      return t.set k (.tables (elements.dropLast ++ [entries]))
    | some _ => none

/-- Puts a value under a dotted key; `parts` are the parts before the last. -/
def assign (t : Entries) (parts : List String) (last : String) (v : Value) : Option Entries :=
  t.descend true
    (fun here entries =>
      let reachedByDots := here == some .dotted
      if reachedByDots == parts.isEmpty then none
      else if (entries.get? last).isSome then none
      else some (entries.set last v))
    parts none

/-- A pair of a key, in its parts, and a value. -/
structure Pair where
  parts : List String
  last : String
  value : Value

/-- Puts pairs into a table one by one. -/
def assignAll (t : Entries) (pairs : List Pair) : Option Entries :=
  pairs.foldlM (fun t p => assign t p.parts p.last p.value) t

/-! ### Values with parts -/

/-- Splits a key into its last part and those before it. -/
def pairOf (parts : List String) (value : Value) : Option Pair :=
  parts.getLast?.map (⟨parts.dropLast, ·, value⟩)

/-- A key, an equals sign and a value. -/
def pair (value : Reader Value) : Reader Pair := do
  let parts ← key
  char '='
  blanks
  let v ← value
  (pairOf parts v : Option Pair)

/-- An array between brackets. Line breaks and a comma at the end are allowed. -/
def array (value : Reader Value) : Reader Value := do
  char '['
  let items ← optional do
    let items ← separated1 (char ',') do
      filler
      let v ← value
      filler
      return v
    let _ ← optional (char ',')
    return items
  filler
  char ']'
  return .array (items.getD [])

/-- A table between braces, all on one line. -/
def bracedTable (value : Reader Value) : Reader Value := do
  char '\x7b'
  let pairs ← optional <| separated1 (char ',') do
    let p ← pair value
    blanks
    return p
  blanks
  char '\x7d'
  let entries ← (assignAll [] (pairs.getD []) : Option Entries)
  return .table .braces entries

/-- How deep arrays and tables may be nested. -/
def maxDepth : Nat := 79

/-- **A value** that is nested at most so deep. -/
def value : Nat → Reader Value
  | 0 => scalar
  | depth + 1 => scalar <|> array (value depth) <|> bracedTable (value depth)

/-! ### Statements -/

/-- What one line of a document says. -/
inductive Statement where
  /-- nothing -/
  | empty
  /-- `key = value` -/
  | assignment (p : Pair)
  /-- `[key]` -/
  | table (parts : List String)
  /-- `[[key]]` -/
  | element (parts : List String)

/-- One line of a document. -/
def statement : Reader Statement := do
  blanks
  match ← peek? with
  | none => failure
  | some '#' =>
    endOfLine
    return .empty
  | some '\n' | some '\r' =>
    lineBreak
    return .empty
  | some '[' =>
    let header ← (do
      text ['[', '[']
      let parts ← key
      text [']', ']']
      return .element parts) <|> do
      char '['
      let parts ← key
      char ']'
      return .table parts
    endOfLine
    return header
  | some _ =>
    let p ← pair (value maxDepth)
    endOfLine
    return .assignment p

/-- All lines of a document. -/
def statements : Reader (List Statement) := do
  let _ ← optional (char '\uFEFF')
  let all ← many statement
  blanks
  atEnd
  return all

/-! ### Sections -/

/-- A header, if there is one, and the pairs under it. -/
structure Section where
  header : Statement
  pairs : List Pair

/-- Groups statements into sections, from the last one on. -/
def sections (statements : List Statement) : List Pair × List Section :=
  statements.foldr
    (fun s (pairs, others) =>
      match s with
      | .empty => (pairs, others)
      | .assignment p => (p :: pairs, others)
      | header => ([], ⟨header, pairs⟩ :: others))
    ([], [])

/-- Turns a table over to its own header: it must not be there, or only passed through so far. -/
def openTable (pairs : List Pair) (last : String) (t : Entries) : Option Entries := do
  match t.get? last with
  | none => return t.set last (.table .header (← assignAll [] pairs))
  | some (.table .passing entries) =>
    return t.set last (.table .header (← assignAll entries pairs))
  | some _ => none

/-- Adds a table at the end of an array of tables. -/
def addElement (pairs : List Pair) (last : String) (t : Entries) : Option Entries := do
  match t.get? last with
  | none => return t.set last (.tables [← assignAll [] pairs])
  | some (.tables elements) => return t.set last (.tables (elements ++ [← assignAll [] pairs]))
  | some _ => none

/-- What a section makes of the document. -/
def addSection (t : Entries) (s : Section) : Option Entries :=
  match s.header with
  | .table parts =>
    parts.getLast?.bind fun last =>
      t.descend false (fun _ => openTable s.pairs last) parts.dropLast none
  | .element parts =>
    parts.getLast?.bind fun last =>
      t.descend false (fun _ => addElement s.pairs last) parts.dropLast none
  | _ => none

/-- **Reading a document.** -/
def parse (cs : List Char) : Option Entries := do
  let (all, _) ← statements.run cs
  let (pairs, others) := sections all
  others.foldlM addSection (← assignAll [] pairs)

end PageScan.Toml
