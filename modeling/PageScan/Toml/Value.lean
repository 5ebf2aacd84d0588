/-!
# TOML values

The values of the TOML configuration format (version 1.0). A table remembers how it came to be
(`Origin`), as that decides what a document may still add to it; for whoever reads the finished
document all origins are alike.
-/

namespace PageScan.Toml

/-- A decimal number or one of the values that are none. -/
inductive Real where
  /-- `mantissa · 10 ^ exponent` -/
  | decimal (mantissa : Int) (exponent : Int)
  | infinite (negative : Bool)
  | notANumber
  deriving DecidableEq, Repr

/-- How a table came to be. -/
inductive Origin where
  /-- the document itself, or a table with a header of its own -/
  | header
  /-- passed through by the header of a table inside it -/
  | passing
  /-- passed through by a dotted key -/
  | dotted
  /-- written between braces, and complete with them -/
  | braces
  deriving DecidableEq, Repr

/-- A TOML value. -/
inductive Value where
  | string (text : String)
  | integer (value : Int)
  | real (value : Real)
  | boolean (value : Bool)
  /-- a date, a time or both, which nobody looks into -/
  | dateTime (text : String)
  | array (items : List Value)
  | table (origin : Origin) (entries : List (String × Value))
  /-- the tables under one `[[header]]`, in their order -/
  | tables (elements : List (List (String × Value)))
  deriving Repr, Inhabited

/-- The entries of a table. -/
abbrev Entries := List (String × Value)

namespace Entries

/-- The value under a key. -/
def get? (t : Entries) (key : String) : Option Value := t.lookup key

/-- Puts a value under a key: in place of the one that is there, or behind all others. -/
def set (t : Entries) (key : String) (v : Value) : Entries :=
  if t.any (·.1 == key) then t.map fun (k, w) => if k == key then (k, v) else (k, w)
  else t ++ [(key, v)]

end Entries

namespace Value

/-- The text that a value is. -/
def string? : Value → Option String
  | string s => some s
  | _ => none

end Value

end PageScan.Toml
