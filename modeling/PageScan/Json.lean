/-!
# JSON values

The values of the JSON data format. An object keeps its members in order and may hold a key more
than once; `Json.member?` refuses a key that is not there exactly once.
-/

namespace PageScan

/-- A JSON value. A number is a decimal `mantissa · 10 ^ (-exponent)`. -/
inductive Json where
  | null
  | bool (value : Bool)
  | number (mantissa : Int) (exponent : Nat)
  | string (value : String)
  | array (items : List Json)
  | object (members : List (String × Json))
  deriving Repr, Inhabited

namespace Json

/-- The string that a value is. -/
def string? : Json → Option String
  | string s => some s
  | _ => none

/-- The only member with the given key. -/
def member? (members : List (String × Json)) (key : String) : Option Json :=
  match members.filter (·.1 == key) with
  | [(_, v)] => some v
  | _ => none

end Json

end PageScan
