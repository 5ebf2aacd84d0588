import PageScan.Html.Tag

/-!
# Elements

An element is a start tag with its attributes in the order of the document. Of an attribute the
classifier needs the name, the decoded value, and whether decoding failed: an attribute whose value
could not be decoded is *tainted* and keeps its raw value only.

Names are compared without regard to ASCII case, and where a name occurs more than once the first
attribute counts.
-/

namespace PageScan.Html

/-- What a document gives for an attribute besides its name. -/
inductive AttributeValue where
  /-- a name alone, such as `async` -/
  | absent
  /-- a value as it is written and what it means -/
  | decoded (raw meaning : String)
  /-- a value as it is written that means nothing -/
  | tainted (raw : String)
  deriving DecidableEq, Repr

/-- One attribute of an element. -/
structure Attribute where
  name : String
  value : AttributeValue
  deriving DecidableEq, Repr

namespace Attribute

/-- An attribute whose value stands for itself. -/
def plain (name value : String) : Attribute := ⟨name, .decoded value value⟩

/-- The value as it is written. -/
def raw? (a : Attribute) : Option String :=
  match a.value with
  | .absent => none
  | .decoded raw _ => some raw
  | .tainted raw => some raw

/-- The decoded value. -/
def decoded? (a : Attribute) : Option String :=
  match a.value with
  | .decoded _ meaning => some meaning
  | _ => none

/-- Whether decoding the value failed. -/
def isTainted (a : Attribute) : Bool :=
  match a.value with
  | .tainted _ => true
  | _ => false

/-- Whether the attribute has the given name. -/
def hasName (a : Attribute) (name : String) : Bool := Text.sameName a.name name

/-- The attribute as it stands in a start tag: the decoded value, or the raw one for want of it. -/
def render (a : Attribute) : String :=
  match a.decoded? <|> a.raw? with
  | some value => " " ++ a.name ++ "=\"" ++ value ++ "\""
  | none => " " ++ a.name

end Attribute

/-- A start tag. -/
structure Element where
  name : String
  attributes : List Attribute := []
  deriving DecidableEq, Repr

namespace Element

/-- The tag of the element. -/
def tag (e : Element) : Tag := Tag.ofName e.name

/-- The position of the first attribute with the given name. -/
def position? (e : Element) (name : String) : Option Nat :=
  e.attributes.findIdx? (·.hasName name)

/-- The decoded value of the first attribute with the given name. -/
def value? (e : Element) (name : String) : Option String :=
  (e.attributes.find? (·.hasName name)).bind (·.decoded?)

/-- The start tag as text. -/
def render (e : Element) : String :=
  "<" ++ e.name ++ String.join (e.attributes.map (·.render)) ++ ">"

end Element

end PageScan.Html
