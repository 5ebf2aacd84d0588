import PageScan.Html.Element
import PageScan.Html.LinkRel
import PageScan.Html.Rule

/-!
# The resource of an element

Each element refers to at most one resource through an attribute. HTML itself says which attribute
that is for a tag and of what category (`Element.builtin?`). When the element lacks that attribute,
or its value is tainted, the custom rules are tried: the first rule that applies counts, and within
it the first untainted attribute (`Element.firstRule?`). The candidate so found must then be
untainted and have a category, or the element refers to nothing.

`classify` gives the resource, if there is one, and a trace of what happened on the way.
-/

namespace PageScan.Html

open Text

/-- An attribute of an element, by position, with the category of what it refers to. -/
structure ResourceSlot where
  position : Nat
  attr : Attribute
  category : Category
  deriving DecidableEq, Repr

/-- Whether the attribute decoded and the category is one. -/
def ResourceSlot.isSound (s : ResourceSlot) : Bool :=
  !s.attr.isTainted && s.category.isDefined

/-- A noteworthy event of a classification. -/
inductive Trace where
  /-- a rule, by its index, chose an attribute -/
  | ruleMatched (elementName attributeName : String) (rule : Nat) (category : Category)
  /-- the chosen attribute is tainted or has no category -/
  | rejected (elementName attributeName : String) (category : Category)
  deriving DecidableEq, Repr

/-- What a classification comes to. -/
structure Verdict where
  slot? : Option ResourceSlot
  trace : List Trace
  deriving DecidableEq, Repr

namespace Element

/-- The first attribute with a property, as the slot of a resource. -/
def slot? (e : Element) (p : Attribute → Bool) (category : Category) : Option ResourceSlot :=
  (e.attributes.findIdx? p).bind fun i => e.attributes[i]?.map (⟨i, ·, category⟩)

/-- **What HTML says:** the attribute through which an element refers to a resource, and the
category of the resource. -/
def builtin? (e : Element) : Option (String × Category) :=
  match e.tag with
  | .link => some ("href", linkCategory (e.value? "rel"))
  | .script => some ("src", .script)
  | .img => some ("src", .image)
  | .body | .td | .th | .table | .tbody | .tfoot | .thead => some ("background", .image)
  | .input => if (e.value? "type").any (sameName · "image") then some ("src", .image) else none
  | .command => some ("icon", .image)
  | .a | .area => some ("href", .hyperlink)
  | .form => some ("action", .hyperlink)
  | .audio | .video | .source | .track | .embed | .frame | .iframe => some ("src", .otherResource)
  | .html => some ("manifest", .otherResource)
  | .blockquote | .q | .ins | .del => some ("cite", .hyperlink)
  | .button => some ("formaction", .hyperlink)
  | .other => none

/-- The slot that HTML names, if the element has the attribute. -/
def builtinSlot? (e : Element) : Option ResourceSlot :=
  e.builtin?.bind fun (name, category) => e.slot? (·.hasName name) category

/-- The slot that one rule chooses. -/
def ruleSlot? (e : Element) (r : Rule) : Option ResourceSlot :=
  if sameName e.name r.elementName then
    e.slot? (fun a => a.hasName r.attributeName && !a.isTainted) r.category
  else none

/-- **The first rule that applies,** by its index, and the slot that it chooses. -/
def firstRule? (e : Element) (rs : RuleSet) : Option (Nat × ResourceSlot) :=
  rs.zipIdx.findSome? fun (r, i) => (e.ruleSlot? r).map (i, ·)

/-- The last test on the way: a candidate that is not sound is rejected. -/
def accept (e : Element) (s : ResourceSlot) : Verdict :=
  if s.isSound then ⟨some s, []⟩
  else ⟨none, [.rejected e.name s.attr.name s.category]⟩

/-- Tries the rules; without one that applies the built-in candidate, if there is one, stays. -/
def classifyByRules (e : Element) (rs : RuleSet) (candidate : Option ResourceSlot) : Verdict :=
  match e.firstRule? rs with
  | some (i, s) =>
    let v := e.accept s
    { v with trace := .ruleMatched e.name s.attr.name i s.category :: v.trace }
  | none =>
    match candidate with
    | some s => e.accept s
    | none => ⟨none, []⟩

/-- **The resource of an element** under the given rules, if there are any. -/
def classify (e : Element) (rules : Option RuleSet) : Verdict :=
  match e.builtinSlot? with
  | some s =>
    if s.attr.isTainted then e.classifyByRules (rules.getD []) (some s) else e.accept s
  | none => e.classifyByRules (rules.getD []) none

end Element

end PageScan.Html
