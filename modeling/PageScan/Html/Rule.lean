import PageScan.Html.Category

/-!
# Custom rules

Sites keep addresses in attributes that HTML does not define, such as `data-src` of a `div`. A rule
names an element, one of its attributes, and the category of the resource behind it. Rules are kept
in the order in which they are tried.

Some rules can do nothing: one without a category is refused whenever it applies, and one without
an element name applies to no element that has a name. `Rule.isUnmatchable` picks them out for a
warning.
-/

namespace PageScan.Html

/-- One custom rule. -/
structure Rule where
  elementName : String
  attributeName : String
  category : Category
  deriving DecidableEq, Repr

/-- Rules in the order in which they are tried. -/
abbrev RuleSet := List Rule

/-- Whether a rule can never lead to a resource. -/
def Rule.isUnmatchable (r : Rule) : Bool := !r.category.isDefined || r.elementName.isEmpty

namespace RuleSet

/-- Adds a rule behind the others. -/
def push (rs : RuleSet) (r : Rule) : RuleSet := rs ++ [r]

/-- The rules that can never lead to a resource. -/
def unmatchable (rs : RuleSet) : List Rule := rs.filter (·.isUnmatchable)

end RuleSet

end PageScan.Html
