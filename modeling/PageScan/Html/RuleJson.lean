import PageScan.Html.Rule
import PageScan.Json

/-!
# Rules in JSON

A rule is written as an object with the members `element`, `attribute` and `category`. It is also
read from an array of these three strings in this order, and members with other keys are passed
over. A list of rules is an array; one bad item spoils the list.
-/

namespace PageScan.Html

namespace Category

/-- The category that a value names. -/
def ofJson? (j : Json) : Option Category := j.string?.bind ofName?

/-- The value that names a category. -/
def toJson (c : Category) : Json := .string c.spelling

@[simp] theorem ofJson?_toJson (c : Category) : ofJson? c.toJson = some c := by
  simp [ofJson?, toJson, Json.string?]

end Category

namespace Rule

/-- Reads the three parts of a rule. -/
def ofParts? (elementName attributeName category : Json) : Option Rule := do
  return ⟨← elementName.string?, ← attributeName.string?, ← Category.ofJson? category⟩

/-- **Reading a rule.** -/
def ofJson? : Json → Option Rule
  | .array [elementName, attributeName, category] =>
    ofParts? elementName attributeName category
  | .object members => do
    ofParts? (← Json.member? members "element") (← Json.member? members "attribute")
      (← Json.member? members "category")
  | _ => none

/-- **Writing a rule.** -/
def toJson (r : Rule) : Json :=
  .object [("element", .string r.elementName), ("attribute", .string r.attributeName),
    ("category", r.category.toJson)]

end Rule

namespace RuleSet

/-- **Reading a list of rules.** -/
def ofJson? : Json → Option RuleSet
  | .array items => items.mapM Rule.ofJson?
  | _ => none

/-- **Writing a list of rules.** -/
def toJson (rs : RuleSet) : Json := .array (rs.map (·.toJson))

end RuleSet

end PageScan.Html
