import PageScan.Html.Classify
import PageScan.Text.Column
import PageScan.Text.Styled

/-!
# Classifications and rules for the reader
-/

namespace PageScan.Html

open Text

/-- One line on a classification: the attribute and the category of the resource, if there is
one. -/
def describe : Option ResourceSlot → Styled
  | some s => [⟨s.attr.name, [.cyan]⟩, ⟨" ", []⟩, ⟨s.category.spelling, [.green, .bold]⟩]
  | none => [⟨"no match", [.dimmed]⟩]

/-- The line on one rule in a list of rules. -/
def ruleLine (index : Nat) (r : Rule) : Styled :=
  [⟨padLeft 3 (toString index), [.dimmed]⟩, ⟨"  ", []⟩,
    ⟨"<" ++ r.elementName ++ " " ++ r.attributeName ++ ">", [.cyan]⟩, ⟨" ", []⟩,
    ⟨"->", [.dimmed]⟩, ⟨" ", []⟩, ⟨r.category.spelling, [.green]⟩, ⟨"\n", []⟩]

/-- A list of rules, one a line. -/
def rulesText (rs : RuleSet) : Styled :=
  if rs.isEmpty then [⟨"no custom attribute rules configured", [.dimmed]⟩, ⟨"\n", []⟩]
  else rs.zipIdx.flatMap fun (r, i) => ruleLine i r

end PageScan.Html
