import PageScan.Proofs.Html.Unmatchable

/-!
# Rules that lead to a resource

`RuleSet.unmatchable` reports the rules that can never lead to a resource. It goes by the look of a
rule, and here it is measured against all elements: a rule leads to a resource if some element has
its resource through it, under that rule alone (`Element.SelectsThrough`).

A rule with a category does so for its own `Rule.sample`, whatever names it has. The sample bears
the attribute of the rule twice, first tainted and then clean. HTML looks at the first of a name
only, so that it offers nothing of use even if the attribute is the one it looks for, while the rule
passes over the first and takes the second.

So the report is exact for elements that have a name. An element may also be without one, and then a
rule without an element name fits it: such a rule is reported, and yet it leads to a resource if it
has a category (`mem_unmatchable_iff`).
-/

namespace PageScan.Html

open Text

/-- **Selected through a rule:** under that rule alone the slot is the resource of the element, and
its choice by the rule has been noted. -/
structure Element.SelectsThrough (e : Element) (r : Rule) (s : ResourceSlot) : Prop where
  slot : (e.classify (some [r])).slot? = some s
  noted : .ruleMatched e.name s.attr.name 0 s.category ∈ (e.classify (some [r])).trace

/-- An element for a rule: it has the attribute of the rule twice, first tainted and then clean. -/
def Rule.sample (r : Rule) : Element :=
  ⟨r.elementName, [⟨r.attributeName, .tainted ""⟩, .plain r.attributeName ""]⟩

/-! ### What it takes to be selected through a rule -/

namespace Element

variable {e : Element} {r : Rule} {s : ResourceSlot}

theorem firstRule?_singleton (e : Element) (r : Rule) :
    e.firstRule? [r] = (e.ruleSlot? r).map (0, ·) := by
  rw [firstRule?, List.zipIdx_singleton, List.findSome?_singleton]

/-- The rule alone decides: HTML offers nothing of use, and the rule has a slot with a category. -/
theorem selectsThrough_iff :
    e.SelectsThrough r s ↔
      e.cleanBuiltin? = none ∧ e.ruleSlot? r = some s ∧ s.category.isDefined = true := by
  constructor
  · rintro ⟨hslot, hnoted⟩
    cases hclean : e.cleanBuiltin? with
    | some t =>
      -- nothing is noted when the built-in slot is taken
      rw [classify_of_cleanBuiltin? hclean] at hnoted
      exact absurd hnoted List.not_mem_nil
    | none =>
      rw [slot?_classify, hclean, Option.none_or, Option.getD_some, List.findSome?_singleton,
        Option.filter_eq_some_iff] at hslot
      exact ⟨rfl, hslot⟩
  · rintro ⟨hclean, hrule, hdefined⟩
    have hsound : s.isSound = true := by
      rw [ResourceSlot.isSound, isTainted_ruleSlot? hrule, hdefined]
      rfl
    -- the whole verdict under the rule alone: the slot, and the choice that is noted
    have hverdict : e.classify (some [r]) =
        ⟨some s, [.ruleMatched e.name s.attr.name 0 s.category]⟩ := by
      rw [classify_of_cleanBuiltin?_eq_none hclean, Option.getD_some]
      unfold classifyByRules
      rw [firstRule?_singleton, hrule, Option.map_some]
      dsimp only
      rw [accept, if_pos hsound]
    constructor
    · rw [hverdict]
    · rw [hverdict]
      exact List.mem_singleton_self _

theorem SelectsThrough.category_ne_undefined (h : e.SelectsThrough r s) :
    r.category ≠ .undefined := by
  obtain ⟨-, hrule, hdefined⟩ := selectsThrough_iff.1 h
  obtain ⟨-, -, hcategory, -⟩ := ruleSlot?_eq_some_iff.1 hrule
  -- the slot has its category from the rule
  rw [hcategory] at hdefined
  simpa [Category.isDefined] using hdefined

/-- A rule through which something is selected names the element, if that has a name. -/
theorem SelectsThrough.elementName_ne (h : e.SelectsThrough r s) (hname : e.name ≠ "") :
    r.elementName ≠ "" := by
  obtain ⟨-, hrule, -⟩ := selectsThrough_iff.1 h
  obtain ⟨hm, -⟩ := ruleSlot?_eq_some_iff.1 hrule
  exact hm.elementName_ne hname

end Element

/-! ### The sample of a rule -/

namespace Rule

/-- HTML offers nothing of use for a sample. -/
theorem lacksOffer_sample (r : Rule) : r.sample.LacksOffer := by
  intro name category _ i a hfirst
  -- the two attributes have one name, so that the tainted one is the first of any name
  match i, hfirst.getElem with
  | 0, ha =>
    obtain rfl : ⟨r.attributeName, .tainted ""⟩ = a := Option.some.inj ha
    rfl
  | 1, ha =>
    obtain rfl : Attribute.plain r.attributeName "" = a := Option.some.inj ha
    have hbefore := hfirst.before 0 Nat.one_pos _ rfl
    exact absurd (hbefore.symm.trans hfirst.holds) Bool.false_ne_true

/-- A rule selects the second attribute of its sample. -/
theorem ruleSlot?_sample (r : Rule) :
    r.sample.ruleSlot? r = some ⟨1, .plain r.attributeName "", r.category⟩ := by
  rw [Element.ruleSlot?_eq_some_iff]
  refine ⟨⟨sameName_refl _, sameName_refl _, rfl⟩, rfl, rfl, fun j hj b hb hm => ?_⟩
  -- the only attribute in front is tainted
  obtain rfl : j = 0 := Nat.lt_one_iff.1 hj
  obtain rfl : ⟨r.attributeName, .tainted ""⟩ = b := Option.some.inj hb
  exact Bool.noConfusion (hm.clean : true = false)

/-- **A rule with a category leads to a resource,** whatever names it has. -/
theorem selectsThrough_sample {r : Rule} (h : r.category ≠ .undefined) :
    r.sample.SelectsThrough r ⟨1, .plain r.attributeName "", r.category⟩ := by
  refine Element.selectsThrough_iff.2 ⟨?_, ruleSlot?_sample r, ?_⟩
  · exact Element.cleanBuiltin?_eq_none_iff.2 (lacksOffer_sample r)
  · simpa [Category.isDefined] using h

/-- Among all elements, those without a name included, only the category of a rule counts. -/
theorem exists_selectsThrough_iff (r : Rule) :
    (∃ (e : Element) (s : ResourceSlot), e.SelectsThrough r s) ↔ r.category ≠ .undefined := by
  constructor
  · rintro ⟨e, s, h⟩
    exact h.category_ne_undefined
  · intro h
    exact ⟨_, _, selectsThrough_sample h⟩

/-- Among the elements that have a name, a rule leads to a resource unless it is reported. -/
theorem exists_named_selectsThrough_iff (r : Rule) :
    (∃ (e : Element) (s : ResourceSlot), e.name ≠ "" ∧ e.SelectsThrough r s) ↔
      ¬r.isUnmatchable = true := by
  rw [isUnmatchable_iff, not_or]
  constructor
  · rintro ⟨e, s, hname, h⟩
    exact ⟨h.category_ne_undefined, h.elementName_ne hname⟩
  · rintro ⟨hcategory, hname⟩
    exact ⟨r.sample, _, hname, selectsThrough_sample hcategory⟩

end Rule

/-! ### The report -/

/-- **What is reported:** the rules through which no element with a name has a resource. The report
is wrong about a rule that has a category and no element name: an element without a name has a
resource through it. -/
theorem mem_unmatchable_iff (rs : RuleSet) (r : Rule) :
    (r ∈ rs.unmatchable ↔ r ∈ rs ∧
        ¬∃ (e : Element) (s : ResourceSlot), e.name ≠ "" ∧ e.SelectsThrough r s) ∧
      (r ∈ rs.unmatchable ∧ (∃ (e : Element) (s : ResourceSlot), e.SelectsThrough r s) ↔
        r ∈ rs ∧ r.elementName = "" ∧ r.category ≠ .undefined) := by
  rw [RuleSet.unmatchable, List.mem_filter, Rule.exists_named_selectsThrough_iff, not_not,
    Rule.exists_selectsThrough_iff, and_assoc, Rule.isUnmatchable_iff]
  refine ⟨Iff.rfl, and_congr_right fun _ => ?_⟩
  constructor
  · rintro ⟨hundefined | hname, hcategory⟩
    · exact absurd hundefined hcategory
    · exact ⟨hname, hcategory⟩
  · rintro ⟨hname, hcategory⟩
    exact ⟨.inr hname, hcategory⟩

/-- A rule is reported through which an element has a resource: both are without a name. -/
theorem not_unmatchable_exact :
    ¬∀ (rs : RuleSet) (r : Rule), r ∈ rs →
      (r ∈ rs.unmatchable ↔ ¬∃ (e : Element) (s : ResourceSlot), e.SelectsThrough r s) := by
  intro h
  have hreported := (h [⟨"", "data-src", .image⟩] ⟨"", "data-src", .image⟩
    (List.mem_singleton_self _)).1 (by decide +kernel)
  refine hreported ⟨⟨"", [.plain "data-src" "x.png"]⟩, ⟨0, .plain "data-src" "x.png", .image⟩, ?_⟩
  constructor <;> decide +kernel

end PageScan.Html
