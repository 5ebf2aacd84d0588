import PageScan.Proofs.Html.Selection

/-!
# Who is selected first

Many attributes of an element may compete: those that HTML offers, and those that rules name, some
of them more than once and some of them tainted. `Element.Selects` says which one wins. The
attribute that HTML offers comes first, if the first of its name is clean; only when it is not do
the rules count. Of these the least match wins, and when its category is undefined nobody does.

`classify_selects` is the statement for all elements and all rules. Either way of being selected
comes from one half of `Element.slot?_classify`.
-/

namespace PageScan.Html

namespace Element

variable {e : Element} {s : ResourceSlot} {rs : RuleSet}

/-- **Selected by HTML:** the first attribute of the name that the element offers, and it is
clean. -/
def SelectsOffer (e : Element) (s : ResourceSlot) : Prop :=
  ∃ name, e.Offers name s.category ∧ e.IsFirst (·.hasName name) s.position s.attr ∧
    s.attr.isTainted = false

/-- What HTML offers is of no use: the attribute is missing, or the first of its name is tainted. -/
def LacksOffer (e : Element) : Prop :=
  ∀ name category, e.Offers name category →
    ∀ i a, e.IsFirst (·.hasName name) i a → a.isTainted = true

/-- **Selected by a rule:** the attribute in the least match of a rule and an attribute, with the
category of that rule, which is defined. -/
def SelectsRule (e : Element) (rs : RuleSet) (s : ResourceSlot) : Prop :=
  e.attributes[s.position]? = some s.attr ∧
    ∃ k r, IsLeast (e.matching rs) (toLex (k, s.position)) ∧ rs[k]? = some r ∧
      s.category = r.category ∧ r.category ≠ .undefined

/-- **Selected:** by HTML, or by a rule where HTML offers nothing of use. -/
def Selects (e : Element) (rules : Option RuleSet) (s : ResourceSlot) : Prop :=
  e.SelectsOffer s ∨ e.LacksOffer ∧ ∃ rs ∈ rules, e.SelectsRule rs s

/-! ### The two halves of the search -/

/-- The first half finds what HTML selects. -/
theorem cleanBuiltin?_eq_some_iff : e.cleanBuiltin? = some s ↔ e.SelectsOffer s := by
  rw [cleanBuiltin?, Option.filter_eq_some_iff, builtinSlot?_eq_some_iff, Bool.not_eq_true']
  constructor
  · rintro ⟨⟨name, hoffer, hfirst⟩, hclean⟩
    exact ⟨name, hoffer, hfirst, hclean⟩
  · rintro ⟨name, hoffer, hfirst, hclean⟩
    exact ⟨⟨name, hoffer, hfirst⟩, hclean⟩

/-- The first half finds nothing where what HTML offers is of no use. -/
theorem cleanBuiltin?_eq_none_iff : e.cleanBuiltin? = none ↔ e.LacksOffer := by
  constructor
  · intro hnone name category hoffer i a hfirst
    by_contra hclean
    -- a clean one would have been found
    have hselects : e.SelectsOffer ⟨i, a, category⟩ :=
      ⟨name, hoffer, hfirst, Bool.eq_false_iff.2 hclean⟩
    rw [cleanBuiltin?_eq_some_iff.2 hselects] at hnone
    exact absurd hnone (by simp)
  · intro hlacks
    -- what is found is offered and clean, against the hypothesis
    cases hs : e.cleanBuiltin? with
    | none => rfl
    | some s =>
      obtain ⟨name, hoffer, hfirst, hclean⟩ := cleanBuiltin?_eq_some_iff.1 hs
      exact absurd ((hlacks name _ hoffer _ _ hfirst).symm.trans hclean) (by simp)

/-- The second half finds what a rule selects. -/
theorem filter_findSome?_eq_some_iff :
    (rs.findSome? e.ruleSlot?).filter (·.category.isDefined) = some s ↔ e.SelectsRule rs s := by
  simp only [Option.filter_eq_some_iff, findSome?_ruleSlot?_eq_some_iff, firstRule?_eq_some_iff,
    Category.isDefined, bne_iff_ne]
  constructor
  · rintro ⟨⟨k, hleast, hget, r, hr, hcategory⟩, hdefined⟩
    exact ⟨hget, k, r, hleast, hr, hcategory, hcategory ▸ hdefined⟩
  · rintro ⟨hget, k, r, hleast, hr, hcategory, hdefined⟩
    exact ⟨⟨k, hleast, hget, r, hr, hcategory⟩, hcategory ▸ hdefined⟩

/-- What HTML selects is a clean attribute of the element, and has a category. -/
theorem SelectsOffer.sound (h : e.SelectsOffer s) :
    e.attributes[s.position]? = some s.attr ∧ s.attr.isTainted = false ∧
      s.category ≠ .undefined := by
  obtain ⟨name, hoffer, hfirst, hclean⟩ := h
  exact ⟨hfirst.getElem, hclean, hoffer.category_ne_undefined⟩

theorem SelectsRule.sound (h : e.SelectsRule rs s) :
    e.attributes[s.position]? = some s.attr ∧ s.attr.isTainted = false ∧
      s.category ≠ .undefined := by
  obtain ⟨hget, k, r, ⟨⟨r', a, hr', ha, hm⟩, -⟩, -, hcategory, hdefined⟩ := h
  obtain rfl : a = s.attr := Option.some.inj (ha.symm.trans hget)
  exact ⟨hget, hm.clean, hcategory ▸ hdefined⟩

/-- What a classification finds is an attribute of the element, it is clean, and its category is
defined. -/
theorem sound_of_slot?_classify {rules : Option RuleSet} (h : (e.classify rules).slot? = some s) :
    e.attributes[s.position]? = some s.attr ∧ s.attr.isTainted = false ∧
      s.category ≠ .undefined := by
  rw [slot?_classify, Option.or_eq_some_iff, cleanBuiltin?_eq_some_iff,
    filter_findSome?_eq_some_iff] at h
  rcases h with hoffer | ⟨-, hrule⟩
  · exact hoffer.sound
  · exact hrule.sound

end Element

/-- **Classification selects by precedence.** What is found is what is selected, and nothing is
found where nothing is selected. It is an attribute of the element, it is clean, and its category is
defined. -/
theorem classify_selects (e : Element) (rules : Option RuleSet) :
    (∀ s, (e.classify rules).slot? = some s ↔ e.Selects rules s) ∧
      ((¬∃ s, e.Selects rules s) → (e.classify rules).slot? = none) ∧
      ∀ s, (e.classify rules).slot? = some s →
        e.attributes[s.position]? = some s.attr ∧ s.attr.isTainted = false ∧
          s.category ≠ .undefined := by
  have hselects (s : ResourceSlot) : (e.classify rules).slot? = some s ↔ e.Selects rules s := by
    rw [Element.slot?_classify, Option.or_eq_some_iff, Element.cleanBuiltin?_eq_some_iff,
      Element.cleanBuiltin?_eq_none_iff, Element.filter_findSome?_eq_some_iff, Element.Selects]
    refine or_congr_right (and_congr_right fun _ => ?_)
    cases rules with
    | some rs => simp
    | none =>
      -- without rules there is no match
      constructor
      · rintro ⟨-, k, r, -, hr, -⟩
        exact absurd hr (by simp)
      · rintro ⟨rs, hrs, -⟩
        exact absurd hrs (by simp)
  refine ⟨hselects, ?_, ?_⟩
  · intro hnone
    cases hs : (e.classify rules).slot? with
    | none => rfl
    | some s => exact absurd ⟨s, (hselects s).1 hs⟩ hnone
  · intro s hs
    rcases (hselects s).1 hs with hoffer | ⟨-, rs, -, hrule⟩
    · exact hoffer.sound
    · exact hrule.sound

/-- An image whose first `src` is tainted, and whose second one a rule names: the rule selects it,
and the built-in table does not. -/
theorem selects_second_source :
    let e : Element := ⟨"img", [⟨"src", .tainted "%"⟩, .plain "SRC" "a.css"]⟩
    let rules : Option RuleSet :=
      some [⟨"img", "data-src", .image⟩, ⟨"IMG", "src", .stylesheet⟩, ⟨"img", "src", .script⟩]
    (e.classify rules).slot? = some ⟨1, .plain "SRC" "a.css", .stylesheet⟩ ∧
      e.attributes[1]? = some (.plain "SRC" "a.css") ∧
      (Attribute.plain "SRC" "a.css").isTainted = false ∧ Category.stylesheet ≠ .undefined := by
  intro e rules
  have hslot : (e.classify rules).slot? = some ⟨1, .plain "SRC" "a.css", .stylesheet⟩ := by
    decide +kernel
  exact ⟨hslot, (classify_selects e rules).2.2 _ hslot⟩

end PageScan.Html
