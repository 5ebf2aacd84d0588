import PageScan.Proofs.Html.Precedence

/-!
# What a rule does that can lead to nothing

For an element that has a name, a rule without a category leads to no resource, and neither does
one without an element name. They are reported when the rules are loaded (`RuleSet.unmatchable`),
but they stay in the list. A rule without an element name is never chosen for such an element. A
rule without a category is: the search ends at it, and only then is the choice refused.

So such a rule can hide the rules behind it, and `Element.Shadowed` says when it does. The search in
the full list is compared with the one in `RuleSet.matchable` by induction on the list
(`Element.findSome?_ruleSlot?_matchable`): they part at the first rule without a category that is
chosen, and nowhere else.
-/

namespace PageScan.Html

open Text

/-- The rules that are left when the unmatchable ones are taken away. -/
def RuleSet.matchable (rs : RuleSet) : RuleSet := rs.filter (· ∉ rs.unmatchable)

/-- Whether a rule stays does not depend on the others. -/
theorem RuleSet.matchable_eq_filter (rs : RuleSet) :
    rs.matchable = rs.filter (!·.isUnmatchable) := by
  refine List.filter_congr fun r hr => ?_
  have hmem : r ∈ rs.unmatchable ↔ r.isUnmatchable = true := by
    rw [unmatchable, List.mem_filter]
    exact and_iff_right hr
  rw [Bool.eq_iff_iff, decide_eq_true_iff, hmem, Bool.not_eq_true', Bool.not_eq_true]

theorem RuleSet.matchable_cons (r : Rule) (rs : RuleSet) :
    RuleSet.matchable (r :: rs) =
      if r.isUnmatchable then rs.matchable else r :: rs.matchable := by
  rw [matchable_eq_filter, matchable_eq_filter, List.filter_cons]
  cases r.isUnmatchable with
  | true => rfl
  | false => rfl

/-- A name with characters in it is not the same as the empty one. -/
theorem not_sameName_empty {name : String} (h : name ≠ "") : sameName name "" = false := by
  rw [Bool.eq_false_iff, Ne, sameName_iff]
  intro hfold
  -- folding keeps the number of characters
  have hlist : name.toList = [] := List.map_eq_nil_iff.1 hfold
  exact h (String.toList_eq_nil_iff.1 hlist)

/-- What makes a rule unmatchable: that it has no category, or no element name. -/
theorem Rule.isUnmatchable_iff (r : Rule) :
    r.isUnmatchable = true ↔ r.category = .undefined ∨ r.elementName = "" := by
  rw [isUnmatchable, Bool.or_eq_true, String.isEmpty_iff]
  simp [Category.isDefined]

/-- A rule that matches an element with a name has its name. -/
theorem Rule.Matches.elementName_ne {r : Rule} {e : Element} {a : Attribute} (hm : r.Matches e a)
    (hname : e.name ≠ "") : r.elementName ≠ "" := by
  intro hempty
  have hsame := hm.elementName
  rw [hempty, not_sameName_empty hname] at hsame
  exact absurd hsame Bool.false_ne_true

namespace Element

variable {e : Element} {s : ResourceSlot} {rs : RuleSet}

/-- **Hidden by a rule without a category:** HTML offers nothing of use, the rule in the least match
has no category, and one of the rules that would be left has a match as well. -/
structure Shadowed (e : Element) (rs : RuleSet) : Prop where
  lacksOffer : e.LacksOffer
  undefinedFirst : ∃ m r, IsLeast (e.matching rs) m ∧ rs[(ofLex m).1]? = some r ∧
    r.category = .undefined
  matchable : (e.matching rs.matchable).Nonempty

/-! ### What a chosen rule is like -/

/-- Of the unmatchable rules only those without a category are chosen. -/
theorem category_ruleSlot?_of_isUnmatchable (hname : e.name ≠ "") {r : Rule}
    (hr : r.isUnmatchable = true) (hs : e.ruleSlot? r = some s) : s.category = .undefined := by
  obtain ⟨hm, -, hcategory, -⟩ := ruleSlot?_eq_some_iff.1 hs
  rcases r.isUnmatchable_iff.1 hr with hundefined | hempty
  · exact hcategory.trans hundefined
  · exact absurd hempty (hm.elementName_ne hname)

theorem isDefined_ruleSlot? {r : Rule} (hr : r.isUnmatchable = false)
    (hs : e.ruleSlot? r = some s) : s.category.isDefined = true := by
  obtain ⟨-, -, hcategory, -⟩ := ruleSlot?_eq_some_iff.1 hs
  rw [Rule.isUnmatchable, Bool.or_eq_false_iff, Bool.not_eq_false'] at hr
  rw [hcategory]
  exact hr.1

/-! ### The two searches -/

/-- **The full list and the matchable rules** give the same slot, unless the full list gives one
without a category. -/
theorem findSome?_ruleSlot?_matchable (hname : e.name ≠ "") (rs : RuleSet) :
    (∃ s, rs.findSome? e.ruleSlot? = some s ∧ s.category = .undefined) ∨
      rs.findSome? e.ruleSlot? = rs.matchable.findSome? e.ruleSlot? := by
  induction rs with
  | nil => exact .inr rfl
  | cons r rs ih =>
    rw [RuleSet.matchable_cons]
    cases hs : e.ruleSlot? r with
    | none =>
      -- the head is passed over, be it left out or not
      rw [List.findSome?_cons_of_isNone (by rw [hs]; rfl)]
      split
      · exact ih
      · rw [List.findSome?_cons_of_isNone (by rw [hs]; rfl)]
        exact ih
    | some s =>
      rw [List.findSome?_cons_of_isSome (by rw [hs]; rfl), hs]
      -- the full list stops at the head; if the head was taken away, it has no category
      cases hr : r.isUnmatchable with
      | true => exact .inl ⟨s, rfl, category_ruleSlot?_of_isUnmatchable hname hr hs⟩
      | false =>
        right
        rw [if_neg Bool.false_ne_true, List.findSome?_cons_of_isSome (by rw [hs]; rfl), hs]

/-- What the matchable rules give has a category, so that it is not refused. -/
theorem filter_findSome?_matchable (e : Element) (rs : RuleSet) :
    (rs.matchable.findSome? e.ruleSlot?).filter (·.category.isDefined) =
      rs.matchable.findSome? e.ruleSlot? := by
  cases hfound : rs.matchable.findSome? e.ruleSlot? with
  | none => rfl
  | some s =>
    obtain ⟨r, hr, hs⟩ := List.exists_of_findSome?_eq_some hfound
    rw [RuleSet.matchable_eq_filter, List.mem_filter, Bool.not_eq_true'] at hr
    -- it was given by a rule that was left, and such a rule has a category
    rw [Option.filter_some, if_pos (isDefined_ruleSlot? hr.2 hs)]

/-- The search ends at a rule without a category if and only if the least match is one of such a
rule. -/
theorem exists_undefined_iff :
    (∃ s, rs.findSome? e.ruleSlot? = some s ∧ s.category = .undefined) ↔
      ∃ m r, IsLeast (e.matching rs) m ∧ rs[(ofLex m).1]? = some r ∧ r.category = .undefined := by
  simp only [findSome?_ruleSlot?_eq_some_iff, firstRule?_eq_some_iff]
  constructor
  · rintro ⟨s, ⟨k, hleast, -, r, hr, hcategory⟩, hundefined⟩
    exact ⟨toLex (k, s.position), r, hleast, hr, hcategory.symm.trans hundefined⟩
  · rintro ⟨m, r, hleast, hr, hundefined⟩
    -- the least match tells the slot: its position, the attribute there, and the category
    obtain ⟨-, a, -, ha, -⟩ := hleast.1
    exact ⟨⟨(ofLex m).2, a, .undefined⟩, ⟨(ofLex m).1, hleast, ha, r, hr, hundefined.symm⟩, rfl⟩

/-- What is hidden, said of the two searches. -/
theorem shadowed_iff :
    e.Shadowed rs ↔
      e.cleanBuiltin? = none ∧
        (∃ s, rs.findSome? e.ruleSlot? = some s ∧ s.category = .undefined) ∧
          rs.matchable.findSome? e.ruleSlot? ≠ none := by
  rw [cleanBuiltin?_eq_none_iff, exists_undefined_iff, Ne, findSome?_ruleSlot?_eq_none_iff,
    ← Ne, ← Set.nonempty_iff_ne_empty]
  exact ⟨fun h => ⟨h.1, h.2, h.3⟩, fun h => ⟨h.1, h.2.1, h.2.2⟩⟩

end Element

/-- **Taking the unmatchable rules away** changes the resource of an element with a name if and only
if a rule without a category hides another. Then the element refers to nothing under the full list,
and to something under the rest of it. -/
theorem classify_matchable {e : Element} (hname : e.name ≠ "") (rs : RuleSet) :
    (e.Shadowed rs →
        (e.classify (some rs)).slot? = none ∧ (e.classify (some rs.matchable)).slot? ≠ none) ∧
      (¬e.Shadowed rs →
        (e.classify (some rs)).slot? = (e.classify (some rs.matchable)).slot?) := by
  rw [Element.slot?_classify, Element.slot?_classify, Option.getD_some, Option.getD_some,
    Element.filter_findSome?_matchable, Element.shadowed_iff]
  constructor
  · -- the full list finds the rule without a category, which is refused
    rintro ⟨hclean, ⟨s, hs, hundefined⟩, hmatchable⟩
    rw [hclean, Option.none_or, Option.none_or]
    refine ⟨?_, hmatchable⟩
    rw [hs, Option.filter_some, hundefined]
    rfl
  · intro hshadowed
    cases hclean : e.cleanBuiltin? with
    | some s => rfl
    | none =>
      rw [Option.none_or, Option.none_or]
      rcases Element.findSome?_ruleSlot?_matchable hname rs with ⟨s, hs, hundefined⟩ | hsame
      · -- nothing is hidden, so that the rest of the list finds nothing either
        have hnone : rs.matchable.findSome? e.ruleSlot? = none := by
          by_contra hmatchable
          exact hshadowed ⟨hclean, ⟨s, hs, hundefined⟩, hmatchable⟩
        rw [hnone, hs, Option.filter_some, hundefined]
        rfl
      · rw [hsame, Element.filter_findSome?_matchable]

/-- A rule for images behind one without a category that names the same attribute. -/
theorem image_hidden_by_undefined :
    let e : Element := ⟨"div", [.plain "data-src" "x.png"]⟩
    let rs : RuleSet := [⟨"div", "data-src", .undefined⟩, ⟨"div", "data-src", .image⟩]
    e.name ≠ "" ∧ e.Shadowed rs ∧
      (e.classify (some rs)).slot? = none ∧ (e.classify (some rs.matchable)).slot? ≠ none := by
  intro e rs
  have hname : e.name ≠ "" := by decide
  have hfirst : rs.findSome? e.ruleSlot? = some ⟨0, .plain "data-src" "x.png", .undefined⟩ := by
    decide +kernel
  have hshadowed : e.Shadowed rs :=
    Element.shadowed_iff.2 ⟨by decide +kernel, ⟨_, hfirst, rfl⟩, by decide +kernel⟩
  exact ⟨hname, hshadowed, (classify_matchable hname rs).1 hshadowed⟩

/-- An unmatchable rule is not without effect: it can hide the only rule that leads to a
resource. -/
theorem not_classify_matchable :
    ¬∀ (e : Element) (rs : RuleSet), e.name ≠ "" →
      (e.classify (some rs)).slot?.map (fun s => (s.position, s.category)) =
        (e.classify (some rs.matchable)).slot?.map (fun s => (s.position, s.category)) := by
  intro h
  have hsame := h ⟨"div", [.plain "data-src" "x.png"]⟩
    [⟨"div", "data-src", .undefined⟩, ⟨"div", "data-src", .image⟩] (by decide)
  exact absurd hsame (by decide +kernel)

end PageScan.Html
