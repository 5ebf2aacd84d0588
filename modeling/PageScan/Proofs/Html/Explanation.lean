import PageScan.Proofs.Html.Precedence

/-!
# The trace explains the result

A classification leaves a trace of what happened on the way to its result, and the trace is written
in two places: where a rule chooses an attribute, and where the last candidate is refused. Here the
two are read together. There are five stories that a classification can tell (`Story`). Each goes
with one trace and one result (`Story.verdict`), and with facts about the element and the rules that
make it true (`Story.Holds`).

Every classification tells exactly one story, and a true one (`existsUnique_story`). That there is
one follows the search: first HTML, then the rules, then what is left of HTML. That there is only
one can be seen from trace and result alone (`Story.verdict_injective`).
-/

namespace PageScan.Html

/-- **What a classification tells:** how it came to its result. -/
inductive Story where
  /-- HTML names the attribute, and it is clean -/
  | fromTable (s : ResourceSlot)
  /-- there is no attribute that could be chosen -/
  | noCandidate
  /-- a rule, by its index, chose the attribute -/
  | fromRule (rule : ℕ) (s : ResourceSlot)
  /-- a rule without a category, by its index, chose the attribute of the given name -/
  | refusedRule (rule : ℕ) (attributeName : String)
  /-- HTML names the attribute of the given name, but it is tainted -/
  | taintedOffer (attributeName : String) (category : Category)

/-- The result and the trace that go with a story about an element of the given name. -/
def Story.verdict (elementName : String) : Story → Verdict
  | fromTable s => ⟨some s, []⟩
  | noCandidate => ⟨none, []⟩
  | fromRule rule s => ⟨some s, [.ruleMatched elementName s.attr.name rule s.category]⟩
  | refusedRule rule attributeName =>
    ⟨none, [.ruleMatched elementName attributeName rule .undefined,
      .rejected elementName attributeName .undefined]⟩
  | taintedOffer attributeName category => ⟨none, [.rejected elementName attributeName category]⟩

/-- Different stories have different results or different traces. -/
theorem Story.verdict_injective (elementName : String) :
    Function.Injective (Story.verdict elementName) := by
  intro a b h
  cases a <;> cases b <;> simp_all [verdict]

namespace Element

variable {e : Element} {s : ResourceSlot} {rs : RuleSet} {k : ℕ}

/-- The rules that have a clean attribute to match, by their indices. -/
def matchingRules (e : Element) (rs : RuleSet) : Set ℕ :=
  {k | ∃ r a, rs[k]? = some r ∧ a ∈ e.attributes ∧ r.Matches e a}

/-- **Chosen by a rule:** the rule is the first that has a match, the attribute is one that it
matches, and the category is that of the rule. -/
structure ChosenByRule (e : Element) (rs : RuleSet) (k : ℕ) (s : ResourceSlot) : Prop where
  isLeast : IsLeast (e.matchingRules rs) k
  getElem : e.attributes[s.position]? = some s.attr
  rule : ∃ r, rs[k]? = some r ∧ r.Matches e s.attr ∧ s.category = r.category

/-- **The built-in candidate:** the first attribute of the name that HTML offers, clean or not. -/
def IsCandidate (e : Element) (s : ResourceSlot) : Prop :=
  ∃ name, e.Offers name s.category ∧ e.IsFirst (·.hasName name) s.position s.attr

end Element

/-- **A true story.** The result and the events are what the element and the rules say. -/
def Story.Holds (e : Element) (rs : RuleSet) : Story → Prop
  | fromTable s => e.IsCandidate s ∧ s.attr.isTainted = false
  | noCandidate => (¬∃ s, e.IsCandidate s) ∧ e.matchingRules rs = ∅
  | fromRule rule s =>
    e.LacksOffer ∧ e.ChosenByRule rs rule s ∧ s.attr.isTainted = false ∧ s.category ≠ .undefined
  | refusedRule rule attributeName =>
    e.LacksOffer ∧ ∃ s, e.ChosenByRule rs rule s ∧ s.attr.name = attributeName ∧
      s.category = .undefined
  | taintedOffer attributeName category =>
    (∃ s, e.IsCandidate s ∧ s.attr.isTainted = true ∧ s.attr.name = attributeName ∧
      s.category = category) ∧ e.matchingRules rs = ∅

namespace Element

variable {e : Element} {s : ResourceSlot} {rs : RuleSet} {k : ℕ}

/-! ### What the search finds -/

/-- The rule that decides has chosen its attribute. -/
theorem chosenByRule_of_firstRule? (h : e.firstRule? rs = some (k, s)) : e.ChosenByRule rs k s := by
  obtain ⟨r, hr, hslot, hbefore⟩ := firstRule?_eq_some_iff_getElem?.1 h
  obtain ⟨hm, hget, hcategory, -⟩ := ruleSlot?_eq_some_iff.1 hslot
  refine ⟨⟨⟨r, s.attr, hr, List.mem_of_getElem? hget, hm⟩, ?_⟩, hget, r, hr, hm, hcategory⟩
  rintro j ⟨r', a, hr', ha, hm'⟩
  -- the rules in front of the chosen one have no slot, and so no match
  by_contra hlt
  have hnone := hbefore j (Nat.lt_of_not_le hlt) r' hr'
  exact ruleSlot?_eq_none_iff.1 hnone a ha hm'

/-- Where no rule decides, none has anything to match. -/
theorem matchingRules_eq_empty (h : e.firstRule? rs = none) : e.matchingRules rs = ∅ := by
  rw [firstRule?_eq_none_iff, List.findSome?_eq_none_iff] at h
  rw [Set.eq_empty_iff_forall_notMem]
  rintro j ⟨r, a, hr, ha, hm⟩
  have hnone := h r (List.mem_of_getElem? hr)
  exact ruleSlot?_eq_none_iff.1 hnone a ha hm

theorem isTainted_of_firstRule? (h : e.firstRule? rs = some (k, s)) :
    s.attr.isTainted = false := by
  obtain ⟨r, -, hslot, -⟩ := firstRule?_eq_some_iff_getElem?.1 h
  exact isTainted_ruleSlot? hslot

/-! ### What the search notes -/

theorem accept_of_isSound (h : s.isSound = true) : e.accept s = ⟨some s, []⟩ := by
  rw [accept, if_pos h]

theorem accept_of_not_isSound (h : s.isSound = false) :
    e.accept s = ⟨none, [.rejected e.name s.attr.name s.category]⟩ := by
  rw [accept, h, if_neg Bool.false_ne_true]

/-- **By the rules:** a story for each end of the search. -/
theorem exists_story_of_rules (h : e.cleanBuiltin? = none) (rs : RuleSet) :
    ∃ story : Story, e.classifyByRules rs e.builtinSlot? = story.verdict e.name ∧
      story.Holds e rs := by
  have hlacks : e.LacksOffer := cleanBuiltin?_eq_none_iff.1 h
  unfold classifyByRules
  cases hrule : e.firstRule? rs with
  | some p =>
    obtain ⟨k, s⟩ := p
    have hchosen := chosenByRule_of_firstRule? hrule
    have hclean := isTainted_of_firstRule? hrule
    -- the chosen attribute is clean, so that its category alone can be against it
    have hsound : s.isSound = s.category.isDefined := by
      rw [ResourceSlot.isSound, hclean, Bool.not_false, Bool.true_and]
    dsimp only
    by_cases hundefined : s.category = .undefined
    · refine ⟨.refusedRule k s.attr.name, ?_, hlacks, s, hchosen, rfl, hundefined⟩
      rw [hundefined] at hsound
      rw [accept_of_not_isSound hsound, hundefined]
      rfl
    · refine ⟨.fromRule k s, ?_, hlacks, hchosen, hclean, hundefined⟩
      have hdefined : s.category.isDefined = true := by simpa [Category.isDefined] using hundefined
      rw [accept_of_isSound (hsound.trans hdefined)]
      rfl
  | none =>
    -- no rule has a say, and what is left is the candidate of HTML
    have hempty := matchingRules_eq_empty hrule
    cases hbuiltin : e.builtinSlot? with
    | some s =>
      have htainted := isTainted_of_cleanBuiltin?_eq_none h hbuiltin
      refine ⟨.taintedOffer s.attr.name s.category, ?_,
        ⟨s, builtinSlot?_eq_some_iff.1 hbuiltin, htainted, rfl, rfl⟩, hempty⟩
      exact accept_of_not_isSound (by rw [ResourceSlot.isSound, htainted]; rfl)
    | none =>
      refine ⟨.noCandidate, rfl, ?_, hempty⟩
      rintro ⟨s, hs⟩
      have hsome := builtinSlot?_eq_some_iff.2 hs
      exact absurd (hbuiltin.symm.trans hsome) (by simp)

end Element

/-- **The trace explains the result.** Every classification tells exactly one story: its result and
its trace are those of the story, and the story is true. -/
theorem existsUnique_story (e : Element) (rules : Option RuleSet) :
    ∃! story : Story, e.classify rules = story.verdict e.name ∧
      story.Holds e (rules.getD []) := by
  obtain ⟨story, hverdict, hholds⟩ : ∃ story : Story,
      e.classify rules = story.verdict e.name ∧ story.Holds e (rules.getD []) := by
    cases hclean : e.cleanBuiltin? with
    | some s =>
      obtain ⟨name, hoffer, hfirst, hnot⟩ := Element.cleanBuiltin?_eq_some_iff.1 hclean
      exact ⟨.fromTable s, Element.classify_of_cleanBuiltin? hclean rules,
        ⟨name, hoffer, hfirst⟩, hnot⟩
    | none =>
      rw [Element.classify_of_cleanBuiltin?_eq_none hclean]
      exact Element.exists_story_of_rules hclean _
  refine ⟨story, ⟨hverdict, hholds⟩, ?_⟩
  -- two stories with one verdict are the same story
  rintro other ⟨hother, -⟩
  exact Story.verdict_injective e.name (hother.symm.trans hverdict)

end PageScan.Html
