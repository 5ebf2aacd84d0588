import PageScan.Proofs.Html.Precedence

/-!
# Rules behind other rules

A list of rules may be put together from several. The rules of the second list are tried only where
nothing is settled before (`Element.Settled`): HTML offers nothing of use, and no rule of the first
list has a match. A match settles the matter even if its rule has no category, so that it does not
suffice to look at what the first list gives.

`Element.firstRule?_append` says this of the search, and from it the whole verdict under the joined
list is known, with all that is noted on the way: it is the verdict under the first list
(`classify_append_of_settled`), or the one under the second with its rules counted from further on
(`classify_append_of_not_settled`). `classify_append` draws the conclusions for the resource. A rule
that repeats the names of an earlier one can be left out, as wherever it has a match the earlier one
has the same.
-/

namespace PageScan.Html

open Text

/-- The same event when other rules stand in front. -/
def Trace.behind (count : Nat) : Trace → Trace
  | .ruleMatched elementName attributeName rule category =>
    .ruleMatched elementName attributeName (rule + count) category
  | .rejected elementName attributeName category => .rejected elementName attributeName category

/-- The same verdict when other rules stand in front. -/
def Verdict.behind (count : Nat) (v : Verdict) : Verdict :=
  { v with trace := v.trace.map (·.behind count) }

@[simp] theorem Verdict.slot?_behind (count : Nat) (v : Verdict) :
    (v.behind count).slot? = v.slot? := rfl

namespace Element

variable {e : Element} {rs : RuleSet}

/-- **Settled:** HTML offers something of use, or one of the rules has a match. -/
def Settled (e : Element) (rs : RuleSet) : Prop :=
  (∃ s, e.SelectsOffer s) ∨ ∃ r ∈ rs, ∃ a ∈ e.attributes, r.Matches e a

/-! ### Two lists of rules -/

/-- Nothing is settled where both searches find nothing. -/
theorem not_settled_iff :
    ¬e.Settled rs ↔ e.cleanBuiltin? = none ∧ rs.findSome? e.ruleSlot? = none := by
  rw [Settled, not_or, Option.eq_none_iff_forall_ne_some, List.findSome?_eq_none_iff, not_exists]
  refine and_congr (forall_congr' fun s => not_congr cleanBuiltin?_eq_some_iff.symm) ?_
  simp only [ruleSlot?_eq_none_iff, not_exists, not_and]

/-- **The second list is searched behind the first.** -/
theorem firstRule?_append (e : Element) (rs rs' : RuleSet) :
    e.firstRule? (rs ++ rs') =
      (e.firstRule? rs).or ((e.firstRule? rs').map fun p => (p.1 + rs.length, p.2)) := by
  -- the rules of the second list are numbered from the length of the first one on
  have hbehind : rs'.zipIdx (0 + rs.length) = rs'.zipIdx.map (Prod.map id (· + rs.length)) := by
    rw [Nat.add_comm]
    exact (List.map_snd_add_zipIdx_eq_zipIdx ..).symm
  rw [firstRule?, List.zipIdx_append, List.findSome?_append, hbehind, List.findSome?_map,
    firstRule?, firstRule?, List.map_findSome?]
  congr 2
  funext p
  simp [Function.comp_def]

theorem accept_behind (e : Element) (s : ResourceSlot) (count : Nat) :
    (e.accept s).behind count = e.accept s := by
  unfold accept
  split <;> rfl

/-- What is settled by the first list stays as it is. -/
theorem classify_append_of_settled (h : e.Settled rs) (rs' : RuleSet) :
    e.classify (some (rs ++ rs')) = e.classify (some rs) := by
  cases hclean : e.cleanBuiltin? with
  | some s => rw [classify_of_cleanBuiltin? hclean, classify_of_cleanBuiltin? hclean]
  | none =>
    -- it is a rule of the first list that settles the matter
    have hfirst : e.firstRule? rs ≠ none := by
      rw [Ne, firstRule?_eq_none_iff]
      exact fun hnone => not_settled_iff.2 ⟨hclean, hnone⟩ h
    obtain ⟨p, hp⟩ := Option.ne_none_iff_exists'.1 hfirst
    rw [classify_of_cleanBuiltin?_eq_none hclean, classify_of_cleanBuiltin?_eq_none hclean]
    unfold classifyByRules
    rw [Option.getD_some, Option.getD_some, firstRule?_append, hp, Option.some_or]

/-- What is not settled by the first list is left to the second. -/
theorem classify_append_of_not_settled (h : ¬e.Settled rs) (rs' : RuleSet) :
    e.classify (some (rs ++ rs')) = (e.classify (some rs')).behind rs.length := by
  obtain ⟨hclean, hnone⟩ := not_settled_iff.1 h
  rw [classify_of_cleanBuiltin?_eq_none hclean, classify_of_cleanBuiltin?_eq_none hclean]
  unfold classifyByRules
  rw [Option.getD_some, Option.getD_some, firstRule?_append, firstRule?_eq_none_iff.2 hnone,
    Option.none_or]
  cases e.firstRule? rs' with
  | some p =>
    -- the event of the match is moved, and what the last test notes has no index
    have htrace := congrArg Verdict.trace (accept_behind e p.2 rs.length)
    simp only [Option.map_some, Verdict.behind, List.map_cons, Trace.behind] at htrace ⊢
    rw [htrace]
  | none =>
    cases e.builtinSlot? with
    | some s => exact (accept_behind e s rs.length).symm
    | none => rfl

/-! ### Rules that repeat others -/

/-- A rule with the names of another one has no slot where that one has none. -/
theorem ruleSlot?_eq_none_of_sameName {r q : Rule}
    (helement : sameName r.elementName q.elementName = true)
    (hattribute : sameName r.attributeName q.attributeName = true) (h : e.ruleSlot? r = none) :
    e.ruleSlot? q = none := by
  rw [ruleSlot?_eq_none_iff] at *
  intro a ha hm
  refine h a ha ⟨sameName_trans hm.elementName ?_, sameName_trans hm.attributeName ?_, hm.clean⟩
  · rwa [sameName_comm]
  · rwa [sameName_comm]

/-- **A repeated rule** anywhere behind the first one does not change what the rules select. -/
theorem findSome?_ruleSlot?_repeated {r q : Rule}
    (helement : sameName r.elementName q.elementName = true)
    (hattribute : sameName r.attributeName q.attributeName = true) (front mid back : RuleSet) :
    (front ++ r :: (mid ++ q :: back)).findSome? e.ruleSlot? =
      (front ++ r :: (mid ++ back)).findSome? e.ruleSlot? := by
  rw [List.findSome?_append, List.findSome?_append, List.findSome?_cons, List.findSome?_cons]
  cases hr : e.ruleSlot? r with
  | some s => rfl
  -- the earlier rule is passed over, and the repetition with it
  | none =>
    have hq := ruleSlot?_eq_none_of_sameName helement hattribute hr
    rw [List.findSome?_append, List.findSome?_append, List.findSome?_cons, hq]

end Element

/-- **Rule lists compose.** What is settled by the first list stays as it is, and all else is left
to the second; so a resource that was found is not lost to rules that are added. No rules are the
same as an empty list of them, and a rule whose names an earlier rule has can be left out. -/
theorem classify_append (e : Element) (rs rs' : RuleSet) :
    (e.Settled rs → e.classify (some (rs ++ rs')) = e.classify (some rs)) ∧
      (¬e.Settled rs → (e.classify (some (rs ++ rs'))).slot? = (e.classify (some rs')).slot?) ∧
      (∀ s, (e.classify (some rs)).slot? = some s →
        (e.classify (some (rs ++ rs'))).slot? = some s) ∧
      e.classify none = e.classify (some []) ∧
      ∀ (r q : Rule) (front mid back : RuleSet),
        sameName r.elementName q.elementName = true →
        sameName r.attributeName q.attributeName = true →
          (e.classify (some (front ++ r :: (mid ++ q :: back)))).slot? =
            (e.classify (some (front ++ r :: (mid ++ back)))).slot? := by
  refine ⟨fun h => Element.classify_append_of_settled h rs', fun h => ?_, fun s hs => ?_, rfl,
    fun r q front mid back helement hattribute => ?_⟩
  · rw [Element.classify_append_of_not_settled h, Verdict.slot?_behind]
  · -- where a resource was found, something was settled
    have hsettled : e.Settled rs := by
      by_contra hnot
      obtain ⟨hclean, hnone⟩ := Element.not_settled_iff.1 hnot
      rw [Element.slot?_classify, hclean, Option.getD_some, hnone] at hs
      exact absurd hs (by simp)
    rw [Element.classify_append_of_settled hsettled, hs]
  · rw [Element.slot?_classify, Element.slot?_classify, Option.getD_some, Option.getD_some,
      Element.findSome?_ruleSlot?_repeated helement hattribute]

/-- A rule without a category in front of one for images, behind it, and in front of a repetition of
it; and a rule for another element in front. -/
theorem classify_append_undefined :
    let e : Element := ⟨"div", [.plain "data-src" "x.png"]⟩
    let nothing : Rule := ⟨"div", "data-src", .undefined⟩
    let image : Rule := ⟨"DIV", "Data-Src", .image⟩
    let span : Rule := ⟨"span", "data-src", .script⟩
    let s : ResourceSlot := ⟨0, .plain "data-src" "x.png", .image⟩
    e.Settled [nothing] ∧
      e.classify (some ([nothing] ++ [image])) = e.classify (some [nothing]) ∧
      ¬e.Settled [span] ∧
      (e.classify (some ([span] ++ [image]))).slot? = (e.classify (some [image])).slot? ∧
      (e.classify (some [image])).slot? = some s ∧
      (e.classify (some ([image] ++ [nothing]))).slot? = some s ∧
      sameName nothing.elementName image.elementName = true ∧
      sameName nothing.attributeName image.attributeName = true ∧
      (e.classify (some ([] ++ nothing :: ([span] ++ image :: [])))).slot? =
        (e.classify (some ([] ++ nothing :: ([span] ++ [])))).slot? := by
  intro e nothing image span s
  have hmatch : nothing.Matches e (.plain "data-src" "x.png") := by
    constructor <;> decide +kernel
  have hsettled : e.Settled [nothing] :=
    .inr ⟨nothing, List.mem_singleton_self _, _, List.mem_singleton_self _, hmatch⟩
  -- a rule for another element settles nothing
  have hspan : ¬e.Settled [span] :=
    Element.not_settled_iff.2 ⟨by decide +kernel, by decide +kernel⟩
  have himage : (e.classify (some [image])).slot? = some s := by decide +kernel
  have helement : sameName nothing.elementName image.elementName = true := by decide +kernel
  have hattribute : sameName nothing.attributeName image.attributeName = true := by decide +kernel
  exact ⟨hsettled, (classify_append e [nothing] [image]).1 hsettled, hspan,
    (classify_append e [span] [image]).2.1 hspan, himage,
    (classify_append e [image] [nothing]).2.2.1 s himage, helement, hattribute,
    (classify_append e [] []).2.2.2.2 nothing image [] [span] [] helement hattribute⟩

end PageScan.Html
