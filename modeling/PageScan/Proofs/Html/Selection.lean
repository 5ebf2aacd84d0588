import PageScan.Html.Classify
import Mathlib.Data.Prod.Lex
import Mathlib.Order.Bounds.Basic

/-!
# What an element may be selected by

A classification looks for an attribute in two places: in the table of HTML, and in the rules. Here
both are said without the search. `Element.Offers` is the table; `Rule.Matches` relates a rule to an
attribute of an element. Where several attributes would do, the search takes the first:
`Element.IsFirst` for the attributes of an element, and the least pair of a rule and an attribute
(`Element.matching`) for a list of rules.

* `Element.builtin?_eq_some_iff` and `Element.findSome?_ruleSlot?_eq_some_iff` relate the two
  searches to this.
* `Element.classify_of_cleanBuiltin?` and `Element.classify_of_cleanBuiltin?_eq_none` are the only
  places where the classification itself is opened. From them `Element.slot?_classify` has its
  result: the built-in slot when that is clean, and otherwise what the rules find, unless it has no
  category.
-/

namespace PageScan.Html

open Text

/-- Where a search ends: at the first item that has a result. -/
theorem findSome?_eq_some_iff_getElem? {α β : Type} {f : α → Option β} {l : List α} {b : β} :
    l.findSome? f = some b ↔
      ∃ (i : Nat) (a : α), l[i]? = some a ∧ f a = some b ∧
        ∀ j < i, ∀ a', l[j]? = some a' → f a' = none := by
  induction l with
  | nil => simp
  | cons x l ih =>
    cases hx : f x with
    | some c =>
      rw [List.findSome?_cons_of_isSome (by simp [hx]), hx]
      constructor
      · intro hc
        exact ⟨0, x, rfl, hx.trans hc, fun j hj => absurd hj (Nat.not_lt_zero j)⟩
      · rintro ⟨i, a, ha, hb, hbefore⟩
        -- behind the head nothing can be the first
        cases i with
        | zero =>
          obtain rfl : x = a := Option.some.inj ha
          exact hx.symm.trans hb
        | succ i => exact absurd (hx.symm.trans (hbefore 0 (Nat.zero_lt_succ i) x rfl)) (by simp)
    | none =>
      -- the search goes on behind the head, and all positions are one more
      rw [List.findSome?_cons_of_isNone (by simp [hx]), ih]
      constructor
      · rintro ⟨i, a, ha, hb, hbefore⟩
        refine ⟨i + 1, a, ha, hb, fun j hj a' ha' => ?_⟩
        cases j with
        | zero => rwa [← Option.some.inj ha']
        | succ j => exact hbefore j (Nat.lt_of_succ_lt_succ hj) a' ha'
      · rintro ⟨i, a, ha, hb, hbefore⟩
        cases i with
        | zero =>
          obtain rfl : x = a := Option.some.inj ha
          exact absurd (hx.symm.trans hb) (by simp)
        | succ i =>
          exact ⟨i, a, ha, hb, fun j hj a' ha' => hbefore (j + 1) (Nat.succ_lt_succ hj) a' ha'⟩

namespace Element

variable {e : Element} {s : ResourceSlot}

/-! ### The first attribute with a property -/

/-- **The first attribute** of an element with a property, and its position. -/
structure IsFirst (e : Element) (p : Attribute → Bool) (i : Nat) (a : Attribute) : Prop where
  getElem : e.attributes[i]? = some a
  holds : p a = true
  before : ∀ j < i, ∀ b, e.attributes[j]? = some b → p b = false

/-- A slot is the first attribute with the property, together with the category that was asked for.
-/
theorem slot?_eq_some_iff {p : Attribute → Bool} {category : Category} :
    e.slot? p category = some s ↔ e.IsFirst p s.position s.attr ∧ s.category = category := by
  simp only [slot?, Option.bind_eq_some_iff, List.findIdx?_eq_some_iff_getElem,
    Option.map_eq_some_iff]
  constructor
  · rintro ⟨i, ⟨hi, hp, hbefore⟩, a, ha, rfl⟩
    -- the attribute is looked up a second time, at the position that was found
    obtain rfl : e.attributes[i] = a := by
      rw [List.getElem?_eq_getElem hi] at ha
      exact Option.some.inj ha
    refine ⟨⟨ha, hp, ?_⟩, rfl⟩
    intro j hj b hb
    obtain ⟨hlt, rfl⟩ := List.getElem?_eq_some_iff.1 hb
    simpa using hbefore j hj
  · -- what the search needs is that the position is one of the list
    rintro ⟨⟨hget, hp, hbefore⟩, rfl⟩
    obtain ⟨hi, ha⟩ := List.getElem?_eq_some_iff.1 hget
    refine ⟨s.position, ⟨hi, by rwa [ha], ?_⟩, s.attr, hget, rfl⟩
    intro j hj
    have hjlt : j < e.attributes.length := Nat.lt_trans hj hi
    simpa using hbefore j hj _ (List.getElem?_eq_getElem hjlt)

/-- There is no slot only where no attribute has the property: a position that was found always
leads to an attribute. -/
theorem slot?_eq_none_iff {p : Attribute → Bool} {category : Category} :
    e.slot? p category = none ↔ ∀ a ∈ e.attributes, p a = false := by
  rw [← List.findIdx?_eq_none_iff, slot?, Option.bind_eq_none_iff]
  constructor
  · intro h
    cases hi : e.attributes.findIdx? p with
    | none => rfl
    | some i =>
      -- a position that was found is one of the list
      obtain ⟨hlt, -⟩ := List.findIdx?_eq_some_iff_getElem.1 hi
      have hnone := h i hi
      rw [List.getElem?_eq_getElem hlt] at hnone
      exact absurd hnone (by simp)
  · intro h i hi
    rw [h] at hi
    exact absurd hi (by simp)

/-! ### What HTML offers -/

/-- A row of the table: tags that refer to a resource in one way only, the attribute that holds the
address, and the category of the resource. -/
structure Row where
  tags : List Tag
  attributeName : String
  category : Category

/-- The tags for which no other attribute of the element counts. -/
def table : List Row :=
  [⟨[.script], "src", .script⟩,
    ⟨[.img], "src", .image⟩,
    ⟨[.body, .td, .th, .table, .tbody, .tfoot, .thead], "background", .image⟩,
    ⟨[.command], "icon", .image⟩,
    ⟨[.a, .area], "href", .hyperlink⟩,
    ⟨[.form], "action", .hyperlink⟩,
    ⟨[.audio, .video, .source, .track, .embed, .frame, .iframe], "src", .otherResource⟩,
    ⟨[.html], "manifest", .otherResource⟩,
    ⟨[.blockquote, .q, .ins, .del], "cite", .hyperlink⟩,
    ⟨[.button], "formaction", .hyperlink⟩]

/-- **What HTML offers:** an attribute through which the element may refer to a resource, and the
category of the resource. A link has its category from `rel`, and an input offers an attribute only
if it is an image. -/
inductive Offers (e : Element) : String → Category → Prop
  | row {r : Row} (hrow : r ∈ table) (htag : e.tag ∈ r.tags) : Offers e r.attributeName r.category
  | link (htag : e.tag = .link) : Offers e "href" (linkCategory (e.value? "rel"))
  | imageInput {type : String} (htag : e.tag = .input) (hvalue : e.value? "type" = some type)
      (htype : sameName type "image" = true) : Offers e "src" .image

theorem Offers.of_table {name : String} {category : Category}
    (h : ∃ r ∈ table, e.tag ∈ r.tags ∧ (r.attributeName, r.category) = (name, category)) :
    e.Offers name category := by
  obtain ⟨r, hrow, htag, hr⟩ := h
  obtain ⟨rfl, rfl⟩ := Prod.mk.inj hr
  exact .row hrow htag

/-- The table is what the classification goes by. -/
theorem builtin?_eq_some_iff {name : String} {category : Category} :
    e.builtin? = some (name, category) ↔ e.Offers name category := by
  constructor
  · intro h
    cases htag : e.tag with
    | link =>
      rw [builtin?, htag] at h
      obtain ⟨rfl, rfl⟩ := Prod.mk.inj (Option.some.inj h)
      exact .link htag
    | input =>
      simp only [builtin?, htag, Option.ite_none_right_eq_some] at h
      -- the offer is made only if `type` is there, and is `image`
      obtain ⟨himage, h⟩ := h
      obtain ⟨rfl, rfl⟩ := Prod.mk.inj (Option.some.inj h)
      cases hvalue : e.value? "type" with
      | none => exact absurd himage (by simp [hvalue])
      | some type => exact .imageInput htag hvalue (by simpa [hvalue] using himage)
    | other =>
      rw [builtin?, htag] at h
      exact absurd h (by simp)
    | _ =>
      -- every other tag stands in one row of the table
      rw [builtin?, htag] at h
      exact .of_table (by rw [htag, ← Option.some.inj h]; decide)
  · intro h
    cases h with
    | link htag => rw [builtin?, htag]
    | imageInput htag hvalue htype => simp [builtin?, htag, hvalue, htype]
    | row hrow htag =>
      -- the rows one by one, and in each of them its tags
      simp only [table, List.mem_cons, List.not_mem_nil, or_false] at hrow
      rcases hrow with rfl | rfl | rfl | rfl | rfl | rfl | rfl | rfl | rfl | rfl
      all_goals
        simp only [List.mem_cons, List.not_mem_nil, or_false] at htag
        unfold builtin?
      all_goals
        repeat' rcases htag with htag | htag
        all_goals rw [htag]

end Element

/-! ### What a rule matches -/

/-- **A match.** The rule names the element and the attribute, and the attribute is clean. -/
structure Rule.Matches (r : Rule) (e : Element) (a : Attribute) : Prop where
  elementName : sameName e.name r.elementName = true
  attributeName : a.hasName r.attributeName = true
  clean : a.isTainted = false

namespace Element

variable {e : Element} {s : ResourceSlot} {rs : RuleSet}

/-- The matches of a list of rules with the attributes of an element, each by the index of the rule
and the position of the attribute. Earlier rules come first, and for one rule earlier attributes. -/
def matching (e : Element) (rs : RuleSet) : Set (ℕ ×ₗ ℕ) :=
  {m | ∃ r a, rs[(ofLex m).1]? = some r ∧ e.attributes[(ofLex m).2]? = some a ∧ r.Matches e a}

/-- **The slot of one rule** is the first attribute that the rule matches, in the category of the
rule. -/
theorem ruleSlot?_eq_some_iff {r : Rule} :
    e.ruleSlot? r = some s ↔
      r.Matches e s.attr ∧ e.attributes[s.position]? = some s.attr ∧ s.category = r.category ∧
        ∀ j < s.position, ∀ b, e.attributes[j]? = some b → ¬r.Matches e b := by
  unfold ruleSlot?
  by_cases hname : sameName e.name r.elementName = true
  · rw [if_pos hname, slot?_eq_some_iff]
    -- the test of the search says of an attribute what is left of a match, the element being named
    have hmatches (a : Attribute) :
        (a.hasName r.attributeName && !a.isTainted) = true ↔ r.Matches e a := by
      rw [Bool.and_eq_true, Bool.not_eq_true']
      exact ⟨fun h => ⟨hname, h.1, h.2⟩, fun h => ⟨h.attributeName, h.clean⟩⟩
    constructor
    · rintro ⟨hfirst, hcategory⟩
      refine ⟨(hmatches _).1 hfirst.holds, hfirst.getElem, hcategory, ?_⟩
      intro j hj b hb hm
      exact absurd ((hmatches b).2 hm) (Bool.eq_false_iff.1 (hfirst.before j hj b hb))
    · rintro ⟨hm, hget, hcategory, hbefore⟩
      refine ⟨⟨hget, (hmatches _).2 hm, ?_⟩, hcategory⟩
      intro j hj b hb
      exact Bool.eq_false_iff.2 (mt (hmatches b).1 (hbefore j hj b hb))
  · rw [if_neg hname]
    exact ⟨fun h => absurd h (by simp), fun h => absurd h.1.elementName hname⟩

/-- A rule has no slot in an element exactly where it matches none of the attributes. -/
theorem ruleSlot?_eq_none_iff {r : Rule} :
    e.ruleSlot? r = none ↔ ∀ a ∈ e.attributes, ¬r.Matches e a := by
  unfold ruleSlot?
  by_cases hname : sameName e.name r.elementName = true
  · rw [if_pos hname, slot?_eq_none_iff]
    refine forall₂_congr fun a _ => ?_
    rw [Bool.eq_false_iff, Ne, Bool.and_eq_true, Bool.not_eq_true', not_iff_not]
    exact ⟨fun h => ⟨hname, h.1, h.2⟩, fun h => ⟨h.attributeName, h.clean⟩⟩
  · rw [if_neg hname]
    exact ⟨fun _ a _ hm => hname hm.elementName, fun _ => rfl⟩

/-- The rule that decides is the first for which there is a slot. -/
theorem firstRule?_eq_some_iff_getElem? {k : Nat} :
    e.firstRule? rs = some (k, s) ↔
      ∃ r, rs[k]? = some r ∧ e.ruleSlot? r = some s ∧
        ∀ j < k, ∀ r', rs[j]? = some r' → e.ruleSlot? r' = none := by
  simp only [firstRule?, findSome?_eq_some_iff_getElem?, List.getElem?_zipIdx, Nat.zero_add,
    Option.map_eq_some_iff, Option.map_eq_none_iff]
  constructor
  · rintro ⟨i, _, ⟨r, hr, rfl⟩, ⟨t, hslot, hpair⟩, hbefore⟩
    obtain ⟨rfl, rfl⟩ := Prod.mk.inj hpair
    exact ⟨r, hr, hslot, fun j hj r' hr' => hbefore j hj (r', j) ⟨r', hr', rfl⟩⟩
  · rintro ⟨r, hr, hslot, hbefore⟩
    refine ⟨k, (r, k), ⟨r, hr, rfl⟩, ⟨s, hslot, rfl⟩, ?_⟩
    rintro j hj _ ⟨r', hr', rfl⟩
    exact hbefore j hj r' hr'

/-- **The rules select the least match.** -/
theorem firstRule?_eq_some_iff {k : Nat} :
    e.firstRule? rs = some (k, s) ↔
      IsLeast (e.matching rs) (toLex (k, s.position)) ∧ e.attributes[s.position]? = some s.attr ∧
        ∃ r, rs[k]? = some r ∧ s.category = r.category := by
  rw [firstRule?_eq_some_iff_getElem?]
  constructor
  · rintro ⟨r, hr, hslot, hbefore⟩
    obtain ⟨hm, hget, hcategory, hleast⟩ := ruleSlot?_eq_some_iff.1 hslot
    refine ⟨⟨⟨r, s.attr, hr, hget, hm⟩, ?_⟩, hget, r, hr, hcategory⟩
    rintro m ⟨r', a', hr', ha', hm'⟩
    rw [Prod.Lex.le_iff]
    rcases Nat.lt_trichotomy k (ofLex m).1 with hlt | heq | hgt
    · exact .inl hlt
    · -- two attributes for the same rule
      right
      refine ⟨heq, Nat.le_of_not_lt fun hlt => ?_⟩
      obtain rfl : r = r' := Option.some.inj (hr.symm.trans (heq ▸ hr'))
      exact hleast _ hlt a' ha' hm'
    · -- an earlier rule would have had a slot
      have hnone := hbefore _ hgt r' hr'
      exact absurd hm' (ruleSlot?_eq_none_iff.1 hnone a' (List.mem_of_getElem? ha'))
  · rintro ⟨⟨⟨r, a, hr, ha, hm⟩, hleast⟩, hget, r', hr', hcategory⟩
    change rs[k]? = some r at hr
    change e.attributes[s.position]? = some a at ha
    obtain rfl : r = r' := Option.some.inj (hr.symm.trans hr')
    obtain rfl : a = s.attr := Option.some.inj (ha.symm.trans hget)
    -- the pair is least, and all that the two searches left out would be less
    have hle {k' i : Nat} {r' : Rule} {a' : Attribute} (hr : rs[k']? = some r')
        (ha : e.attributes[i]? = some a') (hm : r'.Matches e a') :
        k < k' ∨ k = k' ∧ s.position ≤ i := by
      have hmem : toLex (k', i) ∈ e.matching rs := ⟨r', a', hr, ha, hm⟩
      exact Prod.Lex.toLex_le_toLex.1 (hleast hmem)
    refine ⟨r, hr, ruleSlot?_eq_some_iff.2 ⟨hm, hget, hcategory, ?_⟩, ?_⟩
    · -- an earlier attribute for the same rule
      intro j hj b hb hmb
      have horder := hle hr hb hmb
      omega
    · -- any attribute for an earlier rule
      intro j hj r' hr'
      rw [ruleSlot?_eq_none_iff]
      intro a' ha' hm'
      obtain ⟨i, hi⟩ := List.mem_iff_getElem?.1 ha'
      have horder := hle hr' hi hm'
      omega

/-- Without their indices, the rules give the slot of the first rule that has one. -/
theorem map_snd_firstRule? (e : Element) (rs : RuleSet) :
    (e.firstRule? rs).map (·.2) = rs.findSome? e.ruleSlot? := by
  have hfst : rs.zipIdx.map Prod.fst = rs := List.zipIdx_map_fst 0 rs
  conv_rhs => rw [← hfst, List.findSome?_map]
  rw [firstRule?, List.map_findSome?]
  congr 1
  funext p
  simp [Function.comp_def]

theorem firstRule?_eq_none_iff :
    e.firstRule? rs = none ↔ rs.findSome? e.ruleSlot? = none := by
  rw [← map_snd_firstRule?, Option.map_eq_none_iff]

/-- What the rules select is the slot of the rule that decides, whatever the index of that rule is.
-/
theorem findSome?_ruleSlot?_eq_some_iff :
    rs.findSome? e.ruleSlot? = some s ↔ ∃ k, e.firstRule? rs = some (k, s) := by
  rw [← map_snd_firstRule?, Option.map_eq_some_iff]
  constructor
  · rintro ⟨⟨k, t⟩, hk, rfl⟩
    exact ⟨k, hk⟩
  · rintro ⟨k, hk⟩
    exact ⟨(k, s), hk, rfl⟩

/-- The rules select nothing exactly where nothing matches. -/
theorem findSome?_ruleSlot?_eq_none_iff : rs.findSome? e.ruleSlot? = none ↔ e.matching rs = ∅ := by
  simp only [List.findSome?_eq_none_iff, ruleSlot?_eq_none_iff, Set.eq_empty_iff_forall_notMem]
  constructor
  · rintro hnone m ⟨r, a, hr, ha, hm⟩
    exact hnone r (List.mem_of_getElem? hr) a (List.mem_of_getElem? ha) hm
  · intro hempty r hr a ha hm
    obtain ⟨k, hk⟩ := List.mem_iff_getElem?.1 hr
    obtain ⟨i, hi⟩ := List.mem_iff_getElem?.1 ha
    exact hempty (toLex (k, i)) ⟨r, a, hk, hi, hm⟩

/-- A slot that a rule gives is clean. -/
theorem isTainted_ruleSlot? {r : Rule} (h : e.ruleSlot? r = some s) : s.attr.isTainted = false :=
  (ruleSlot?_eq_some_iff.1 h).1.clean

/-! ### The built-in slot -/

/-- The tokens behind the first change a category, and never take it away. -/
theorem refineLink_ne_undefined {found : Category} (h : found ≠ .undefined)
    (tokens : List (List Char)) : refineLink found tokens ≠ .undefined := by
  induction tokens generalizing found with
  | nil => exact h
  | cons token tokens ih =>
    rw [refineLink]
    split
    · simp
    · apply ih
      -- a token that says less than what was found leaves that as it is
      split
      · simp
      · exact h

theorem linkCategory_ne_undefined (rel : Option String) : linkCategory rel ≠ .undefined := by
  cases rel with
  | none => simp [linkCategory]
  | some rel =>
    rw [linkCategory]
    split
    · simp
    · exact refineLink_ne_undefined (by simp) _

/-- What HTML offers has a category. -/
theorem Offers.category_ne_undefined {name : String} {category : Category}
    (h : e.Offers name category) : category ≠ .undefined := by
  cases h with
  | link htag => exact linkCategory_ne_undefined _
  | imageInput => simp
  | @row r hrow _ =>
    have hrows : ∀ r ∈ table, r.category ≠ .undefined := by decide
    exact hrows r hrow

/-- The slot that HTML names, if it is clean. -/
def cleanBuiltin? (e : Element) : Option ResourceSlot :=
  e.builtinSlot?.filter fun s => !s.attr.isTainted

/-- The slot that HTML names is the first attribute of the name that is offered. -/
theorem builtinSlot?_eq_some_iff :
    e.builtinSlot? = some s ↔
      ∃ name, e.Offers name s.category ∧ e.IsFirst (·.hasName name) s.position s.attr := by
  simp only [builtinSlot?, Option.bind_eq_some_iff, slot?_eq_some_iff, Prod.exists,
    builtin?_eq_some_iff]
  constructor
  · rintro ⟨name, category, hoffer, hfirst, rfl⟩
    exact ⟨name, hoffer, hfirst⟩
  · rintro ⟨name, hoffer, hfirst⟩
    exact ⟨name, s.category, hoffer, hfirst, rfl⟩

/-! ### The result of a classification -/

/-- The last test of a classification passes a sound slot and no other. -/
theorem slot?_accept (e : Element) (s : ResourceSlot) :
    (e.accept s).slot? = (some s).filter (·.isSound) := by
  rw [accept, Option.filter_some]
  split
  · rfl
  · rfl

/-- **The slot that the rules leave:** what they select, else the candidate, and in the end only a
sound slot. -/
theorem slot?_classifyByRules (e : Element) (rs : RuleSet) (candidate : Option ResourceSlot) :
    (e.classifyByRules rs candidate).slot? =
      ((rs.findSome? e.ruleSlot?).or candidate).filter (·.isSound) := by
  rw [← map_snd_firstRule?]
  unfold classifyByRules
  cases e.firstRule? rs with
  | some p => exact slot?_accept e p.2
  | none =>
    cases candidate with
    | some s => exact slot?_accept e s
    | none => rfl

/-- What a rule gives is clean, so that only its category is left to be tested. -/
theorem filter_isSound_findSome? (e : Element) (rs : RuleSet) :
    (rs.findSome? e.ruleSlot?).filter (·.isSound) =
      (rs.findSome? e.ruleSlot?).filter (·.category.isDefined) := by
  cases hfound : rs.findSome? e.ruleSlot? with
  | none => rfl
  | some s =>
    obtain ⟨r, -, hslot⟩ := List.exists_of_findSome?_eq_some hfound
    rw [Option.filter_some, Option.filter_some, ResourceSlot.isSound, isTainted_ruleSlot? hslot,
      Bool.not_false, Bool.true_and]

/-- A clean built-in slot is taken, and nothing is noted. -/
theorem classify_of_cleanBuiltin? (h : e.cleanBuiltin? = some s) (rules : Option RuleSet) :
    e.classify rules = ⟨some s, []⟩ := by
  rw [cleanBuiltin?, Option.filter_eq_some_iff, Bool.not_eq_true'] at h
  obtain ⟨hbuiltin, hclean⟩ := h
  obtain ⟨name, hoffer, -⟩ := builtinSlot?_eq_some_iff.1 hbuiltin
  -- a sound slot is clean and has a category, and HTML offers no other
  have hsound : s.isSound = true := by
    simpa [ResourceSlot.isSound, hclean, Category.isDefined] using hoffer.category_ne_undefined
  rw [classify, hbuiltin]
  change (if s.attr.isTainted = true then _ else e.accept s) = _
  rw [hclean, if_neg Bool.false_ne_true, accept, if_pos hsound]

/-- If there is a built-in slot and none that is clean, then it is tainted. -/
theorem isTainted_of_cleanBuiltin?_eq_none (h : e.cleanBuiltin? = none)
    (hs : e.builtinSlot? = some s) : s.attr.isTainted = true := by
  simpa [cleanBuiltin?, hs, Option.filter_some] using h

/-- Without a clean built-in slot the rules are tried, and a tainted one is only a candidate. -/
theorem classify_of_cleanBuiltin?_eq_none (h : e.cleanBuiltin? = none) (rules : Option RuleSet) :
    e.classify rules = e.classifyByRules (rules.getD []) e.builtinSlot? := by
  unfold classify
  cases hbuiltin : e.builtinSlot? with
  | none => rfl
  | some s => exact if_pos (isTainted_of_cleanBuiltin?_eq_none h hbuiltin)

/-- **Without attributes** there is no resource and nothing is noted, so that no search is
needed. -/
theorem classify_of_attributes_eq_nil (h : e.attributes = []) (rules : Option RuleSet) :
    e.classify rules = ⟨none, []⟩ := by
  -- both searches go over the attributes, of which there are none
  have hslot (p : Attribute → Bool) (category : Category) : e.slot? p category = none := by
    rw [slot?_eq_none_iff, h]
    exact fun a ha => absurd ha List.not_mem_nil
  have hbuiltin : e.builtinSlot? = none :=
    Option.bind_eq_none_iff.2 fun offer _ => hslot _ offer.2
  have hrules : e.firstRule? (rules.getD []) = none := by
    rw [firstRule?_eq_none_iff, List.findSome?_eq_none_iff]
    intro r _
    rw [ruleSlot?_eq_none_iff, h]
    exact fun a ha => absurd ha List.not_mem_nil
  unfold classify classifyByRules
  rw [hbuiltin]
  dsimp only
  rw [hrules]

/-- **The result of a classification:** the built-in slot if it is clean, else the slot of the first
rule that has one, unless its category is undefined. -/
theorem slot?_classify (e : Element) (rules : Option RuleSet) :
    (e.classify rules).slot? =
      e.cleanBuiltin?.or
        (((rules.getD []).findSome? e.ruleSlot?).filter (·.category.isDefined)) := by
  cases hclean : e.cleanBuiltin? with
  | some s => rw [classify_of_cleanBuiltin? hclean, Option.some_or]
  | none =>
    rw [classify_of_cleanBuiltin?_eq_none hclean, slot?_classifyByRules, Option.none_or,
      ← filter_isSound_findSome?]
    cases (rules.getD []).findSome? e.ruleSlot? with
    | some t => rw [Option.some_or]
    | none =>
      -- a tainted slot stays a candidate, and is refused
      rw [Option.none_or, Option.filter_none, Option.filter_eq_none_iff]
      intro s hbuiltin
      simp [ResourceSlot.isSound, isTainted_of_cleanBuiltin?_eq_none hclean hbuiltin]

end Element

end PageScan.Html
