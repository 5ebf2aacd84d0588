import Mathlib.Data.List.Forall2
import PageScan.Proofs.Html.Selection

/-!
# What a classification looks at

A classification looks at names without regard to case, at whether attributes are tainted, and at
the decoded value of one attribute: `rel` if the element is a link, `type` if it is an input. No
other value is looked at, least of all the address itself. Elements that agree in what is looked at
are `Element.Alike`, and rules `Rule.Alike`.

Each function on the way from an element to its slot gives alike slots for alike arguments: one
lemma for each, in the order in which they call one another. The last of them is
`position_and_category_of_alike`.
-/

namespace PageScan.Html

open Text

/-! ### Alike -/

/-- Attributes of one name, both of them tainted or none. -/
structure Attribute.Alike (a b : Attribute) : Prop where
  name : sameName a.name b.name = true
  isTainted : a.isTainted = b.isTainted

/-- Rules that name the same element and attribute and have the same category. -/
structure Rule.Alike (r q : Rule) : Prop where
  elementName : sameName r.elementName q.elementName = true
  attributeName : sameName r.attributeName q.attributeName = true
  category : r.category = q.category

/-- **Elements that a classification cannot tell apart.** Of the values only that of `rel` counts
for a link, and that of `type` for an input. -/
structure Element.Alike (e f : Element) : Prop where
  name : sameName e.name f.name = true
  attributes : List.Forall₂ Attribute.Alike e.attributes f.attributes
  rel : e.tag = .link → Option.Rel (sameName · · = true) (e.value? "rel") (f.value? "rel")
  type : e.tag = .input → Option.Rel (sameName · · = true) (e.value? "type") (f.value? "type")

/-- Slots at one position with one category. -/
structure ResourceSlot.Alike (s t : ResourceSlot) : Prop where
  position : s.position = t.position
  category : s.category = t.category
  attr : s.attr.Alike t.attr

/-! ### Names -/

/-- Names that agree apart from case agree with the same names. -/
theorem sameName_congr {a b c d : String} (hab : sameName a b = true) (hcd : sameName c d = true) :
    sameName a c = sameName b d := by
  simp only [sameName, sameName_iff.1 hab, sameName_iff.1 hcd]

theorem Attribute.Alike.hasName {a b : Attribute} (h : a.Alike b) {n m : String}
    (hname : sameName n m = true) : a.hasName n = b.hasName m :=
  sameName_congr h.name hname

theorem linkCategory_congr {rel rel' : Option String}
    (h : Option.Rel (sameName · · = true) rel rel') : linkCategory rel = linkCategory rel' := by
  cases h with
  | none => rfl
  | @some a b hfold =>
    rw [linkCategory, linkCategory, isStylesheet, isStylesheet, relTokens_congr hfold]

/-! ### Searches -/

section Search

variable {α β : Type} {r : α → α → Prop} {q : β → β → Prop}

/-- Related options are empty together. -/
theorem none_or_some_of_rel {o o' : Option β} (h : Option.Rel q o o') :
    o = none ∧ o' = none ∨ ∃ a b, o = some a ∧ o' = some b ∧ q a b := by
  cases h with
  | none => exact .inl ⟨rfl, rfl⟩
  | some hab => exact .inr ⟨_, _, rfl, rfl, hab⟩

theorem findIdx?_of_forall₂ {p p' : α → Bool} (hp : ∀ a b, r a b → p a = p' b) {l l' : List α}
    (h : List.Forall₂ r l l') : l.findIdx? p = l'.findIdx? p' := by
  induction h with
  | nil => rfl
  | cons hab _ ih => rw [List.findIdx?_cons, List.findIdx?_cons, hp _ _ hab, ih]

theorem getElem?_of_forall₂ {l l' : List α} (h : List.Forall₂ r l l') (i : Nat) :
    Option.Rel r l[i]? l'[i]? := by
  induction h generalizing i with
  | nil => exact .none
  | cons hab _ ih =>
    cases i with
    | zero => exact .some hab
    | succ i => exact ih i

/-- A search for the first result ends with related results in related lists. -/
theorem findSome?_of_forall₂ {f f' : α → Option β} (hf : ∀ a b, r a b → Option.Rel q (f a) (f' b))
    {l l' : List α} (h : List.Forall₂ r l l') :
    Option.Rel q (l.findSome? f) (l'.findSome? f') := by
  induction h with
  | nil => exact .none
  | @cons a b l l' hab _ ih =>
    rw [List.findSome?_cons, List.findSome?_cons]
    -- the searches go on together, or stop together at the heads
    obtain ⟨ha, hb⟩ | ⟨c, d, ha, hb, hcd⟩ := none_or_some_of_rel (hf a b hab)
    · rw [ha, hb]
      exact ih
    · rw [ha, hb]
      exact .some hcd

/-- A test that related items pass together keeps options related. -/
theorem filter_of_rel {p p' : β → Bool} (hp : ∀ a b, q a b → p a = p' b) {o o' : Option β}
    (h : Option.Rel q o o') : Option.Rel q (o.filter p) (o'.filter p') := by
  cases h with
  | none => exact .none
  | @some a b hab =>
    rw [Option.filter_some, Option.filter_some, ← hp a b hab]
    split
    · exact .some hab
    · exact .none

end Search

/-! ### Alike elements have alike slots -/

namespace Element

variable {e f : Element}

theorem Alike.tag_eq (h : e.Alike f) : e.tag = f.tag := Tag.ofName_congr h.name

/-- The first attribute with a property is alike, for properties that alike attributes share. -/
theorem slot?_of_alike {p p' : Attribute → Bool} (hp : ∀ a b, Attribute.Alike a b → p a = p' b)
    (h : e.Alike f) (category : Category) :
    Option.Rel ResourceSlot.Alike (e.slot? p category) (f.slot? p' category) := by
  -- both searches stop at one position, and what stands there is alike
  rw [slot?, slot?, findIdx?_of_forall₂ hp h.attributes]
  cases f.attributes.findIdx? p' with
  | none => exact .none
  | some i =>
    rw [Option.bind_some, Option.bind_some]
    obtain ⟨ha, hb⟩ | ⟨a, b, ha, hb, hab⟩ :=
      none_or_some_of_rel (getElem?_of_forall₂ h.attributes i)
    · rw [ha, hb]
      exact .none
    · rw [ha, hb]
      exact .some ⟨rfl, rfl, hab⟩

/-- HTML offers the same for elements that are alike. -/
theorem builtin?_of_alike (h : e.Alike f) : e.builtin? = f.builtin? := by
  -- the tags agree, and only for two of them a value is looked at
  unfold builtin?
  rw [← h.tag_eq]
  cases htag : e.tag with
  | link =>
    change some ("href", linkCategory _) = some ("href", linkCategory _)
    rw [linkCategory_congr (h.rel htag)]
  | input =>
    -- the value is compared with one name, and both values are that name or neither
    have hany : (e.value? "type").any (sameName · "image") =
        (f.value? "type").any (sameName · "image") := by
      obtain ⟨ha, hb⟩ | ⟨a, b, ha, hb, hsame⟩ := none_or_some_of_rel (h.type htag)
      · rw [ha, hb]
      · rw [ha, hb]
        exact sameName_congr hsame (sameName_refl "image")
    change (if _ then _ else _) = (if _ then _ else _)
    rw [hany]
  | _ => rfl

/-- The clean built-in slots are alike, or both elements have none. -/
theorem cleanBuiltin?_of_alike (h : e.Alike f) :
    Option.Rel ResourceSlot.Alike e.cleanBuiltin? f.cleanBuiltin? := by
  -- clean or tainted, both slots pass the test or neither does
  refine filter_of_rel (fun s t hst => by rw [hst.attr.isTainted]) ?_
  rw [builtinSlot?, builtinSlot?, builtin?_of_alike h]
  cases f.builtin? with
  | none => exact .none
  | some offer =>
    exact slot?_of_alike (fun a b hab => hab.hasName (sameName_refl offer.1)) h offer.2

/-- The slots of one rule are alike, or both elements have none. -/
theorem ruleSlot?_of_alike {r q : Rule} (hr : r.Alike q) (h : e.Alike f) :
    Option.Rel ResourceSlot.Alike (e.ruleSlot? r) (f.ruleSlot? q) := by
  rw [ruleSlot?, ruleSlot?, sameName_congr h.name hr.elementName, hr.category]
  split
  · -- the rules are for both elements, and test their attributes alike
    refine slot?_of_alike (fun a b hab => ?_) h q.category
    rw [hab.hasName hr.attributeName, hab.isTainted]
  · exact .none

/-- **Alike elements have alike results** under alike rules. -/
theorem slot?_classify_of_alike {rules rules' : Option RuleSet}
    (hrules : Option.Rel (List.Forall₂ Rule.Alike) rules rules') (h : e.Alike f) :
    Option.Rel ResourceSlot.Alike (e.classify rules).slot? (f.classify rules').slot? := by
  -- to have no rules is to have an empty list of them
  have hlist : List.Forall₂ Rule.Alike (rules.getD []) (rules'.getD []) := by
    cases hrules with
    | none => exact .nil
    | some hlist => exact hlist
  rw [slot?_classify, slot?_classify]
  obtain ⟨he, hf⟩ | ⟨s, t, he, hf, hst⟩ := none_or_some_of_rel (cleanBuiltin?_of_alike h)
  · -- neither has a built-in slot, so that the rules decide for both
    rw [he, hf, Option.none_or, Option.none_or]
    refine filter_of_rel (fun s t hst => by rw [hst.category]) ?_
    exact findSome?_of_forall₂ (fun r q hr => ruleSlot?_of_alike hr h) hlist
  · rw [he, hf]
    exact .some hst

end Element

/-- **No other value counts.** Elements that agree, apart from case, in their names, in which
attributes are tainted, and in the one value that is looked at, have their slots at one position
with one category, or both have none, for any rules that agree apart from case. -/
theorem position_and_category_of_alike {e f : Element} {rules rules' : Option RuleSet}
    (h : e.Alike f) (hrules : Option.Rel (List.Forall₂ Rule.Alike) rules rules') :
    (e.classify rules).slot?.map (fun s => (s.position, s.category)) =
      (f.classify rules').slot?.map (fun s => (s.position, s.category)) := by
  obtain ⟨he, hf⟩ | ⟨s, t, he, hf, hst⟩ :=
    none_or_some_of_rel (Element.slot?_classify_of_alike hrules h)
  · rw [he, hf]
  · rw [he, hf, Option.map_some, Option.map_some, hst.position, hst.category]

/-- A link to an icon, and the same link in capitals, with `rel` written in another way and without
an address. -/
theorem classify_links_with_icons :
    let e : Element := ⟨"link", [.plain "rel" "icon", .plain "href" "a.png"]⟩
    let f : Element := ⟨"LINK", [⟨"REL", .decoded "&#73;CON" "ICON"⟩, ⟨"Href", .absent⟩]⟩
    let rules : RuleSet := [⟨"link", "href", .script⟩]
    let rules' : RuleSet := [⟨"Link", "HREF", .script⟩]
    e.Alike f ∧ List.Forall₂ Rule.Alike rules rules' ∧
      (e.classify (some rules)).slot?.map (fun s => (s.position, s.category)) =
        (f.classify (some rules')).slot?.map (fun s => (s.position, s.category)) := by
  intro e f rules rules'
  have halike : e.Alike f := by
    refine ⟨by decide +kernel, ?_, ?_, ?_⟩
    · -- the attributes one by one: `REL` is `rel`, and neither of the two is tainted
      exact .cons ⟨by decide +kernel, rfl⟩ (.cons ⟨by decide +kernel, rfl⟩ .nil)
    · intro _
      have he : e.value? "rel" = some "icon" := by decide +kernel
      have hf : f.value? "rel" = some "ICON" := by decide +kernel
      rw [he, hf]
      exact .some (by decide +kernel)
    · intro htag
      exact absurd htag (by decide +kernel)
  have hrules : List.Forall₂ Rule.Alike rules rules' :=
    .cons ⟨by decide +kernel, by decide +kernel, rfl⟩ .nil
  exact ⟨halike, hrules, position_and_category_of_alike halike (.some hrules)⟩

end PageScan.Html
