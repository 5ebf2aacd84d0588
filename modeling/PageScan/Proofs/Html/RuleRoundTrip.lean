import Mathlib.Data.List.Forall2
import PageScan.Html.RuleJson

/-!
# Rules in JSON and back

A rule can be spelled in many ways in JSON: as an object, with its members in any order and others
between them, or as an array, and its category in any spelling of the name. It is written in one way
only. So reading undoes writing, but writing undoes reading only up to the spelling: what is written
for a value that was read is the normal form of that value (`RuleSet.normal?`), and a normal form is
its own.

What an item of a list stands for is said by its parts (`Rule.Denotes`), and `Rule.Faulty` lists
what can be wrong with one. Every item either stands for a rule or is faulty
(`Rule.ofJson?_eq_none_iff`), and a list is read as a whole: item by item when none is faulty, and
not at all otherwise.
-/

namespace PageScan

/-! ### Members of an object -/

namespace Json

variable {members : List (String × Json)} {key : String} {value : Json}

/-- **The member of an object** with a key. No other member has the same key. -/
structure Holds (members : List (String × Json)) (key : String) (value : Json) : Prop where
  mem : (key, value) ∈ members
  once : (members.map Prod.fst).count key = 1

theorem length_filter_key :
    (members.filter (·.1 == key)).length = (members.map Prod.fst).count key := by
  rw [List.count, List.countP_map, List.countP_eq_length_filter]
  rfl

/-- The member that is looked up is the only one with the key. -/
theorem member?_eq_some_iff : member? members key = some value ↔ Holds members key value := by
  have hmem : ∀ m, m ∈ members.filter (·.1 == key) ↔ m ∈ members ∧ m.1 = key := by simp
  unfold member?
  constructor
  · intro h
    -- the list of members with the key has one item, or the look-up fails
    split at h
    · next k v hfilter =>
      obtain rfl := Option.some.inj h
      obtain ⟨hv, rfl⟩ := (hmem (k, v)).1 (by rw [hfilter]; exact List.mem_singleton_self _)
      exact ⟨hv, by rw [← length_filter_key, hfilter, List.length_singleton]⟩
    · exact absurd h (by simp)
  · rintro ⟨hv, honce⟩
    rw [← length_filter_key] at honce
    obtain ⟨m, hfilter⟩ := List.length_eq_one_iff.1 honce
    -- the only member with the key is the one that is there
    have hm : (key, value) ∈ members.filter (·.1 == key) := (hmem _).2 ⟨hv, rfl⟩
    rw [hfilter, List.mem_singleton] at hm
    rw [hfilter, ← hm]

theorem exists_holds (h : (members.map Prod.fst).count key = 1) :
    ∃ value, Holds members key value := by
  obtain ⟨⟨k, v⟩, hm, rfl⟩ := List.mem_map.1 (List.count_pos_iff.1 (h ▸ Nat.one_pos))
  exact ⟨v, hm, h⟩

theorem string?_eq_some_iff {j : Json} {s : String} : j.string? = some s ↔ j = .string s := by
  cases j <;> simp [string?]

end Json

namespace Html

open Json

/-! ### One rule -/

namespace Category

/-- A category is read from a string that names it. -/
theorem ofJson?_eq_some_iff {j : Json} {c : Category} :
    ofJson? j = some c ↔ ∃ name, j = .string name ∧ parse name = .ok c := by
  simp only [ofJson?, Option.bind_eq_some_iff, string?_eq_some_iff, parse_eq_ok_iff]

end Category

namespace Rule

variable {item elementName attributeName category : Json} {r : Rule}

/-- The keys of the parts of a rule. -/
def keys : List String := ["element", "attribute", "category"]

/-- **The parts of an item:** the members of an object with the three keys, or the three items of an
array. -/
inductive HasParts : Json → Json → Json → Json → Prop
  | object {members : List (String × Json)} {elementName attributeName category : Json}
      (helement : Holds members "element" elementName)
      (hattribute : Holds members "attribute" attributeName)
      (hcategory : Holds members "category" category) :
      HasParts (.object members) elementName attributeName category
  | array {elementName attributeName category : Json} :
      HasParts (.array [elementName, attributeName, category]) elementName attributeName category

/-- **The rule that an item stands for:** its parts are strings, and the third is the name of a
category in any spelling. -/
def Denotes (item : Json) (r : Rule) : Prop :=
  ∃ name, HasParts item (.string r.elementName) (.string r.attributeName) (.string name) ∧
    Category.parse name = .ok r.category

/-- **What can be wrong with an item.** -/
inductive Faulty : Json → Prop
  /-- a member is missing, or not the only one with its key -/
  | missing {members : List (String × Json)} {key : String} (hkey : key ∈ keys)
      (h : (members.map Prod.fst).count key ≠ 1) : Faulty (.object members)
  /-- there are less or more than three parts -/
  | count {items : List Json} (h : items.length ≠ 3) : Faulty (.array items)
  /-- there are no parts at all -/
  | scalar {item : Json} (hobject : ∀ members, item ≠ .object members)
      (harray : ∀ items, item ≠ .array items) : Faulty item
  /-- a part is not a string -/
  | notString {item elementName attributeName category part : Json}
      (hparts : HasParts item elementName attributeName category)
      (hpart : part ∈ [elementName, attributeName, category]) (h : ∀ s, part ≠ .string s) :
      Faulty item
  /-- no category has the name -/
  | unknown {item elementName attributeName : Json} {name : String}
      (hparts : HasParts item elementName attributeName (.string name))
      (h : Category.parse name = .error ⟨name⟩) : Faulty item

/-- A rule is read from three strings, of which the third names its category. -/
theorem ofParts?_eq_some_iff :
    ofParts? elementName attributeName category = some r ↔
      elementName = .string r.elementName ∧ attributeName = .string r.attributeName ∧
        ∃ name, category = .string name ∧ Category.parse name = .ok r.category := by
  simp only [ofParts?, Option.pure_def, Option.bind_eq_bind, Option.bind_eq_some_iff,
    string?_eq_some_iff, Category.ofJson?_eq_some_iff, Option.some.injEq]
  constructor
  · rintro ⟨e, rfl, a, rfl, c, hc, rfl⟩
    exact ⟨rfl, rfl, hc⟩
  · rintro ⟨he, ha, hc⟩
    exact ⟨_, he, _, ha, _, hc, rfl⟩

theorem HasParts.ofJson?_eq (h : HasParts item elementName attributeName category) :
    ofJson? item = ofParts? elementName attributeName category := by
  cases h with
  | object helement hattribute hcategory =>
    rw [ofJson?, member?_eq_some_iff.2 helement, member?_eq_some_iff.2 hattribute,
      member?_eq_some_iff.2 hcategory]
    rfl
  | array => rfl

/-- An item that is read has parts. -/
theorem exists_hasParts_of_ofJson? (h : ofJson? item = some r) :
    ∃ elementName attributeName category, HasParts item elementName attributeName category := by
  unfold ofJson? at h
  -- the reader looks for three items of an array, then for the members of an object
  split at h
  · exact ⟨_, _, _, .array⟩
  · next members =>
    simp only [Option.bind_eq_bind, Option.bind_eq_some_iff, member?_eq_some_iff] at h
    obtain ⟨e, he, a, ha, c, hc, -⟩ := h
    exact ⟨e, a, c, .object he ha hc⟩
  · exact absurd h (by simp)

/-- **An item is read as the rule that it stands for.** -/
theorem ofJson?_eq_some_iff : ofJson? item = some r ↔ Denotes item r := by
  constructor
  · intro h
    obtain ⟨e, a, c, hparts⟩ := exists_hasParts_of_ofJson? h
    rw [hparts.ofJson?_eq, ofParts?_eq_some_iff] at h
    obtain ⟨rfl, rfl, name, rfl, hname⟩ := h
    exact ⟨name, hparts, hname⟩
  · rintro ⟨name, hparts, hname⟩
    rw [hparts.ofJson?_eq, ofParts?_eq_some_iff]
    exact ⟨rfl, rfl, name, rfl, hname⟩

/-! ### Faults -/

/-- An item has its three parts, or it is faulty. -/
theorem exists_hasParts_or_faulty (item : Json) :
    (∃ elementName attributeName category, HasParts item elementName attributeName category) ∨
      Faulty item := by
  cases item with
  | object members =>
    -- what can be missing is one of the three keys
    by_cases h : ∀ key ∈ keys, (members.map Prod.fst).count key = 1
    · obtain ⟨e, he⟩ := exists_holds (h "element" (by decide))
      obtain ⟨a, ha⟩ := exists_holds (h "attribute" (by decide))
      obtain ⟨c, hc⟩ := exists_holds (h "category" (by decide))
      exact .inl ⟨e, a, c, .object he ha hc⟩
    · push Not at h
      obtain ⟨key, hkey, h⟩ := h
      exact .inr (.missing hkey h)
  | array items =>
    by_cases h : items.length = 3
    · obtain ⟨e, a, c, rfl⟩ := List.length_eq_three.1 h
      exact .inl ⟨e, a, c, .array⟩
    · exact .inr (.count h)
  | null | bool | number | string => exact .inr (.scalar (by simp) (by simp))

/-- **Every item** stands for a rule or is faulty. -/
theorem exists_denotes_or_faulty (item : Json) : (∃ r, Denotes item r) ∨ Faulty item := by
  rcases exists_hasParts_or_faulty item with ⟨e, a, c, hparts⟩ | hfaulty
  · by_cases hstring : ∀ part ∈ [e, a, c], ∃ s, part = .string s
    · obtain ⟨elementName, rfl⟩ := hstring e (by simp)
      obtain ⟨attributeName, rfl⟩ := hstring a (by simp)
      obtain ⟨name, rfl⟩ := hstring c (by simp)
      cases hname : Category.parse name with
      | ok category => exact .inl ⟨⟨elementName, attributeName, category⟩, name, hparts, hname⟩
      | error e =>
        obtain ⟨-, rfl⟩ := Category.parse_eq_error_iff.1 hname
        exact .inr (.unknown hparts hname)
    · push Not at hstring
      obtain ⟨part, hpart, h⟩ := hstring
      exact .inr (.notString hparts hpart h)
  · exact .inr hfaulty

/-- In an object with the three parts each key is there once. -/
theorem HasParts.count_eq_one {members : List (String × Json)} {key : String}
    (h : HasParts (.object members) elementName attributeName category) (hkey : key ∈ keys) :
    (members.map Prod.fst).count key = 1 := by
  cases h with
  | object helement hattribute hcategory =>
    simp only [keys, List.mem_cons, List.not_mem_nil, or_false] at hkey
    rcases hkey with rfl | rfl | rfl
    · exact helement.once
    · exact hattribute.once
    · exact hcategory.once

/-- A faulty item stands for no rule. -/
theorem Faulty.ofJson?_eq_none (h : Faulty item) : ofJson? item = none := by
  rw [Option.eq_none_iff_forall_ne_some]
  intro r hr
  obtain ⟨name, hdenotes, hname⟩ := ofJson?_eq_some_iff.1 hr
  -- each fault is against one thing that a rule must have: its parts, that these are strings, and
  -- that the last of them is a name
  cases h with
  | missing hkey h => exact h (hdenotes.count_eq_one hkey)
  | count h =>
    cases hdenotes
    exact h rfl
  | scalar hobject harray =>
    cases hdenotes with
    | object => exact hobject _ rfl
    | array => exact harray _ rfl
  | notString hparts hpart h =>
    rw [hparts.ofJson?_eq, ofParts?_eq_some_iff] at hr
    obtain ⟨rfl, rfl, name', rfl, -⟩ := hr
    simp only [List.mem_cons, List.not_mem_nil, or_false] at hpart
    rcases hpart with rfl | rfl | rfl <;> exact h _ rfl
  | unknown hparts h =>
    rw [hparts.ofJson?_eq, ofParts?_eq_some_iff] at hr
    obtain ⟨-, -, name', hname', hok⟩ := hr
    rw [← Json.string.inj hname', h] at hok
    exact absurd hok (by simp)

/-- **An item is refused exactly when it is faulty.** -/
theorem ofJson?_eq_none_iff : ofJson? item = none ↔ Faulty item := by
  refine ⟨fun h => ?_, Faulty.ofJson?_eq_none⟩
  rcases exists_denotes_or_faulty item with ⟨r, hr⟩ | hfaulty
  · rw [ofJson?_eq_some_iff.2 hr] at h
    exact absurd h (by simp)
  · exact hfaulty

/-! ### Writing a rule -/

/-- What is written for a rule stands for it. -/
theorem denotes_toJson (r : Rule) : Denotes r.toJson r := by
  -- a category is written by its spelling, which is one of its names
  refine ⟨r.category.spelling, ?_, Category.parse_spelling r.category⟩
  exact .object ⟨by simp, rfl⟩ ⟨by simp, rfl⟩ ⟨by simp [Category.toJson], rfl⟩

/-- Every rule is read back from what was written for it. -/
@[simp] theorem ofJson?_toJson (r : Rule) : ofJson? r.toJson = some r :=
  ofJson?_eq_some_iff.2 (denotes_toJson r)

end Rule

/-! ### Lists of rules -/

section Lists

variable {α β : Type} {f : α → Option β}

/-- A list is read when each of its items is. -/
theorem mapM_eq_some_iff {xs : List α} {ys : List β} :
    xs.mapM f = some ys ↔ List.Forall₂ (fun x y => f x = some y) xs ys := by
  induction xs generalizing ys with
  | nil => simp [eq_comm]
  | cons x xs ih =>
    simp only [List.mapM_cons, Option.pure_def, Option.bind_eq_bind, Option.bind_eq_some_iff,
      Option.some.injEq, ih, List.forall₂_cons_left_iff]
    constructor
    · rintro ⟨y, hy, ys', hys, rfl⟩
      exact ⟨y, ys', hy, hys, rfl⟩
    · rintro ⟨y, ys', hy, hys, rfl⟩
      exact ⟨y, hy, ys', hys, rfl⟩

/-- One item that cannot be read spoils the list. -/
theorem mapM_eq_none_iff {xs : List α} : xs.mapM f = none ↔ ∃ x ∈ xs, f x = none := by
  induction xs with
  | nil => simp
  | cons x xs ih =>
    rw [List.mapM_cons]
    cases hx : f x with
    | none => simp [hx]
    | some y =>
      cases hxs : xs.mapM f with
      | none => simpa [hx] using ih.1 hxs
      | some ys =>
        -- the rest could be read, so that nothing in it is at fault
        have hall : ¬∃ x ∈ xs, f x = none := fun h => absurd (ih.2 h) (by simp [hxs])
        simpa [hx] using hall

end Lists

namespace RuleSet

variable {j j' : Json} {rs : RuleSet}

/-- **A list is read item by item,** in its order. -/
theorem ofJson?_eq_some_iff :
    ofJson? j = some rs ↔ ∃ items, j = .array items ∧ List.Forall₂ Rule.Denotes items rs := by
  have hdenotes : (fun item r => Rule.ofJson? item = some r) = Rule.Denotes := by
    funext item r
    exact propext Rule.ofJson?_eq_some_iff
  cases j with
  | array items => simp [ofJson?, mapM_eq_some_iff, hdenotes]
  | null | bool | number | string | object => simp [ofJson?]

/-- A list is refused when one of its items is faulty. -/
theorem ofJson?_array_eq_none_iff {items : List Json} :
    ofJson? (.array items) = none ↔ ∃ item ∈ items, Rule.Faulty item := by
  simp only [ofJson?, mapM_eq_none_iff, Rule.ofJson?_eq_none_iff]

/-- Every list is read back from what was written for it. -/
@[simp] theorem ofJson?_toJson (rs : RuleSet) : ofJson? rs.toJson = some rs := by
  rw [ofJson?_eq_some_iff]
  refine ⟨_, rfl, ?_⟩
  rw [List.forall₂_map_left_iff, List.forall₂_same]
  exact fun r _ => r.denotes_toJson

/-- **The normal form of a value:** what is written for the rules that are read off it. -/
def normal? (j : Json) : Option Json := (ofJson? j).map toJson

theorem normal?_toJson (rs : RuleSet) : normal? rs.toJson = some rs.toJson := by simp [normal?]

/-- **Rules survive JSON.** What was written is read back, with all rules in their order. The normal
form of a value that was read, in whatever spelling, is read as the same rules and is its own normal
form. A list is read as a whole, with one rule for each item, and it is refused exactly when some
item is faulty. -/
theorem json_round_trip :
    (∀ rs : RuleSet, ofJson? rs.toJson = some rs) ∧
    (∀ j rs, ofJson? j = some rs →
      normal? j = some rs.toJson ∧ ofJson? rs.toJson = some rs ∧
        normal? rs.toJson = some rs.toJson) ∧
    (∀ j rs, ofJson? j = some rs ↔
      ∃ items, j = .array items ∧ List.Forall₂ Rule.Denotes items rs) ∧
    ∀ items, ofJson? (.array items) = none ↔ ∃ item ∈ items, Rule.Faulty item := by
  refine ⟨ofJson?_toJson, ?_, fun _ _ => ofJson?_eq_some_iff, fun _ => ofJson?_array_eq_none_iff⟩
  intro j rs h
  exact ⟨by rw [normal?, h, Option.map_some], ofJson?_toJson rs, normal?_toJson rs⟩

/-- A list with one rule as an object and one as an array, and the same list with a category in it
that there is not. -/
theorem json_round_trip_of_two_spellings :
    let video : Json := .object [("category", .string " Other_RESOURCE\u00A0"), ("note", .null),
      ("attribute", .string "data-poster"), ("element", .string "video")]
    let image : Json := .array [.string "div", .string "data-src", .string "IMAGE"]
    let font : Json := .array [.string "div", .string "data-font", .string "font"]
    let rs : RuleSet := [⟨"video", "data-poster", .otherResource⟩, ⟨"div", "data-src", .image⟩]
    ofJson? (.array [video, image]) = some rs ∧
      (normal? (.array [video, image]) = some rs.toJson ∧ ofJson? rs.toJson = some rs ∧
        normal? rs.toJson = some rs.toJson) ∧
      ofJson? (.array [video, font, image]) = none := by
  intro video image font rs
  have hread : ofJson? (.array [video, image]) = some rs := by decide +kernel
  have hfont : Rule.Faulty font := .unknown .array (by decide +kernel)
  obtain ⟨-, hback, -, hfaulty⟩ := json_round_trip
  exact ⟨hread, hback _ rs hread, (hfaulty _).2 ⟨font, by simp, hfont⟩⟩

end RuleSet

end Html

end PageScan
