import PageScan.Proofs.Html.Selection

/-!
# Attributes that nothing looks for

A classification looks for attributes by name: for the one that HTML offers, for `rel` of a link and
`type` of an input, and for those that the rules of the element name. An attribute of any other name
is overlooked (`Element.Overlooks`), whatever its value is and whether it is tainted. When it is put
into an element, at the front, at the end or in between, the element refers to the same resource as
before, and what stood behind the new attribute has moved on by one position.

Each search of the classification passes over the new attribute: one lemma for each, in the order in
which they call one another. The last of them is `slot?_classify_insert`.
-/

namespace PageScan.Html

open Text

/-- Where an item stands when another has been put in: one further on, unless it stands in front. -/
def movedPosition (i j : Nat) : Nat := if j < i then j else j + 1

/-- The slot when an attribute has been put in at a position. -/
def ResourceSlot.moved (i : Nat) (s : ResourceSlot) : ResourceSlot :=
  { s with position := movedPosition i s.position }

/-- The verdict when an attribute has been put in at a position. Nothing noted names a position. -/
def Verdict.moved (i : Nat) (v : Verdict) : Verdict := { v with slot? := v.slot?.map (·.moved i) }

/-- **The element with one more attribute** at a position. Behind the end of the list there is no
position, and nothing is put in. -/
def Element.insert (e : Element) (i : Nat) (x : Attribute) : Element :=
  { e with attributes := e.attributes.insertIdx i x }

/-- **Overlooked:** no search of the classification is for an attribute of this name. An input that
is no image offers nothing, so that even `src` is overlooked there. -/
structure Element.Overlooks (e : Element) (rules : Option RuleSet) (x : Attribute) : Prop where
  offered : ∀ name category, e.Offers name category → x.hasName name = false
  rel : e.tag = .link → x.hasName "rel" = false
  type : e.tag = .input → x.hasName "type" = false
  ruled : ∀ r ∈ rules.getD [], sameName e.name r.elementName = true →
    x.hasName r.attributeName = false

/-! ### Searches that pass over an item -/

section Search

variable {α β : Type} {p : α → Bool} {x : α}

theorem findIdx?_insertIdx (hx : p x = false) (l : List α) (i : Nat) :
    (l.insertIdx i x).findIdx? p = (l.findIdx? p).map (movedPosition i) := by
  induction l generalizing i with
  | nil =>
    cases i with
    | zero => rw [List.insertIdx_zero, List.findIdx?_cons, hx]; rfl
    | succ i => rfl
  | cons a l ih =>
    cases i with
    | zero =>
      -- the whole list stands behind the new item
      rw [List.insertIdx_zero, List.findIdx?_cons, hx, if_neg Bool.false_ne_true]
      rfl
    | succ i =>
      -- the head stays in front, and the new item goes into the rest of the list
      rw [List.insertIdx_succ_cons, List.findIdx?_cons, List.findIdx?_cons, ih]
      split
      · rfl
      · rw [Option.map_map, Option.map_map]
        congr 1
        funext j
        simp only [Function.comp_apply, movedPosition]
        split_ifs <;> omega

theorem find?_insertIdx (hx : p x = false) (l : List α) (i : Nat) :
    (l.insertIdx i x).find? p = l.find? p := by
  induction l generalizing i with
  | nil =>
    cases i with
    | zero => rw [List.insertIdx_zero, List.find?_cons_of_neg (by simp [hx])]
    | succ i => rfl
  | cons a l ih =>
    cases i with
    | zero => rw [List.insertIdx_zero, List.find?_cons_of_neg (by simp [hx])]
    | succ i => rw [List.insertIdx_succ_cons, List.find?_cons, List.find?_cons, ih]

/-- At the moved position stands the item that was there before. -/
theorem getElem?_insertIdx_movedPosition (l : List α) (i j : Nat) :
    (l.insertIdx i x)[movedPosition i j]? = l[j]? := by
  rw [List.getElem?_insertIdx, movedPosition]
  split_ifs <;> first | rfl | omega

theorem findSome?_congr {f g : α → Option β} {l : List α} (h : ∀ a ∈ l, f a = g a) :
    l.findSome? f = l.findSome? g := by
  induction l with
  | nil => rfl
  | cons a l ih =>
    rw [List.findSome?_cons, List.findSome?_cons, h a List.mem_cons_self,
      ih fun b hb => h b (List.mem_cons_of_mem a hb)]

end Search

/-! ### The searches of a classification -/

namespace Element

variable {e : Element} {rules : Option RuleSet} {x : Attribute}

/-- The slot moves with its attribute. -/
theorem slot?_insert {p : Attribute → Bool} (hx : p x = false) (i : Nat) (category : Category) :
    (e.insert i x).slot? p category = (e.slot? p category).map (·.moved i) := by
  rw [slot?, slot?, insert, findIdx?_insertIdx hx]
  cases e.attributes.findIdx? p with
  | none => rfl
  | some j =>
    rw [Option.map_some, Option.bind_some, Option.bind_some, getElem?_insertIdx_movedPosition,
      Option.map_map]
    rfl

theorem value?_insert {name : String} (hx : x.hasName name = false) (i : Nat) :
    (e.insert i x).value? name = e.value? name := by
  rw [value?, value?, insert, find?_insertIdx (p := fun a : Attribute => a.hasName name) hx]

/-- HTML offers the same as before. -/
theorem builtin?_insert (h : e.Overlooks rules x) (i : Nat) :
    (e.insert i x).builtin? = e.builtin? := by
  -- the tag is the same, and a value counts for two tags only
  have htag : (e.insert i x).tag = e.tag := rfl
  unfold builtin?
  rw [htag]
  cases hcase : e.tag with
  | link =>
    change some ("href", linkCategory _) = some ("href", linkCategory _)
    rw [value?_insert (h.rel hcase)]
  | input =>
    change (if _ then _ else _) = (if _ then _ else _)
    rw [value?_insert (h.type hcase)]
  | _ => rfl

/-- The built-in slot moves with its attribute. -/
theorem builtinSlot?_insert (h : e.Overlooks rules x) (i : Nat) :
    (e.insert i x).builtinSlot? = e.builtinSlot?.map (·.moved i) := by
  rw [builtinSlot?, builtinSlot?, builtin?_insert h]
  cases hoffer : e.builtin? with
  | none => rfl
  | some offer => exact slot?_insert (h.offered _ _ (builtin?_eq_some_iff.1 hoffer)) i offer.2

/-- The slot of a rule moves with its attribute. -/
theorem ruleSlot?_insert (h : e.Overlooks rules x) {r : Rule} (hr : r ∈ rules.getD []) (i : Nat) :
    (e.insert i x).ruleSlot? r = (e.ruleSlot? r).map (·.moved i) := by
  have hname : (e.insert i x).name = e.name := rfl
  rw [ruleSlot?, ruleSlot?, hname]
  split
  · -- only a rule for this element could be for the new attribute
    next helement =>
    refine slot?_insert ?_ i r.category
    rw [h.ruled r hr helement, Bool.false_and]
  · rfl

/-- The same rule decides, and its slot has moved. -/
theorem firstRule?_insert (h : e.Overlooks rules x) (i : Nat) :
    (e.insert i x).firstRule? (rules.getD []) =
      (e.firstRule? (rules.getD [])).map fun p => (p.1, p.2.moved i) := by
  rw [firstRule?, firstRule?, List.map_findSome?]
  -- each rule gives its slot, moved, and keeps its index
  refine findSome?_congr ?_
  rintro ⟨r, k⟩ hr
  have hslot := ruleSlot?_insert h (List.fst_mem_of_mem_zipIdx hr) i
  dsimp only [Function.comp_apply] at hslot ⊢
  rw [hslot, Option.map_map, Option.map_map]
  rfl

theorem accept_insert (e : Element) (i : Nat) (x : Attribute) (s : ResourceSlot) :
    (e.insert i x).accept (s.moved i) = (e.accept s).moved i := by
  have hsound : (s.moved i).isSound = s.isSound := rfl
  rw [accept, accept, hsound]
  split <;> rfl

/-- What the rules decide moves with the attribute, and so does what the candidate comes to. -/
theorem classifyByRules_insert (h : e.Overlooks rules x) (i : Nat)
    (candidate : Option ResourceSlot) :
    (e.insert i x).classifyByRules (rules.getD []) (candidate.map (·.moved i)) =
      (e.classifyByRules (rules.getD []) candidate).moved i := by
  unfold classifyByRules
  rw [firstRule?_insert h]
  cases e.firstRule? (rules.getD []) with
  | some p =>
    dsimp only [Option.map_some]
    rw [accept_insert]
    rfl
  | none =>
    cases candidate with
    | some s => exact accept_insert e i x s
    | none => rfl

/-- The whole verdict is the same, apart from the position. -/
theorem classify_insert (h : e.Overlooks rules x) (i : Nat) :
    (e.insert i x).classify rules = (e.classify rules).moved i := by
  unfold classify
  rw [builtinSlot?_insert h]
  cases e.builtinSlot? with
  | none => exact classifyByRules_insert h i none
  | some s =>
    -- the built-in slot is the same attribute as before, tainted or not
    have htainted : (s.moved i).attr.isTainted = s.attr.isTainted := rfl
    dsimp only [Option.map_some]
    rw [htainted]
    split
    · exact classifyByRules_insert h i (some s)
    · exact accept_insert e i x s

end Element

/-- **An attribute that is overlooked is transparent.** Wherever it is put in, the element refers to
the same resource through the same attribute, or to none as before. -/
theorem slot?_classify_insert {e : Element} {rules : Option RuleSet} {x : Attribute}
    (h : e.Overlooks rules x) (i : Nat) :
    ((e.insert i x).classify rules).slot? = (e.classify rules).slot?.map (·.moved i) := by
  rw [Element.classify_insert h]
  rfl

/-- An image button whose first `src` is tainted and whose second one a rule names. A tainted `alt`
is put in between, which a rule names for another element. -/
theorem slot?_classify_insert_alt :
    let e : Element :=
      ⟨"input", [.plain "type" "IMAGE", ⟨"src", .tainted "%"⟩, .plain "SRC" "b.png"]⟩
    let rules : Option RuleSet := some [⟨"a", "alt", .image⟩, ⟨"input", "src", .script⟩]
    let x : Attribute := ⟨"alt", .tainted "&"⟩
    e.Overlooks rules x ∧
      (e.classify rules).slot? = some ⟨2, .plain "SRC" "b.png", .script⟩ ∧
      ((e.insert 1 x).classify rules).slot? = some ⟨3, .plain "SRC" "b.png", .script⟩ := by
  intro e rules x
  have hoverlooks : e.Overlooks rules x := by
    refine ⟨fun name category hoffer => ?_, fun _ => by decide +kernel, fun _ => by decide +kernel,
      by decide +kernel⟩
    -- an image button offers its `src`, and that is no name of the new attribute
    have hbuiltin : e.builtin? = some ("src", .image) := by decide +kernel
    rw [← Element.builtin?_eq_some_iff, hbuiltin] at hoffer
    obtain ⟨rfl, -⟩ := Prod.mk.inj (Option.some.inj hoffer)
    decide +kernel
  have hslot : (e.classify rules).slot? = some ⟨2, .plain "SRC" "b.png", .script⟩ := by
    decide +kernel
  refine ⟨hoverlooks, hslot, ?_⟩
  rw [slot?_classify_insert hoverlooks 1, hslot]
  rfl

end PageScan.Html
