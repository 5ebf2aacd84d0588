import Mathlib.Data.List.Forall2
import PageScan.CommandLine.Attribute
import PageScan.Proofs.Html.Precedence

/-!
# Elements from the command line

Arguments are read one by one, and the attributes that they stand for make up the element. Two
questions are asked on the way. Does each argument name an attribute? The first that does not ends
the reading, and the error carries it (`NamesNone`). Is the name one of the tainted names? Then the
value is kept as it is written and means nothing (`StandsFor`). Both questions are about the name as
it was read, without the blanks around it.

`readArgument` is one step of the reading, and the two lemmas on `List.mapM` say what becomes of a
whole list of arguments. Since a classification finds clean attributes only, no attribute of a
tainted name is ever found (`elementOfArguments_taints`).
-/

namespace PageScan.CommandLine

open Text Html

/-! ### What an argument stands for -/

/-- **An argument that names no attribute:** what is left of its name without the blanks around it
is empty, or holds a blank. -/
def NamesNone (arg : String) : Prop :=
  namePart arg.toList = [] ∨ ∃ c ∈ namePart arg.toList, isBlank c = true

theorem isAttributeName_iff (arg : String) :
    isAttributeName (namePart arg.toList) = true ↔ ¬NamesNone arg := by
  simp [isAttributeName, NamesNone]

-- decided by the check itself, and not by a search through all characters
instance (arg : String) : Decidable (NamesNone arg) :=
  decidable_of_iff (¬isAttributeName (namePart arg.toList) = true)
    ((isAttributeName_iff arg).not.trans not_not)

/-- Whether a name is one of the tainted names. -/
def IsTaintedName (tainted : List String) (name : String) : Prop :=
  ∃ t ∈ tainted, sameName t name = true

/-- **The attribute that stands for an argument.** It has the name that was read. It is tainted when
that name is, and then it has no meaning, and the value read, or an empty one, as its raw value;
otherwise the value read, if there is one, is both what is written and what it means. -/
structure StandsFor (tainted : List String) (parsed : AttributeArgument) (a : Attribute) :
    Prop where
  name : a.name = parsed.name
  isTainted_iff : a.isTainted = true ↔ IsTaintedName tainted parsed.name
  ofTainted : a.isTainted = true → a.decoded? = none ∧ a.raw? = some (parsed.value?.getD "")
  ofClean : a.isTainted = false → a.raw? = parsed.value? ∧ a.decoded? = parsed.value?

/-- **Attributes that stand for arguments,** one for each and in their order. -/
def StandInOrder (tainted args : List String) (attributes : List Attribute) : Prop :=
  List.Forall₂ (fun arg a => ∃ parsed, AttributeArgument.parse arg = .ok parsed ∧
    StandsFor tainted parsed a) args attributes

variable {tainted : List String}

/-- An argument that names no attribute is reported as it is. -/
theorem parse_of_namesNone {arg : String} (h : NamesNone arg) :
    AttributeArgument.parse arg = .error ⟨arg⟩ := by
  rw [AttributeArgument.parse, if_neg fun hname => (isAttributeName_iff arg).1 hname h]

/-- Any other argument is read. -/
theorem exists_parse_of_not_namesNone {arg : String} (h : ¬NamesNone arg) :
    ∃ parsed, AttributeArgument.parse arg = .ok parsed := by
  rw [AttributeArgument.parse, if_pos ((isAttributeName_iff arg).2 h)]
  exact ⟨_, rfl⟩

theorem any_sameName_iff {name : String} :
    tainted.any (sameName · name) = true ↔ IsTaintedName tainted name := by
  rw [List.any_eq_true, IsTaintedName]

/-- The attribute that is made of an argument stands for it. -/
theorem standsFor_toAttribute (tainted : List String) (parsed : AttributeArgument) :
    StandsFor tainted parsed (parsed.toAttribute tainted) := by
  unfold AttributeArgument.toAttribute
  by_cases htainted : IsTaintedName tainted parsed.name
  · rw [if_pos (any_sameName_iff.2 htainted)]
    -- its value has no meaning, and so nothing is to be said of a clean one
    have htrue : Attribute.isTainted ⟨parsed.name, .tainted (parsed.value?.getD "")⟩ = true := rfl
    exact ⟨rfl, iff_of_true htrue htainted, fun _ => ⟨rfl, rfl⟩,
      fun h => absurd (htrue.symm.trans h) (by simp)⟩
  · -- a clean attribute has one value for both, or none
    rw [if_neg (mt any_sameName_iff.1 htainted)]
    cases hvalue : parsed.value? with
    | some value =>
      have hfalse : (Attribute.plain parsed.name value).isTainted = false := rfl
      exact ⟨rfl, iff_of_false (Bool.eq_false_iff.1 hfalse) htainted,
        fun h => absurd (hfalse.symm.trans h) (by simp), fun _ => ⟨hvalue.symm, hvalue.symm⟩⟩
    | none =>
      have hfalse : Attribute.isTainted ⟨parsed.name, .absent⟩ = false := rfl
      exact ⟨rfl, iff_of_false (Bool.eq_false_iff.1 hfalse) htainted,
        fun h => absurd (hfalse.symm.trans h) (by simp), fun _ => ⟨hvalue.symm, hvalue.symm⟩⟩

/-! ### All arguments -/

/-- One argument on its way into the element. -/
def readArgument (tainted : List String) (arg : String) : Except InvalidAttribute Attribute :=
  (AttributeArgument.parse arg).map (·.toAttribute tainted)

/-- The element has the attributes that the arguments are read as, one by one. -/
theorem elementOfArguments_eq (tag : String) (args tainted : List String) :
    elementOfArguments tag args tainted =
      (args.mapM (readArgument tainted)).map fun attributes => ⟨tag, attributes⟩ := by
  rfl

theorem readArgument_of_parse {arg : String} {parsed : AttributeArgument}
    (h : AttributeArgument.parse arg = .ok parsed) :
    readArgument tainted arg = .ok (parsed.toAttribute tainted) := by
  rw [readArgument, h]
  rfl

theorem readArgument_of_namesNone {arg : String} (h : NamesNone arg) :
    readArgument tainted arg = .error ⟨arg⟩ := by
  rw [readArgument, parse_of_namesNone h]
  rfl

theorem mapM_cons_of_error {arg : String} {e : InvalidAttribute}
    (h : readArgument tainted arg = .error e) (args : List String) :
    (arg :: args).mapM (readArgument tainted) = .error e := by
  rw [List.mapM_cons, h]
  rfl

/-- Behind an argument that was read the others are read. -/
theorem mapM_cons_of_ok {arg : String} {a : Attribute} (h : readArgument tainted arg = .ok a)
    (args : List String) :
    (arg :: args).mapM (readArgument tainted) =
      (args.mapM (readArgument tainted)).map (a :: ·) := by
  rw [List.mapM_cons, h]
  rfl

/-- The reading ends at the first argument that names no attribute. -/
theorem mapM_readArgument_of_find? {args : List String} {arg : String}
    (h : args.find? (NamesNone ·) = some arg) :
    args.mapM (readArgument tainted) = .error ⟨arg⟩ := by
  induction args with
  | nil => exact absurd h (by simp)
  | cons first args ih =>
    -- the first argument is the one that was found, or it names an attribute and the search goes on
    by_cases hfirst : NamesNone first
    · rw [List.find?_cons_of_pos (by simpa using hfirst)] at h
      obtain rfl := Option.some.inj h
      exact mapM_cons_of_error (readArgument_of_namesNone hfirst) args
    · rw [List.find?_cons_of_neg (by simpa using hfirst)] at h
      obtain ⟨parsed, hparsed⟩ := exists_parse_of_not_namesNone hfirst
      rw [mapM_cons_of_ok (readArgument_of_parse hparsed), ih h]
      rfl

/-- Where each argument names an attribute, all of them are read. -/
theorem exists_mapM_readArgument (tainted : List String) {args : List String}
    (h : ∀ arg ∈ args, ¬NamesNone arg) :
    ∃ attributes, args.mapM (readArgument tainted) = .ok attributes ∧
      StandInOrder tainted args attributes := by
  induction args with
  | nil => exact ⟨[], rfl, .nil⟩
  | cons first args ih =>
    obtain ⟨hfirst, hargs⟩ := List.forall_mem_cons.1 h
    obtain ⟨attributes, hmap, hall⟩ := ih hargs
    obtain ⟨parsed, hparsed⟩ := exists_parse_of_not_namesNone hfirst
    -- the attribute of the first argument in front of those of the others
    refine ⟨parsed.toAttribute tainted :: attributes, ?_, .cons ?_ hall⟩
    · rw [mapM_cons_of_ok (readArgument_of_parse hparsed), hmap]
      rfl
    · exact ⟨parsed, hparsed, standsFor_toAttribute tainted parsed⟩

/-- Among attributes that stand for arguments the clean ones have no tainted name. -/
theorem StandInOrder.not_isTaintedName {args : List String} {attributes : List Attribute}
    (h : StandInOrder tainted args attributes) :
    ∀ a ∈ attributes, a.isTainted = false → ¬IsTaintedName tainted a.name := by
  induction h with
  | nil => simp
  | cons hfirst _ ih =>
    intro a ha hclean
    rcases List.mem_cons.1 ha with rfl | ha
    · obtain ⟨parsed, -, hstands⟩ := hfirst
      -- it is tainted if and only if its name is
      rw [hstands.name, ← hstands.isTainted_iff, hclean]
      exact Bool.false_ne_true
    · exact ih a ha hclean

/-- **Elements from the command line.** The reading fails exactly when an argument names no
attribute, and the error carries the first such argument. Otherwise there is an element with the
given tag, whose attributes stand for the arguments in their order; and whatever the rules are, no
attribute of a tainted name is found in it. -/
theorem elementOfArguments_taints (tag : String) (args tainted : List String) :
    ((∃ e, elementOfArguments tag args tainted = .error e) ↔ ∃ arg ∈ args, NamesNone arg) ∧
      (∀ e, elementOfArguments tag args tainted = .error e →
        args.find? (NamesNone ·) = some e.argument) ∧
      ((∀ arg ∈ args, ¬NamesNone arg) →
        ∃ element, elementOfArguments tag args tainted = .ok element ∧ element.name = tag ∧
          StandInOrder tainted args element.attributes ∧
          ∀ rules s, (element.classify rules).slot? = some s →
            ¬IsTaintedName tainted s.attr.name) := by
  rw [elementOfArguments_eq]
  cases hfirst : args.find? (NamesNone ·) with
  | some arg =>
    have hnone : NamesNone arg := by simpa using List.find?_some hfirst
    -- the search found an argument, and with it the error
    have hmem : arg ∈ args := List.mem_of_find?_eq_some hfirst
    rw [mapM_readArgument_of_find? hfirst]
    refine ⟨iff_of_true ⟨_, rfl⟩ ⟨arg, hmem, hnone⟩, ?_, ?_⟩
    · intro e he
      rw [← Except.error.inj he]
    · intro hall
      exact absurd hnone (hall arg hmem)
  | none =>
    -- nothing was found, so each argument names an attribute
    have hall : ∀ arg ∈ args, ¬NamesNone arg := by simpa using hfirst
    obtain ⟨attributes, hmap, hstand⟩ := exists_mapM_readArgument tainted hall
    rw [hmap]
    refine ⟨iff_of_false ?_ ?_, ?_, fun _ => ⟨⟨tag, attributes⟩, rfl, rfl, hstand, ?_⟩⟩
    · -- what was read is no error
      rintro ⟨e, he⟩
      exact absurd he (by simp [Except.map])
    · rintro ⟨arg, hmem, hnone⟩
      exact hall arg hmem hnone
    · intro e he
      exact absurd he (by simp [Except.map])
    · -- what is found is clean, and therefore of no tainted name
      intro rules s hs
      obtain ⟨hget, hclean, -⟩ := Element.sound_of_slot?_classify hs
      exact hstand.not_isTaintedName s.attr (List.mem_of_getElem? hget) hclean

/-- The first source is tainted, whatever its case, and so is not found by any rules; the blanks
around the second name are no part of it. -/
theorem taints_image_source :
    (∀ arg ∈ ["src=%zz", " data-src =ok.png", "Async"], ¬NamesNone arg) ∧
      ∃ element,
        elementOfArguments "img" ["src=%zz", " data-src =ok.png", "Async"] ["SRC", "async"] =
            .ok element ∧
          ∀ rules s, (element.classify rules).slot? = some s →
            ¬IsTaintedName ["SRC", "async"] s.attr.name := by
  have hall : ∀ arg ∈ ["src=%zz", " data-src =ok.png", "Async"], ¬NamesNone arg := by
    decide +kernel
  obtain ⟨element, hok, -, -, hclean⟩ :=
    (elementOfArguments_taints "img" ["src=%zz", " data-src =ok.png", "Async"]
      ["SRC", "async"]).2.2 hall
  exact ⟨hall, element, hok, hclean⟩

end PageScan.CommandLine
