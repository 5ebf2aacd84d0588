import Mathlib.Data.List.Forall2
import PageScan.Html.Category
import PageScan.Proofs.Text.LetterCase
import PageScan.Proofs.Text.Trim

/-!
# The names of the categories

A category has one spelling and many names: the spelling with blanks around it, with letters in
either case and with low lines for hyphens. `Names` says this character by character, without the
normal form that `Category.parse` compares. Blanks around it aside, a name is as long as the
spelling: nothing can be put between its characters, left out or written twice.

A normal form forgets which of two `Interchangeable` characters was written, and nothing else
(`normalChar_eq_iff`). A spelling is its own normal form, and the characters interchangeable with
one of its characters are those that may be written for it (`normalChar_eq_iff_writtenFor`), so the
texts read as a category are its names (`ofName?_eq_some_iff`). What makes no difference to a name
is read off the normal forms alone (`normalize_of_padded`). `parse_accepts_names` puts this
together.
-/

namespace PageScan.Html

open Text

namespace Category

variable {a b : Char} {cs spelling : List Char} {s : String} {c : Category}

/-! ### Names -/

/-- **What may be written for a character of a spelling:** the character itself, a letter in its
other case, or a low line for a hyphen. -/
inductive WrittenFor : Char → Char → Prop
  | letter {written spelled : Char} (h : SameButCase written spelled) : WrittenFor written spelled
  | lowLine : WrittenFor '_' '-'

/-- **The texts that name a category:** its spelling, written character by character, with blanks
around it. -/
inductive Names : List Char → Category → Prop
  | intro {cs written : List Char} {c : Category} (htrim : TrimsTo cs written)
      (hwritten : List.Forall₂ WrittenFor written c.spelling.toList) : Names cs c

/-- **Characters that names do not tell apart:** one may be written for the other. -/
def Interchangeable (a b : Char) : Prop := WrittenFor a b ∨ WrittenFor b a

/-! ### Normal forms of characters -/

theorem normalChar_of_ne (ha : a ≠ '_') : normalChar a = a.toLower := if_neg ha

/-- A low line is no letter, and so it has one case. -/
theorem eq_lowLine_of_sameButCase (h : SameButCase a '_') : a = '_' :=
  (toLower_eq_iff (by decide)).1 (toLower_eq_toLower_iff.2 h)

/-- What may be written for a character has the same normal form. -/
theorem WrittenFor.normalChar_eq (h : WrittenFor a b) : normalChar a = normalChar b := by
  cases h with
  | lowLine => rfl
  | letter h =>
    -- of two letters that differ in case neither is the low line, or both are
    by_cases hb : b = '_'
    · subst hb
      rw [eq_lowLine_of_sameButCase h]
    · have ha : a ≠ '_' := by
        rintro rfl
        exact hb (eq_lowLine_of_sameButCase h.symm)
      rw [normalChar_of_ne ha, normalChar_of_ne hb]
      exact toLower_eq_toLower_iff.2 h

/-- The hyphen is the normal form of itself and of the low line. -/
theorem normalChar_eq_hyphen_iff : normalChar a = '-' ↔ a = '_' ∨ a = '-' := by
  by_cases ha : a = '_'
  · simp [ha, normalChar]
  · rw [normalChar_of_ne ha, toLower_eq_iff (by decide), or_iff_right ha]

/-- **Normal forms forget** which of two interchangeable characters was written, and nothing
else. -/
theorem normalChar_eq_iff : normalChar a = normalChar b ↔ Interchangeable a b := by
  constructor
  · intro h
    by_cases ha : a = '_'
    · subst ha
      rcases normalChar_eq_hyphen_iff.1 h.symm with rfl | rfl
      · exact .inl (.letter (.refl _))
      · exact .inl .lowLine
    · by_cases hb : b = '_'
      · subst hb
        obtain rfl : a = '-' := (normalChar_eq_hyphen_iff.1 h).resolve_left ha
        exact .inr .lowLine
      · -- with no low line about, the normal forms are the small letters
        rw [normalChar_of_ne ha, normalChar_of_ne hb] at h
        exact .inl (.letter (toLower_eq_toLower_iff.1 h))
  · rintro (h | h)
    · exact h.normalChar_eq
    · exact h.normalChar_eq.symm

instance (a b : Char) : Decidable (Interchangeable a b) := decidable_of_iff _ normalChar_eq_iff

/-- A character in normal form is the normal form of what may be written for it. -/
theorem normalChar_eq_iff_writtenFor (hnormal : normalChar b = b) :
    normalChar a = b ↔ WrittenFor a b := by
  constructor
  · intro h
    rcases normalChar_eq_iff.1 (h.trans hnormal.symm) with h | h
    · exact h
    · cases h with
      | letter h => exact .letter h.symm
      -- the low line is not in normal form
      | lowLine => exact absurd hnormal (by decide)
  · intro h
    rw [h.normalChar_eq, hnormal]

@[simp] theorem isBlank_normalChar (a : Char) : isBlank (normalChar a) = isBlank a := by
  by_cases ha : a = '_'
  · subst ha
    decide
  · rw [normalChar_of_ne ha, isBlank_toLower]

/-! ### Normal forms of texts -/

/-- A text in normal form is the normal form of what may be written for it, character by character.
-/
theorem map_normalChar_eq_iff (hnormal : ∀ b ∈ spelling, normalChar b = b) :
    cs.map normalChar = spelling ↔ List.Forall₂ WrittenFor cs spelling := by
  induction spelling generalizing cs with
  | nil => rw [List.map_eq_nil_iff, List.forall₂_nil_right_iff]
  | cons b spelling ih =>
    obtain ⟨hb, hspelling⟩ := List.forall_mem_cons.1 hnormal
    cases cs with
    -- the text ends before the spelling does
    | nil => simp
    | cons a cs =>
      rw [List.map_cons, List.cons.injEq, List.forall₂_cons, normalChar_eq_iff_writtenFor hb,
        ih hspelling]

/-- Spellings are made of small letters and hyphens. -/
theorem normalChar_of_mem_spelling (hb : b ∈ c.spelling.toList) : normalChar b = b := by
  have hall : c.spelling.toList.all (fun b => normalChar b == b) = true := by
    cases c <;> decide
  simpa using List.all_eq_true.1 hall b hb

/-- **The texts with the normal form of a spelling** are the names of its category. -/
theorem normalize_eq_spelling_iff : normalize s = c.spelling.toList ↔ Names s.toList c := by
  rw [normalize, map_normalChar_eq_iff fun _ => normalChar_of_mem_spelling]
  constructor
  · intro h
    exact .intro (trimsTo_trim s.toList) h
  · intro h
    -- blanks around the name are not part of its normal form
    obtain ⟨htrim, hwritten⟩ := h
    rwa [htrim.trim_eq]

/-- **Blanks around a text and interchangeable characters in it** make no difference to its normal
form. -/
theorem normalize_of_padded {before text text' after : String} (hbefore : AllBlank before.toList)
    (hafter : AllBlank after.toList)
    (htext : List.Forall₂ Interchangeable text.toList text'.toList) :
    normalize (before ++ text' ++ after) = normalize text := by
  have hnormal : text.toList.map normalChar = text'.toList.map normalChar := by
    rw [← List.forall₂_eq_eq_eq, List.forall₂_map_left_iff, List.forall₂_map_right_iff]
    exact htext.imp fun _ _ h => normalChar_eq_iff.2 h
  calc normalize (before ++ text' ++ after)
      = (trim text'.toList).map normalChar := by
        rw [normalize, String.toList_append, String.toList_append, trim_pad hbefore hafter]
    _ = trim (text.toList.map normalChar) := by
        rw [hnormal, trim_map isBlank_normalChar]
    _ = normalize text := trim_map isBlank_normalChar text.toList

/-! ### Reading -/

/-- No two categories have the same spelling. -/
theorem find?_spelling (c : Category) :
    all.find? (·.spelling.toList == c.spelling.toList) = some c := by
  cases c <;> decide

/-- **A text is read as the category that it names.** -/
theorem ofName?_eq_some_iff : ofName? s = some c ↔ Names s.toList c := by
  rw [← normalize_eq_spelling_iff, ofName?]
  constructor
  · intro h
    -- what was found has the normal form of the text for its spelling
    have hsame := List.find?_some h
    exact (beq_iff_eq.1 hsame).symm
  · intro h
    rw [h, find?_spelling]

theorem ofName?_eq_none_iff : ofName? s = none ↔ ∀ c, ¬Names s.toList c := by
  simp only [Option.eq_none_iff_forall_ne_some, Ne, ofName?_eq_some_iff]

/-- **Names are read exactly.** A text is accepted as a category when it names it and never else;
no text names two categories; a text that names none is refused, and the report carries it as it
stands. So blanks around a text, the case of its letters, and hyphens for low lines or low lines for
hyphens make no difference to what it is accepted as. -/
theorem parse_accepts_names :
    (∀ s c, parse s = .ok c ↔ Names s.toList c) ∧
    (∀ (s : String) c c', Names s.toList c → Names s.toList c' → c = c') ∧
    (∀ s e, parse s = .error e ↔ (∀ c, ¬Names s.toList c) ∧ e.name = s) ∧
    ∀ before text text' after : String, AllBlank before.toList → AllBlank after.toList →
      List.Forall₂ Interchangeable text.toList text'.toList →
      ∀ c, parse (before ++ text' ++ after) = .ok c ↔ parse text = .ok c := by
  refine ⟨?_, ?_, ?_, ?_⟩
  · intro s c
    rw [parse_eq_ok_iff, ofName?_eq_some_iff]
  · intro s c c' hc hc'
    -- both are what the text is read as
    rw [← ofName?_eq_some_iff] at hc hc'
    exact Option.some.inj (hc.symm.trans hc')
  · intro s e
    obtain ⟨name⟩ := e
    rw [parse_eq_error_iff, ofName?_eq_none_iff, UnknownCategory.mk.injEq]
  · intro before text text' after hbefore hafter htext c
    rw [parse_eq_ok_iff, parse_eq_ok_iff, ofName?, ofName?,
      normalize_of_padded hbefore hafter htext]

/-- A name with an ideographic space before it, a line feed behind it, capitals and a low line; and
a text that is a name but for its Kelvin sign. -/
theorem parse_accepts_padded_name :
    parse ("\u3000" ++ "oTHER_Resource" ++ "\n") = .ok otherResource ∧
      Names ("\u3000" ++ "oTHER_Resource" ++ "\n").toList otherResource ∧
      ∀ c, ¬Names "hyperlin\u212a".toList c := by
  obtain ⟨haccepts, -, hrefuses, hsame⟩ := parse_accepts_names
  -- blanks, capitals and the low line make no difference, so that the spelling is read
  have hread : parse ("\u3000" ++ "oTHER_Resource" ++ "\n") = .ok otherResource := by
    rw [hsame "\u3000" "other-resource" "oTHER_Resource" "\n"]
    · exact parse_spelling otherResource
    · simp [AllBlank, isBlank]
    · simp [AllBlank, isBlank]
    · decide
  have hkelvin : parse "hyperlin\u212a" = .error ⟨"hyperlin\u212a"⟩ := by decide +kernel
  exact ⟨hread, (haccepts _ _).1 hread, ((hrefuses _ _).1 hkelvin).1⟩

-- a blank inside a name stands for nothing
example : parse "other resource" = .error ⟨"other resource"⟩ := by decide +kernel

end Category

end PageScan.Html
