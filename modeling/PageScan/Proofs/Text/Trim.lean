import Mathlib.Data.List.DropRight
import PageScan.Text.Blank

/-!
# Trimmed texts

Trimming takes the blanks off both ends of a text and leaves those inside. Here this is said without
the function: a text is blanks, what is left of it, and blanks again, where what is left neither
starts nor ends with a blank (`TrimsTo`). There is one way to part a text so, and `trim` finds it
(`trim_eq_iff`).
-/

namespace PageScan.Text

/-- Nothing but blanks. -/
def AllBlank (cs : List Char) : Prop := ∀ c ∈ cs, isBlank c = true

/-- **A trimmed text** neither starts nor ends with a blank. -/
structure IsTrimmed (cs : List Char) : Prop where
  head : ∀ c ∈ cs.head?, isBlank c = false
  last : ∀ c ∈ cs.getLast?, isBlank c = false

/-- **What trimming leaves of a text.** -/
inductive TrimsTo : List Char → List Char → Prop
  | intro {before text after : List Char} (hbefore : AllBlank before) (htext : IsTrimmed text)
      (hafter : AllBlank after) : TrimsTo (before ++ text ++ after) text

/-- A text without blanks is trimmed. -/
theorem isTrimmed_of_forall {cs : List Char} (h : ∀ c ∈ cs, isBlank c = false) : IsTrimmed cs :=
  ⟨fun c hc => h c (List.mem_of_head? hc), fun c hc => h c (List.mem_of_getLast? hc)⟩

/-- Trimming leaves all of a trimmed text. -/
theorem IsTrimmed.trimsTo {cs : List Char} (h : IsTrimmed cs) : TrimsTo cs cs := by
  have hnil : AllBlank [] := fun c hc => absurd hc List.not_mem_nil
  have htrims := TrimsTo.intro hnil h hnil
  rwa [List.nil_append, List.append_nil] at htrims

/-- More blanks around a text leave the same of it. -/
theorem TrimsTo.pad {before cs text after : List Char} (h : TrimsTo cs text)
    (hbefore : AllBlank before) (hafter : AllBlank after) :
    TrimsTo (before ++ cs ++ after) text := by
  cases h with
  | @intro before' text after' hbefore' htext hafter' =>
    -- the blanks that are put around go with those that were there
    have houter : AllBlank (before ++ before') := List.forall_mem_append.2 ⟨hbefore, hbefore'⟩
    have hinner : AllBlank (after' ++ after) := List.forall_mem_append.2 ⟨hafter', hafter⟩
    have htrims := TrimsTo.intro houter htext hinner
    simpa only [List.append_assoc] using htrims

theorem TrimsTo.isTrimmed {cs text : List Char} (h : TrimsTo cs text) : IsTrimmed text := by
  cases h with
  | intro _ htext _ => exact htext

/-! ### One end -/

/-- Blanks in front do not matter to what is left behind them. -/
theorem trimStart_append {before : List Char} (h : AllBlank before) (cs : List Char) :
    trimStart (before ++ cs) = trimStart cs := List.dropWhile_append_of_pos h

theorem trimStart_of_allBlank {cs : List Char} (h : AllBlank cs) : trimStart cs = [] :=
  List.dropWhile_eq_nil_iff.2 h

/-- What is left does not start with a blank. -/
theorem head?_trimStart (cs : List Char) : ∀ c ∈ (trimStart cs).head?, isBlank c = false := by
  intro c hc
  have hstop := List.head?_dropWhile_not isBlank cs
  rw [show (cs.dropWhile isBlank).head? = some c from hc] at hstop
  simpa using hstop

/-- A text that does not start with a blank is left as it is. -/
theorem trimStart_eq_self {cs : List Char} (h : ∀ c ∈ cs.head?, isBlank c = false) :
    trimStart cs = cs := by
  cases cs with
  | nil => rfl
  | cons c cs => exact List.dropWhile_cons_of_neg (by simp [h c rfl])

/-- The end of a text is the start of the reversed text. -/
theorem trimEnd_eq_reverse (cs : List Char) : trimEnd cs = (trimStart cs.reverse).reverse := rfl

theorem trimEnd_append {after : List Char} (h : AllBlank after) (cs : List Char) :
    trimEnd (cs ++ after) = trimEnd cs := by
  have hreverse : AllBlank after.reverse := fun c hc => h c (List.mem_reverse.1 hc)
  rw [trimEnd_eq_reverse, List.reverse_append, trimStart_append hreverse, trimEnd_eq_reverse]

theorem getLast?_trimEnd (cs : List Char) : ∀ c ∈ (trimEnd cs).getLast?, isBlank c = false := by
  rw [trimEnd_eq_reverse, List.getLast?_reverse]
  exact head?_trimStart cs.reverse

theorem trimEnd_eq_self {cs : List Char} (h : ∀ c ∈ cs.getLast?, isBlank c = false) :
    trimEnd cs = cs := by
  rw [← List.head?_reverse] at h
  rw [trimEnd_eq_reverse, trimStart_eq_self h, List.reverse_reverse]

/-! ### Both ends -/

/-- There is one way to trim a text. -/
theorem TrimsTo.trim_eq {cs text : List Char} (h : TrimsTo cs text) : trim cs = text := by
  cases h with
  | @intro before text after hbefore htext hafter =>
    rw [trim, List.append_assoc, trimStart_append hbefore]
    cases text with
    | nil => rw [List.nil_append, trimStart_of_allBlank hafter, trimEnd_nil]
    | cons c text =>
      -- the first character is the same with the blanks behind the text and without them
      have hstart : trimStart (c :: text ++ after) = c :: text ++ after :=
        trimStart_eq_self htext.head
      rw [hstart, trimEnd_append hafter, trimEnd_eq_self htext.last]

/-- What is left, and the blanks that were taken off, are the text. -/
theorem trimsTo_trim (cs : List Char) : TrimsTo cs (trim cs) := by
  -- the blanks at the front, what is left, and the blanks at the end of what the first cut left
  have hparts : cs.takeWhile isBlank ++ trim cs ++ (trimStart cs).rtakeWhile isBlank = cs := by
    calc cs.takeWhile isBlank ++ trim cs ++ (trimStart cs).rtakeWhile isBlank
        = cs.takeWhile isBlank ++
            ((trimStart cs).rdropWhile isBlank ++ (trimStart cs).rtakeWhile isBlank) :=
          List.append_assoc ..
      _ = cs.takeWhile isBlank ++ cs.dropWhile isBlank := by
          rw [List.rdropWhile_append_rtakeWhile, trimStart]
      _ = cs := List.takeWhile_append_dropWhile
  have htrimmed : IsTrimmed (trim cs) := by
    refine ⟨?_, getLast?_trimEnd (trimStart cs)⟩
    intro c hc
    -- what is left begins as the text does behind its first blanks
    obtain ⟨u, hu⟩ : trim cs <+: trimStart cs := List.rdropWhile_prefix isBlank (trimStart cs)
    apply head?_trimStart cs
    rw [← hu, List.head?_append, Option.mem_def.1 hc, Option.some_or]
    rfl
  have hbefore : AllBlank (cs.takeWhile isBlank) := fun _ hc => List.mem_takeWhile_imp hc
  have hafter : AllBlank ((trimStart cs).rtakeWhile isBlank) :=
    fun _ hc => List.mem_rtakeWhile_imp hc
  have htrims := TrimsTo.intro hbefore htrimmed hafter
  rwa [hparts] at htrims

/-- **What trimming leaves** is what lies between the blanks at the ends. -/
theorem trim_eq_iff {cs text : List Char} : trim cs = text ↔ TrimsTo cs text :=
  ⟨fun h => h ▸ trimsTo_trim cs, TrimsTo.trim_eq⟩

/-- Blanks around a text do not matter. -/
theorem trim_pad {before after : List Char} (hbefore : AllBlank before) (hafter : AllBlank after)
    (cs : List Char) : trim (before ++ cs ++ after) = trim cs :=
  ((trimsTo_trim cs).pad hbefore hafter).trim_eq

/-- A change of characters that makes no blank and unmakes none goes with trimming. -/
theorem trim_map {f : Char → Char} (hf : ∀ c, isBlank (f c) = isBlank c) (cs : List Char) :
    trim (cs.map f) = (trim cs).map f := by
  have hcomp : isBlank ∘ f = isBlank := funext hf
  have hstart (ds : List Char) : trimStart (ds.map f) = (trimStart ds).map f := by
    rw [trimStart, List.dropWhile_map, hcomp, trimStart]
  calc trim (cs.map f)
      = (trimStart ((trimStart cs).map f).reverse).reverse := by
        rw [trim, hstart, trimEnd_eq_reverse]
    _ = ((trimStart (trimStart cs).reverse).map f).reverse := by
        rw [← List.map_reverse, hstart]
    _ = (trim cs).map f := by
        rw [← List.map_reverse, trim, trimEnd_eq_reverse]

theorem trim_trim (cs : List Char) : trim (trim cs) = trim cs :=
  (trimsTo_trim cs).isTrimmed.trimsTo.trim_eq

end PageScan.Text
