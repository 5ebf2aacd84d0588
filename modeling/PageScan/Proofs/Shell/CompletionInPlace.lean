import Mathlib.Data.List.DropRight
import PageScan.Proofs.Text.Utf8
import PageScan.Shell.CompletionInPlace

/-!
# Completion in place misses at the cursor only

The only cut of a line that can miss is the one at the cursor, which the caller chooses
(`completeInPlace_eq`); all the others are between two characters, since a word starts behind a
character of the line (`wordStartInPlace_eq`), and bytes that a word and a candidate share are the
characters that they share (`encode_prefix_iff`). So completing and hinting in place is completing
and hinting by the characters, whatever letters and numbers are.
-/

namespace PageScan.Shell

open Text Script

/-! ### Cuts between characters -/

/-- A cut between two characters gives what is behind it. -/
theorem from?_append (a b : List Char) : from? (byteLength a) (a ++ b) = some b := by
  rw [from?, byteLength, splitAt?_encode, Option.map_some]

/-- The last character starts where the others end. -/
theorem charOffsets_concat (offset : Nat) (cs : List Char) (c : Char) :
    charOffsets offset (cs ++ [c]) = charOffsets offset cs ++ [(offset + byteLength cs, c)] := by
  induction cs generalizing offset with
  | nil => rfl
  | cons d cs ih =>
    simp only [List.cons_append, charOffsets, ih, byteLength, encode_cons, List.length_append,
      Nat.add_assoc]

/-- **A word starts between two characters,** behind the last one that is in no word. -/
theorem wordStartInPlace_eq (alphanumeric : Char → Bool) (cs : List Char) :
    wordStartInPlace alphanumeric cs = wordStartBy alphanumeric cs := by
  change _ = byteLength (cs.rdropWhile (isWordChar alphanumeric))
  -- the search goes from the last character to the first
  induction cs using List.reverseRecOn with
  | nil => rfl
  | append_singleton cs c ih =>
    unfold wordStartInPlace at ih ⊢
    rw [charOffsets_concat, List.reverse_append, List.reverse_singleton, List.singleton_append]
    by_cases hc : isWordChar alphanumeric c = true
    · rw [List.find?_cons_of_neg (by simp [hc]), List.rdropWhile_concat_pos _ _ _ hc]
      exact ih
    · rw [List.find?_cons_of_pos (by simp [hc]), List.rdropWhile_concat_neg _ _ _ hc]
      simp [byteLength, encode]

/-- The cut where the last word starts gives the last word. -/
theorem from?_wordStart (alphanumeric : Char → Bool) (cs : List Char) :
    from? (wordStartInPlace alphanumeric cs) cs = some (lastWord alphanumeric cs) := by
  have hparts : cs.rdropWhile (isWordChar alphanumeric) ++ lastWord alphanumeric cs = cs :=
    List.rdropWhile_append_rtakeWhile
  have hcut := from?_append (cs.rdropWhile (isWordChar alphanumeric)) (lastWord alphanumeric cs)
  rw [hparts] at hcut
  rw [wordStartInPlace_eq]
  exact hcut

/-! ### Candidates -/

section Candidates

variable {word : List Char} {w : String}

/-- A candidate has more bytes than the word when it has more characters. -/
theorem byteLength_lt_iff (h : word <+: w.toList) :
    byteLength word < byteLength w.toList ↔ word.length < w.toList.length := by
  obtain ⟨rest, hrest⟩ := h
  rw [← hrest, byteLength_append, List.length_append, Nat.lt_add_right_iff_pos,
    Nat.lt_add_right_iff_pos, List.length_pos_iff]
  refine ⟨?_, byteLength_pos⟩
  rintro hpos rfl
  exact absurd hpos (Nat.lt_irrefl 0)

/-- The bytes decide as the characters do whether a word is a candidate. -/
theorem isCandidate_eq (word : List Char) (w : String) :
    ((encode word).isPrefixOf (bytes w) && byteLength word < byteLength w.toList) =
      (word.isPrefixOf w.toList && word.length < w.toList.length) := by
  rw [Bool.eq_iff_iff]
  simp only [Bool.and_eq_true, List.isPrefixOf_iff_prefix, decide_eq_true_eq]
  rw [show encode word <+: bytes w ↔ word <+: w.toList from encode_prefix_iff]
  exact and_congr_right byteLength_lt_iff

/-- The candidates are those found by their bytes, each with the characters that it adds. -/
theorem candidates_eq_map (word : List Char) :
    candidates word =
      (candidatesInPlace word).map fun w => (w, String.ofList (w.toList.drop word.length)) := by
  unfold candidates candidatesInPlace
  simp only [isCandidate_eq]
  rw [← List.filterMap_eq_map, List.filterMap_filter]
  rfl

/-- What a candidate adds begins between two characters. -/
theorem added?_of_mem (h : w ∈ candidatesInPlace word) :
    added? word w = some (String.ofList (w.toList.drop word.length)) := by
  have hkeep := (List.mem_filter.1 h).2
  rw [isCandidate_eq, Bool.and_eq_true, List.isPrefixOf_iff_prefix] at hkeep
  -- the word is a beginning of the candidate, so the cut falls behind its last character
  obtain ⟨rest, hrest⟩ := hkeep.1
  rw [added?, ← hrest, from?_append, Option.map_some, List.drop_left]

/-- No cut of a candidate misses. -/
theorem mapM_added?_eq (word : List Char) :
    ((candidatesInPlace word).mapM fun w => (added? word w).map (w, ·)) =
      some (candidates word) := by
  have hall : ∀ ws : List String, (∀ w ∈ ws, w ∈ candidatesInPlace word) →
      (ws.mapM fun w => (added? word w).map (w, ·)) =
        some (ws.map fun w => (w, String.ofList (w.toList.drop word.length))) := by
    intro ws hws
    induction ws with
    | nil => rfl
    | cons w ws ih =>
      rw [List.mapM_cons, added?_of_mem (hws w List.mem_cons_self),
        ih fun v hv => hws v (List.mem_cons_of_mem w hv)]
      rfl
  rw [candidates_eq_map]
  exact hall _ fun w hw => hw

end Candidates

/-! ### Nothing misses -/

/-- **Completing in place** misses at the cursor only, and otherwise does what `completeBy` does. -/
theorem completeInPlace_eq (alphanumeric : Char → Bool) (line : String) (cursor : Nat) :
    completeInPlace alphanumeric line cursor = completeBy alphanumeric line cursor := by
  unfold completeInPlace completeBy between? upTo?
  cases hcut : splitAt? cursor line.toList with
  | none => rfl
  | some parts =>
    obtain ⟨before, after⟩ := parts
    -- behind the cut at the cursor there is only the word to find
    have hword : from? (wordStartInPlace alphanumeric before) before =
        some (lastWord alphanumeric before) := from?_wordStart alphanumeric before
    simp only [Option.map_some, Option.bind_eq_bind, Option.bind_some, hword, mapM_added?_eq]
    split <;> rfl

/-- The hint for a word never misses. -/
theorem completionHintInPlace_eq (word : List Char) :
    completionHintInPlace word = some (completionHint word) := by
  unfold completionHintInPlace completionHint
  split
  · rfl
  rw [candidates_eq_map]
  cases hws : candidatesInPlace word with
  | nil => rfl
  | cons w ws =>
    -- only the first candidate is cut
    have hw : w ∈ candidatesInPlace word := by rw [hws]; exact List.mem_cons_self
    simp only [List.head?_cons, added?_of_mem hw, List.map_cons, Option.map_some]

/-- **The hint in place** never misses. -/
theorem hintInPlace_eq (alphanumeric : Char → Bool) (line : String) (cursor : Nat) :
    hintInPlace alphanumeric line cursor = some (hintBy alphanumeric line cursor) := by
  unfold hintInPlace hintBy
  split
  · rfl
  · rw [from?_wordStart, Option.bind_eq_bind, Option.bind_some, completionHintInPlace_eq]

end PageScan.Shell
