import PageScan.Proofs.Shell.CompletionInPlace

/-!
# Completions and hints agree

What a completion offers is said by the line alone: the word in front of the cursor is the longest
end of the text there that is made of word characters (`IsLastWord`), and it is completed to the
reserved words and dot-commands that begin with it and go on behind it (`Completes`). This settles
the whole list, since it ascends in the order of the bytes.

The hint is no search of its own: at the end of the line it is what the first completion of the same
word adds, once the word has two bytes.
-/

namespace PageScan.Shell

open Text Script

/-! ### The word in front of the cursor -/

/-- **The last word** of a text is the longest of its ends that is made of word characters. -/
structure IsLastWord (alphanumeric : Char → Bool) (text word : List Char) : Prop where
  suffix : word <:+ text
  chars : ∀ c ∈ word, isWordChar alphanumeric c = true
  longest : ∀ v, v <:+ text → (∀ c ∈ v, isWordChar alphanumeric c = true) → v <:+ word

section LastWord

variable {alphanumeric : Char → Bool}

/-- Word characters at the end of a text go on with the word that it ends with. -/
theorem lastWord_append {v : List Char} (h : ∀ c ∈ v, isWordChar alphanumeric c = true)
    (cs : List Char) : lastWord alphanumeric (cs ++ v) = lastWord alphanumeric cs ++ v := by
  -- read from the cursor backwards, the word characters come first
  have hreverse : ∀ c ∈ v.reverse, isWordChar alphanumeric c = true :=
    fun c hc => h c (List.mem_reverse.1 hc)
  rw [lastWord, List.reverse_append, List.takeWhile_append_of_pos hreverse, List.reverse_append,
    List.reverse_reverse, lastWord]

/-- The run of word characters at the end is the longest one. -/
theorem isLastWord_lastWord (cs : List Char) :
    IsLastWord alphanumeric cs (lastWord alphanumeric cs) where
  suffix := List.rtakeWhile_suffix (isWordChar alphanumeric) cs
  chars _ hc := List.mem_rtakeWhile_imp hc
  longest := by
    -- any such end of the text is an end of the run
    rintro v ⟨cs, rfl⟩ hchars
    rw [lastWord_append hchars]
    exact List.suffix_append ..

end LastWord

/-! ### The words to complete to -/

/-- **What a word may be completed to:** a reserved word or a dot-command. -/
def IsCompletionWord (s : String) : Prop :=
  (∃ k : Keyword, s = k.spelling) ∨
    s ∈ [".help", ".exit", ".clear", ".version", ".load", ".rules"]

/-- **The order of words** is that of their bytes. -/
def Precedes (a b : String) : Prop := List.Lex (· < ·) (bytes a) (bytes b)

instance : DecidableRel Precedes := fun a b =>
  inferInstanceAs (Decidable (List.Lex (· < ·) (bytes a) (bytes b)))

/-- The table of words holds the reserved words and the dot-commands, and nothing else. -/
theorem mem_completionWords_iff {s : String} : s ∈ completionWords ↔ IsCompletionWord s := by
  have hcommands :
      commandWords.Perm [".help", ".exit", ".clear", ".version", ".load", ".rules"] := by
    decide
  rw [completionWords, List.mem_append, hcommands.mem_iff, List.mem_map, or_comm, IsCompletionWord]
  -- every keyword is in the list of all keywords
  refine or_congr_left ⟨?_, ?_⟩
  · rintro ⟨k, -, rfl⟩
    exact ⟨k, rfl⟩
  · rintro ⟨k, rfl⟩
    exact ⟨k, k.mem_all, rfl⟩

/-- The table is in order, so that no word stands in it twice. -/
theorem completionWords_ascending : completionWords.Pairwise Precedes := by decide +kernel

/-! ### Completions of a word -/

/-- **The completions of a word,** each with what it adds to the word: all words to complete to that
begin with the word and go on behind it, in their order and so each of them once. The empty word has
none. -/
structure Completes (word : List Char) (pairs : List (String × String)) : Prop where
  mem_iff : ∀ display rest, (display, rest) ∈ pairs ↔
    word ≠ [] ∧ IsCompletionWord display ∧ rest ≠ "" ∧ String.ofList word ++ rest = display
  ascending : pairs.Pairwise fun p q => Precedes p.1 q.1

theorem toList_append_eq_iff {word : List Char} {rest display : String} :
    String.ofList word ++ rest = display ↔ word ++ rest.toList = display.toList := by
  rw [← String.toList_inj, String.toList_append, String.toList_ofList]

/-- The candidates for a word are the words that it can be completed to, each with the rest of it.
-/
theorem mem_candidates_iff {word : List Char} {display rest : String} :
    (display, rest) ∈ candidates word ↔
      IsCompletionWord display ∧ rest ≠ "" ∧ String.ofList word ++ rest = display := by
  simp only [candidates, List.mem_filterMap, Option.ite_none_right_eq_some, Bool.and_eq_true,
    List.isPrefixOf_iff_prefix, decide_eq_true_eq, Option.some.injEq, Prod.mk.injEq,
    toList_append_eq_iff]
  constructor
  · rintro ⟨w, hw, ⟨⟨tail, htail⟩, hlen⟩, rfl, rfl⟩
    rw [← htail, List.length_append] at hlen
    rw [← htail, List.drop_left, String.toList_ofList]
    refine ⟨mem_completionWords_iff.1 hw, ?_, rfl⟩
    -- the word has more characters than its beginning
    rintro hempty
    rw [String.ofList_eq_empty_iff.1 hempty] at hlen
    exact absurd hlen (by simp)
  · rintro ⟨hword, hrest, hdisplay⟩
    -- something is left to add, so the display is longer than the word
    have hlen : 0 < rest.toList.length := List.length_pos_iff.2 (by simpa using hrest)
    refine ⟨display, mem_completionWords_iff.2 hword, ⟨⟨_, hdisplay⟩, ?_⟩, rfl, ?_⟩
    · rw [← hdisplay, List.length_append]
      omega
    · rw [← hdisplay, List.drop_left, String.ofList_toList]

/-- Candidates come in the order of the table. -/
theorem candidates_ascending (word : List Char) :
    (candidates word).Pairwise fun p q => Precedes p.1 q.1 := by
  rw [candidates_eq_map, List.pairwise_map]
  exact completionWords_ascending.filter _

/-- Without a word there is nothing to complete; otherwise the candidates are the completions. -/
theorem completes_candidates (word : List Char) :
    Completes word (if word.isEmpty then [] else candidates word) := by
  split
  · next hempty =>
    exact ⟨by simp [List.isEmpty_iff.1 hempty], .nil⟩
  · next hword =>
    refine ⟨fun display rest => ?_, candidates_ascending word⟩
    have hne : word ≠ [] := fun hnil => hword (List.isEmpty_iff.2 hnil)
    rw [mem_candidates_iff, and_iff_right hne]

/-! ### Completing and hinting -/

/-- The hint is what the first completion adds to a word of two bytes, which is not empty. -/
theorem completionHint_eq (word : List Char) :
    completionHint word =
      if 2 ≤ byteLength word then
        (if word.isEmpty then [] else candidates word).head?.map fun p =>
          Styled.styled .dimmed p.2
      else none := by
  cases word with
  | nil => rfl
  | cons c cs =>
    unfold completionHint
    split
    · rw [if_neg (by omega)]
    · rw [if_pos (by omega)]
      rfl

/-- **Completions and hints agree,** whatever letters and numbers are, at every cursor between two
characters of a line. What is completed is the last word in front of the cursor, and the completions
are the words that begin with it; the hint is there at the end of the line only, and is what the
first of the completions adds. All cuts of the line and of the words lie between characters. -/
theorem complete_and_hint_agree (alphanumeric : Char → Bool) (before after : String) :
    let line := before ++ after
    let cursor := byteLength before.toList
    ∃ word pairs, IsLastWord alphanumeric before.toList word ∧ Completes word pairs ∧
      completeBy alphanumeric line cursor = some ⟨cursor, pairs⟩ ∧
      hintBy alphanumeric line cursor =
        (if after = "" ∧ 2 ≤ byteLength word then
          pairs.head?.map fun p => Styled.styled .dimmed p.2
        else none) ∧
      completeInPlace alphanumeric line cursor = completeBy alphanumeric line cursor ∧
      hintInPlace alphanumeric line cursor = some (hintBy alphanumeric line cursor) := by
  intro line cursor
  have hline : line.toList = before.toList ++ after.toList := String.toList_append
  refine ⟨_, _, isLastWord_lastWord _, completes_candidates _, ?_, ?_, completeInPlace_eq _ _ _,
    hintInPlace_eq _ _ _⟩
  · -- the cursor is between the two texts, so the cut there does not miss
    have hcut : splitAt? cursor (before.toList ++ after.toList) =
        some (before.toList, after.toList) := splitAt?_encode _ _
    rw [completeBy, hline, hcut, Option.map_some]
  · by_cases hafter : after = ""
    · have hcursor : ¬cursor < byteLength line.toList := by simp [line, cursor, hafter]
      -- at the end of the line the whole line is in front of the cursor
      have hlast : lastWord alphanumeric line.toList = lastWord alphanumeric before.toList := by
        simp [line, hafter]
      simp only [hintBy, if_neg hcursor, hlast, completionHint_eq, hafter, true_and]
    · -- text behind the cursor keeps it in front of the end of the line
      have hcursor : cursor < byteLength line.toList := by
        rw [hline, byteLength_append]
        exact Nat.lt_add_of_pos_right (byteLength_pos (by simpa using hafter))
      rw [hintBy, if_pos hcursor, if_neg fun h => hafter h.1]

-- the word starts behind a character of two bytes
example : complete "x = «ty" 8 = some ⟨8, [("typeof", "peof")]⟩ := by decide +kernel

end PageScan.Shell
