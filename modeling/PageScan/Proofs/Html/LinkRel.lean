import Mathlib.Data.Set.Basic
import PageScan.Html.LinkRel
import PageScan.Proofs.Text.LetterCase

/-!
# What a link is to its document

The category of a link is read off the tokens of its `rel` value by a search that stops at an icon
and goes on behind something to prefetch. It looks as if the order of the tokens counted, and it
does not: the search comes to an icon if there is one, and to something to prefetch only if there is
none (`refineLink_eq`). So the category depends on which names the tokens spell and on nothing else.

Tokens are cut off the value as it is written (`writtenTokens`), while the search cuts them off the
folded value; folding makes no space and unmakes none, so both give the same tokens
(`relTokens_eq`). `tokenSet` forgets how often the tokens are written, in which order and with which
capitals, and `Respelled` says how a value may be changed without a change of its tokens.
`linkCategory_by_tokens` puts this together.
-/

namespace PageScan.Html

open Text

/-! ### The tokens of a value -/

/-- **The tokens of a `rel` value** as they are written: the non-empty pieces between spaces. -/
def writtenTokens (rel : String) : List String :=
  ((rel.toList.splitOn ' ').filter (!·.isEmpty)).map String.ofList

/-- Whether one of the tokens is one of the given names, apart from the case of letters. -/
def Mentions (rel : String) (names : List String) : Prop :=
  ∃ token ∈ writtenTokens rel, ∃ name ∈ names, sameName token name = true

instance (rel : String) (names : List String) : Decidable (Mentions rel names) :=
  inferInstanceAs
    (Decidable (∃ token ∈ writtenTokens rel, ∃ name ∈ names, sameName token name = true))

/-- The names of an icon. -/
def iconNames : List String :=
  ["icon", "apple-touch-icon", "apple-touch-icon-precomposed", "apple-touch-startup-image"]

/-- The names of something to fetch or resolve ahead of time. -/
def prefetchNames : List String := ["prefetch", "dns-prefetch"]

/-- **The set of the tokens,** without their order, their number and the case of their letters. -/
def tokenSet (rel : String) : Set (List Char) := {t | ∃ token ∈ writtenTokens rel, fold token = t}

/-- **The same tokens written in another way.** -/
inductive Respelled : String → String → Prop
  /-- in another order, with any number of spaces between them -/
  | reorder {rel rel' : String} (h : (writtenTokens rel).Perm (writtenTokens rel')) :
      Respelled rel rel'
  /-- one of them once more -/
  | again {rel token : String} (h : token ∈ writtenTokens rel) :
      Respelled rel (rel ++ " " ++ token)
  /-- a space beside a space -/
  | widen (before after : String) :
      Respelled (before ++ " " ++ after) (before ++ " " ++ " " ++ after)
  /-- a space in front -/
  | lead (rel : String) : Respelled rel (" " ++ rel)
  /-- a space behind -/
  | trail (rel : String) : Respelled rel (rel ++ " ")
  /-- capitals for small letters, or small letters for capitals -/
  | recase {rel rel' : String} (h : sameName rel rel' = true) : Respelled rel rel'
  | symm {rel rel' : String} (h : Respelled rel rel') : Respelled rel' rel
  | trans {rel rel' rel'' : String} (h : Respelled rel rel') (h' : Respelled rel' rel'') :
      Respelled rel rel''

/-! ### Cutting and folding -/

/-- Folding cuts nothing and joins nothing, since no other character becomes a space. -/
theorem splitOn_map_toLower (cs : List Char) :
    (cs.map Char.toLower).splitOn ' ' = (cs.splitOn ' ').map (·.map Char.toLower) := by
  induction cs with
  | nil => rw [List.map_nil, List.splitOn_nil, List.map_singleton, List.map_nil]
  | cons c cs ih =>
    rw [List.map_cons, List.splitOn_cons_eq_if_modifyHead, List.splitOn_cons_eq_if_modifyHead, ih]
    obtain ⟨p, ps, hps⟩ := List.exists_cons_of_ne_nil (List.splitOn_ne_nil ' ' cs)
    -- a space begins a new piece before folding as well as after it
    by_cases hc : c = ' '
    · subst hc
      rfl
    · have hlower : c.toLower ≠ ' ' := mt (toLower_eq_iff (by decide)).1 hc
      simp [hc, hlower, hps]

/-- The tokens that are compared are the written ones, folded. -/
theorem relTokens_eq (rel : String) : relTokens rel = (writtenTokens rel).map fold := by
  rw [relTokens, pieces_eq_splitOn, fold, splitOn_map_toLower, List.filter_map, writtenTokens,
    List.map_map]
  congr 1
  · funext cs
    simp [fold]
  · congr 1
    funext cs
    simp

/-! ### What the search finds -/

/-- **Order does not count.** An icon anywhere decides, and without one something to prefetch
anywhere. -/
theorem refineLink_eq (found : Category) (tokens : List (List Char)) :
    refineLink found tokens =
      if tokens.any isIconToken then .image
      else if tokens.any isPrefetchToken then .prefetch else found := by
  -- what was found before the head is kept, unless the head is something to prefetch itself
  induction tokens generalizing found with
  | nil => rfl
  | cons token tokens ih =>
    rw [refineLink, ih, List.any_cons, List.any_cons]
    cases isIconToken token with
    | true => rfl
    | false =>
      rw [if_neg Bool.false_ne_true, Bool.false_or]
      cases isPrefetchToken token with
      | true => rw [if_pos rfl, Bool.true_or, ite_self, if_pos rfl]
      | false => rw [if_neg Bool.false_ne_true, Bool.false_or]

/-- Names in small letters are found among the folded tokens if and only if they are mentioned. -/
theorem any_relTokens_iff {names : List String} (hsmall : ∀ name ∈ names, fold name = name.toList)
    (rel : String) :
    (relTokens rel).any (fun token => names.any (isToken · token)) = true ↔ Mentions rel names := by
  rw [relTokens_eq, List.any_map]
  simp only [List.any_eq_true, Function.comp_apply, isToken, beq_iff_eq, Mentions, sameName_iff]
  refine exists_congr fun token => and_congr_right fun _ => exists_congr fun name => ?_
  exact and_congr_right fun hname => by rw [hsmall name hname]

/-- The tests of the search are whether some names are mentioned. -/
theorem isStylesheet_iff (rel : String) :
    isStylesheet rel = true ↔ Mentions rel ["stylesheet"] := by
  rw [← any_relTokens_iff (by decide), isStylesheet]
  simp

theorem any_isIconToken_iff (rel : String) :
    (relTokens rel).any isIconToken = true ↔ Mentions rel iconNames := by
  -- the test is a list of names
  have heq (token : List Char) : isIconToken token = iconNames.any (isToken · token) := by
    simp [isIconToken, iconNames, Bool.or_assoc]
  rw [← any_relTokens_iff (by decide), funext heq]

theorem any_isPrefetchToken_iff (rel : String) :
    (relTokens rel).any isPrefetchToken = true ↔ Mentions rel prefetchNames := by
  have heq (token : List Char) : isPrefetchToken token = prefetchNames.any (isToken · token) := by
    simp [isPrefetchToken, prefetchNames]
  rw [← any_relTokens_iff (by decide), funext heq]

/-- The category of a link, from what is mentioned in its `rel` value. -/
theorem linkCategory_some (rel : String) :
    linkCategory (some rel) =
      if Mentions rel ["stylesheet"] then .stylesheet
      else if Mentions rel iconNames then .image
      else if Mentions rel prefetchNames then .prefetch
      else .hyperlink := by
  rw [linkCategory, refineLink_eq]
  simp only [isStylesheet_iff, any_isIconToken_iff, any_isPrefetchToken_iff]

/-! ### The set of tokens decides -/

theorem mem_tokenSet {rel : String} {t : List Char} :
    t ∈ tokenSet rel ↔ ∃ token ∈ writtenTokens rel, fold token = t := Iff.rfl

/-- What is mentioned can be seen from the set of tokens. -/
theorem mentions_iff {rel : String} {names : List String} :
    Mentions rel names ↔ ∃ name ∈ names, fold name ∈ tokenSet rel := by
  simp only [Mentions, mem_tokenSet, sameName_iff]
  constructor
  · rintro ⟨token, htoken, name, hname, hsame⟩
    exact ⟨name, hname, token, htoken, hsame⟩
  · rintro ⟨name, hname, token, htoken, hsame⟩
    exact ⟨token, htoken, name, hname, hsame⟩

/-- **The set of tokens decides** on the category. -/
theorem linkCategory_of_tokenSet_eq {rel rel' : String} (h : tokenSet rel = tokenSet rel') :
    linkCategory (some rel) = linkCategory (some rel') := by
  have hmentions (names : List String) : Mentions rel names ↔ Mentions rel' names := by
    rw [mentions_iff, mentions_iff, h]
  simp only [linkCategory_some, hmentions]

/-! ### Other spellings -/

/-- **A space cuts.** -/
theorem writtenTokens_space (before after : String) :
    writtenTokens (before ++ " " ++ after) = writtenTokens before ++ writtenTokens after := by
  have hlist : (before ++ " " ++ after).toList = before.toList ++ ' ' :: after.toList := by simp
  rw [writtenTokens, hlist, List.splitOn_append_cons_self, List.filter_append, List.map_append,
    writtenTokens, writtenTokens]

theorem writtenTokens_empty : writtenTokens "" = [] := by decide

theorem writtenTokens_space_behind (rel : String) :
    writtenTokens (rel ++ " ") = writtenTokens rel := by
  have hcut := writtenTokens_space rel ""
  rwa [String.append_empty, writtenTokens_empty, List.append_nil] at hcut

theorem writtenTokens_space_before (rel : String) :
    writtenTokens (" " ++ rel) = writtenTokens rel := by
  have hcut := writtenTokens_space "" rel
  rwa [String.empty_append, writtenTokens_empty, List.nil_append] at hcut

theorem space_notMem_of_mem_splitOn {cs piece : List Char} (h : piece ∈ cs.splitOn ' ') :
    ' ' ∉ piece := by
  induction cs generalizing piece with
  | nil =>
    rw [List.splitOn_nil, List.mem_singleton] at h
    rw [h]
    exact List.not_mem_nil
  | cons c cs ih =>
    obtain ⟨p, ps, hps⟩ := List.exists_cons_of_ne_nil (List.splitOn_ne_nil ' ' cs)
    rw [List.splitOn_cons_eq_if_modifyHead, hps, List.modifyHead_cons] at h
    rw [hps] at ih
    split at h
    · -- a space, and what is in front of it is the empty piece
      rcases List.mem_cons.1 h with rfl | h
      · exact List.not_mem_nil
      · exact ih h
    · next hc =>
      rcases List.mem_cons.1 h with rfl | h
      · -- the first piece has grown by a character that is no space
        rw [List.mem_cons, not_or]
        exact ⟨fun hspace => hc (beq_iff_eq.2 hspace.symm), ih List.mem_cons_self⟩
      · exact ih (List.mem_cons_of_mem p h)

/-- A token lists itself and nothing else. -/
theorem writtenTokens_of_mem {rel token : String} (h : token ∈ writtenTokens rel) :
    writtenTokens token = [token] := by
  obtain ⟨piece, hpiece, rfl⟩ := List.mem_map.1 h
  obtain ⟨hmem, hne⟩ := List.mem_filter.1 hpiece
  rw [writtenTokens, String.toList_ofList,
    List.splitOn_eq_singleton (space_notMem_of_mem_splitOn hmem), List.filter_cons, if_pos hne]
  rfl

theorem tokenSet_congr {rel rel' : String}
    (h : ∀ token, token ∈ writtenTokens rel ↔ token ∈ writtenTokens rel') :
    tokenSet rel = tokenSet rel' := by
  ext t
  simp only [mem_tokenSet, h]

/-- Another spelling has the same set of tokens. -/
theorem Respelled.tokenSet_eq {rel rel' : String} (h : Respelled rel rel') :
    tokenSet rel = tokenSet rel' := by
  induction h with
  | reorder hperm => exact tokenSet_congr fun token => hperm.mem_iff
  -- the token is there already, so that the set has nothing new in it
  | again htoken =>
    refine tokenSet_congr fun u => ?_
    rw [writtenTokens_space, writtenTokens_of_mem htoken, List.mem_append, List.mem_singleton]
    exact ⟨.inl, fun hu => hu.elim id fun heq => heq ▸ htoken⟩
  | widen before after =>
    refine tokenSet_congr fun token => ?_
    rw [writtenTokens_space, writtenTokens_space, writtenTokens_space_behind]
  | lead rel => exact tokenSet_congr fun token => by rw [writtenTokens_space_before]
  | trail rel => exact tokenSet_congr fun token => by rw [writtenTokens_space_behind]
  | recase hsame =>
    -- the tokens themselves differ, and only their folded spellings agree
    ext t
    rw [mem_tokenSet, mem_tokenSet, ← List.mem_map, ← List.mem_map, ← relTokens_eq,
      ← relTokens_eq, relTokens_congr hsame]
  | symm _ ih => exact ih.symm
  | trans _ _ ih ih' => exact ih.trans ih'

/-! ### The category of a link -/

/-- **The category is a function of the set of tokens:** a stylesheet if one is mentioned, else an
image if an icon is, else a prefetch if there is something to prefetch, else a hyperlink. It is the
same however the tokens are written. An alternate stylesheet is a stylesheet, and stylesheets are
what has that category. -/
theorem linkCategory_by_tokens (rel : String) :
    (linkCategory (some rel) =
        if Mentions rel ["stylesheet"] then .stylesheet
        else if Mentions rel iconNames then .image
        else if Mentions rel prefetchNames then .prefetch
        else .hyperlink) ∧
      (∀ rel', tokenSet rel = tokenSet rel' →
        linkCategory (some rel) = linkCategory (some rel')) ∧
      (∀ rel', Respelled rel rel' → linkCategory (some rel) = linkCategory (some rel')) ∧
      (isAlternateStylesheet rel = true → isStylesheet rel = true) ∧
      (isStylesheet rel = true ↔ linkCategory (some rel) = .stylesheet) := by
  refine ⟨linkCategory_some rel, fun rel' h => linkCategory_of_tokenSet_eq h,
    fun rel' h => linkCategory_of_tokenSet_eq h.tokenSet_eq, ?_, ?_⟩
  · intro halternate
    rw [isAlternateStylesheet, Bool.and_eq_true] at halternate
    exact halternate.1
  · rw [linkCategory_some, isStylesheet_iff]
    -- none of the other branches is a stylesheet
    split_ifs <;> simp_all

/-- An icon in front of a prefetch, behind it, twice, and in capitals; and an alternate
stylesheet. -/
theorem linkCategory_of_icon_and_prefetch :
    let rel := "icon prefetch"
    let turned := "prefetch  icon icon"
    let shouted := "Prefetch  icon ICON"
    Respelled rel turned ∧ linkCategory (some rel) = linkCategory (some turned) ∧
      tokenSet rel = tokenSet shouted ∧ linkCategory (some rel) = linkCategory (some shouted) ∧
      isAlternateStylesheet "alternate Stylesheet" = true ∧
      isStylesheet "alternate Stylesheet" = true := by
  intro rel turned shouted
  -- one icon more, then the other order, then the capitals
  have hagain : Respelled rel (rel ++ " " ++ "icon") := .again (by decide +kernel)
  have hturned : Respelled rel turned := hagain.trans (.reorder (by decide +kernel))
  have hshouted : Respelled rel shouted := hturned.trans (.recase (by decide +kernel))
  have halternate : isAlternateStylesheet "alternate Stylesheet" = true := by decide +kernel
  obtain ⟨-, hset, hspelling, -, -⟩ := linkCategory_by_tokens rel
  exact ⟨hturned, hspelling turned hturned, hshouted.tokenSet_eq,
    hset shouted hshouted.tokenSet_eq, halternate,
    (linkCategory_by_tokens "alternate Stylesheet").2.2.2.1 halternate⟩

end PageScan.Html
