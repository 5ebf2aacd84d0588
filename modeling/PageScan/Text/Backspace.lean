import PageScan.Text.Cluster
import PageScan.Text.Utf8

/-!
# Typed text

A line that was typed may hold backspaces. Each takes away the cluster before it, one that finds
nothing to take does nothing, and no backspace is left (`typed?`).

What a backspace takes is kept as a number of bytes, in one byte: of a cluster of 256 bytes or more
only the bytes beyond a multiple of 256 are taken, and the rest stays for good. A number that would
cut a character in two cannot be taken at all, and then the line has no text.
-/

namespace PageScan.Text

/-- The character that takes away what is before it. -/
def backspace : Char := '\x08'

/-- A text as far as it is typed: its characters, the last one first, and the number of bytes that
each backspace would take, the next one first. -/
structure Typed where
  reversed : List Char := []
  sizes : List Nat := []
  deriving DecidableEq, Repr

namespace Typed

/-- The characters in their order. -/
def text (t : Typed) : List Char := t.reversed.reverse

/-- Takes away what one backspace takes. -/
def erase? (t : Typed) : Option Typed :=
  match t.sizes with
  | [] => some t
  | n :: sizes => (splitAt? n t.reversed).map fun (_, kept) => ⟨kept, sizes⟩

/-- Types one cluster. -/
def type? (t : Typed) (cluster : List Char) : Option Typed :=
  if cluster = [backspace] then t.erase?
  else some ⟨cluster.reverse ++ t.reversed, byteLength cluster % 256 :: t.sizes⟩

end Typed

/-- **The text of a typed line.** -/
def typed? (line : List Char) : Option (List Char) :=
  ((clusters line).foldlM Typed.type? {}).map (·.text)

/-- Clusters without a backspace among them are typed as they are. -/
theorem foldlM_type?_of_forall_ne {gs : List (List Char)} (t : Typed)
    (h : ∀ g ∈ gs, g ≠ [backspace]) :
    (gs.foldlM Typed.type? t).map (·.text) = some (t.text ++ gs.flatten) := by
  induction gs generalizing t with
  | nil => simp [pure]
  | cons g gs ih =>
    have hg : t.type? g = some ⟨g.reverse ++ t.reversed, byteLength g % 256 :: t.sizes⟩ :=
      if_neg (h g (List.mem_cons_self ..))
    rw [List.foldlM_cons, hg]
    refine (ih _ fun g' hg' => h g' (List.mem_cons_of_mem _ hg')).trans ?_
    simp [Typed.text]

/-- A line without a backspace is its own text. -/
theorem typed?_of_not_mem {line : List Char} (h : backspace ∉ line) :
    typed? line = some line := by
  have hne : ∀ g ∈ clusters line, g ≠ [backspace] := by
    rintro g hg rfl
    have hmem : backspace ∈ (clusters line).flatten :=
      List.mem_flatten.2 ⟨_, hg, List.mem_singleton_self _⟩
    rw [flatten_clusters] at hmem
    exact h hmem
  exact (foldlM_type?_of_forall_ne {} hne).trans (by simp [Typed.text])

end PageScan.Text
