import Mathlib.Data.List.Nodup
import PageScan.Text.Escape

/-!
# Escaped text can be read back

What `escape` writes for a character depends on two Unicode tables and on whether the text begins
with it. To read the text back, none of this has to be known: a character is written as it is, or as
a backslash with a mark, or as a backslash with its code point in braces (`Escapes`), and whichever
form was chosen, the first character can be cut off the written text in one way only
(`Escapes.append_inj`). So all written forms of a text determine it (`Escaped.unique`), and they fit
on one line, since they hold no control character (`Escaped.not_isControl`). Both hold of every way
to write texts (`IsEscaping`); `escape` is one of them, and so is it with the tables of another
version of Unicode.
-/

namespace PageScan.Text

/-! ### Stretches of a text -/

/-- A stretch of characters of one sort ends where the first character of another sort stands. -/
theorem append_inj_of_stops {p : Char → Bool} {a b x y : List Char} (ha : ∀ c ∈ a, p c = true)
    (hb : ∀ c ∈ b, p c = true) (hx : ∀ c ∈ x.head?, p c = false) (hy : ∀ c ∈ y.head?, p c = false)
    (h : a ++ x = b ++ y) : a = b ∧ x = y := by
  have hstop : ∀ z : List Char, (∀ c ∈ z.head?, p c = false) → z.takeWhile p = [] := by
    intro z hz
    cases z with
    | nil => rfl
    | cons c z => exact List.takeWhile_cons_of_neg (by simp [hz c rfl])
  have hab : a = b := by
    have htake := congrArg (List.takeWhile p) h
    rwa [List.takeWhile_append_of_pos ha, List.takeWhile_append_of_pos hb, hstop x hx, hstop y hy,
      List.append_nil, List.append_nil] at htake
  subst hab
  exact ⟨rfl, List.append_cancel_left h⟩

/-! ### Digits of base sixteen -/

/-- The digits of a number are those of its quotient by sixteen and one for the remainder. -/
theorem hexDigits_eq (n : Nat) :
    hexDigits n =
      if n < 16 then [n.digitChar] else hexDigits (n / 16) ++ [(n % 16).digitChar] :=
  Nat.toDigits_eq_if (by decide)

/-- Each digit stands for a number below sixteen. -/
theorem exists_digitChar_of_mem {n : Nat} {c : Char} (h : c ∈ hexDigits n) :
    ∃ d < 16, c = Nat.digitChar d := by
  induction n using Nat.strongRecOn with
  | ind n ih =>
    rw [hexDigits_eq] at h
    split at h
    · next hn => exact ⟨n, hn, List.mem_singleton.1 h⟩
    · rcases List.mem_append.1 h with h | h
      · exact ih (n / 16) (by omega) h
      · exact ⟨n % 16, by omega, List.mem_singleton.1 h⟩

theorem digitChar_inj {m n : Nat} (hm : m < 16) (hn : n < 16) (h : m.digitChar = n.digitChar) :
    m = n := by
  have hall : ∀ m < 16, ∀ n < 16, m.digitChar = n.digitChar → m = n := by decide
  exact hall m hm n hn h

/-- A number is known by its digits. -/
theorem hexDigits_inj {m n : Nat} (h : hexDigits m = hexDigits n) : m = n := by
  induction m using Nat.strongRecOn generalizing n with
  | ind m ih =>
    have hne : ∀ k, hexDigits k ≠ [] := fun _ => Nat.toDigits_ne_nil
    rw [hexDigits_eq m, hexDigits_eq n] at h
    split at h <;> split at h
    · next hm hn => exact digitChar_inj hm hn (List.singleton_inj.1 h)
    · exact absurd (List.append_eq_singleton_iff.1 h.symm) (by simp [hne])
    · exact absurd (List.append_eq_singleton_iff.1 h) (by simp [hne])
    · -- the last digits are the remainders and the others the quotients
      obtain ⟨hquotients, hremainders⟩ := List.append_inj' h rfl
      have hdiv := ih (m / 16) (by omega) hquotients
      have hmod := digitChar_inj (by omega) (by omega) (List.singleton_inj.1 hremainders)
      omega

/-! ### Characters that would spoil a line -/

/-- **Control characters** of ASCII, the ends of a line among them. -/
def IsControl (c : Char) : Prop := c.toNat < 0x20 ∨ c.toNat = 0x7F

instance : DecidablePred IsControl := fun c =>
  inferInstanceAs (Decidable (c.toNat < 0x20 ∨ c.toNat = 0x7F))

/-- Printable characters are no control characters, which lie in the first two ranges of the table.
-/
theorem not_isControl_of_isPrintable {c : Char} (h : isPrintable c = true) : ¬IsControl c := by
  intro hcontrol
  rw [isPrintable, Bool.or_eq_true, beq_iff_eq, Bool.not_eq_true'] at h
  rcases h with rfl | hranges
  · exact absurd hcontrol (by decide)
  · have hmem : inRanges unprintableRanges c = true := by
      rw [inRanges_iff]
      rcases hcontrol with hlow | hdelete
      · exact ⟨(0x0, 0x20), .head _, Nat.zero_le _, Nat.le_of_lt hlow⟩
      · exact ⟨(0x7F, 0xA0), .tail _ (.head _), by omega, by omega⟩
    rw [hmem] at hranges
    exact Bool.noConfusion hranges

/-! ### One character -/

/-- The characters with a short escape, each with the mark behind its backslash. -/
def shortEscapes : List (Char × Char) :=
  [('\x00', '0'), ('\t', 't'), ('\r', 'r'), ('\n', 'n'), ('\\', '\\'), ('"', '"'),
    ('\'', '\'')]

/-- **The written forms of a character.** Only a character that would neither end the text nor begin
an escape nor break the line may be written as it is. -/
inductive Escapes : Char → List Char → Prop
  | itself {c : Char} (hquote : c ≠ '"') (hbackslash : c ≠ '\\') (hcontrol : ¬IsControl c) :
      Escapes c [c]
  | short {c mark : Char} (h : (c, mark) ∈ shortEscapes) : Escapes c ['\\', mark]
  | codePoint (c : Char) : Escapes c (escapeCodePoint c)

/-- The escape of a character is one of its written forms, at the start of a text and elsewhere. -/
theorem escapes_escapeChar (atStart : Bool) (c : Char) : Escapes c (escapeChar atStart c) := by
  unfold escapeChar
  split
  · next h => exact .short (by simp [shortEscapes, h])
  split
  · next h => exact .short (by simp [shortEscapes, h])
  split
  · next h => exact .short (by simp [shortEscapes, h])
  split
  · next h => exact .short (by simp [shortEscapes, h])
  split
  · next h => exact .short (by rcases h with rfl | rfl | rfl <;> simp [shortEscapes])
  split
  · exact .codePoint c
  split
  · next hshort _ hprintable =>
    -- what has no short escape is neither a quote nor a backslash
    push Not at hshort
    exact .itself hshort.2.1 hshort.1 (not_isControl_of_isPrintable hprintable)
  · exact .codePoint c

/-- A mark stands for one character. -/
theorem shortEscapes_inj {c d mark : Char} (hc : (c, mark) ∈ shortEscapes)
    (hd : (d, mark) ∈ shortEscapes) : c = d := by
  have hnodup : (shortEscapes.map Prod.snd).Nodup := by decide
  exact congrArg Prod.fst (List.inj_on_of_nodup_map hnodup hc hd rfl)

/-- No mark is the letter that a code point begins with. -/
theorem not_mem_shortEscapes (c : Char) : (c, 'u') ∉ shortEscapes := by
  intro h
  have hmark : 'u' ∈ shortEscapes.map Prod.snd := List.mem_map_of_mem h
  exact absurd hmark (by decide)

/-- A code point in braces is read in one way. -/
theorem escapeCodePoint_append_inj {c d : Char} {x y : List Char}
    (h : escapeCodePoint c ++ x = escapeCodePoint d ++ y) : c = d ∧ x = y := by
  have hdigits : ∀ n, ∀ e ∈ hexDigits n, (e != '}') = true := by
    intro n e he
    obtain ⟨k, -, rfl⟩ := exists_digitChar_of_mem he
    exact bne_iff_ne.2 (Nat.digitChar_ne '}' (by decide))
  simp only [escapeCodePoint, List.append_assoc, List.cons_append, List.nil_append,
    List.cons.injEq, true_and] at h
  -- the digits end at the closing brace
  obtain ⟨hhex, hrest⟩ := append_inj_of_stops (hdigits _) (hdigits _) (by simp) (by simp) h
  exact ⟨Char.toNat_inj.1 (hexDigits_inj hhex), (List.cons.inj hrest).2⟩

/-- **A written text begins with one character at most.** -/
theorem Escapes.append_inj {c d : Char} {e f x y : List Char} (hc : Escapes c e)
    (hd : Escapes d f) (h : e ++ x = f ++ y) : c = d ∧ x = y := by
  cases hc with
  | itself hquote hbackslash hcontrol =>
    cases hd with
    | itself => exact List.cons.inj h
    | short | codePoint => exact absurd (List.cons.inj h).1 hbackslash
  | short hc =>
    cases hd with
    | itself hquote hbackslash hcontrol => exact absurd (List.cons.inj h).1.symm hbackslash
    | short hd =>
      obtain ⟨rfl, htail⟩ := List.cons.inj (List.cons.inj h).2
      exact ⟨shortEscapes_inj hc hd, htail⟩
    | codePoint =>
      obtain ⟨rfl, -⟩ := List.cons.inj (List.cons.inj h).2
      exact absurd hc (not_mem_shortEscapes c)
  | codePoint =>
    cases hd with
    | itself hquote hbackslash hcontrol => exact absurd (List.cons.inj h).1.symm hbackslash
    | short hd =>
      obtain ⟨rfl, -⟩ := List.cons.inj (List.cons.inj h).2
      exact absurd hd (not_mem_shortEscapes d)
    | codePoint => exact escapeCodePoint_append_inj h

theorem Escapes.ne_nil {c : Char} {e : List Char} (h : Escapes c e) : e ≠ [] := by
  cases h <;> simp [escapeCodePoint]

/-- No written form holds a control character. -/
theorem Escapes.not_isControl {c : Char} {e : List Char} (h : Escapes c e) :
    ∀ d ∈ e, ¬IsControl d := by
  cases h with
  | itself hquote hbackslash hcontrol => simpa using hcontrol
  | @short mark h =>
    -- the marks are few, and none of them is a control character
    have hmarks :
        (shortEscapes.map Prod.snd).all (fun mark => !decide (IsControl mark)) = true := by
      decide
    have hmark : ¬IsControl mark := by
      simpa using List.all_eq_true.1 hmarks mark (List.mem_map_of_mem h)
    simpa [hmark] using show ¬IsControl '\\' by decide
  | codePoint =>
    have hdigits : ∀ k < 16, ¬IsControl (Nat.digitChar k) := by decide
    intro d hd
    simp only [escapeCodePoint, List.mem_append, List.mem_cons, List.not_mem_nil, or_false] at hd
    -- the backslash, the letter, the braces, and the digits between these
    rcases hd with (((rfl | rfl | rfl) | hd) | rfl)
    · decide
    · decide
    · decide
    · obtain ⟨k, hk, rfl⟩ := exists_digitChar_of_mem hd
      exact hdigits k hk
    · decide

/-! ### Texts -/

/-- **The written forms of a text,** character by character. -/
inductive Escaped : List Char → List Char → Prop
  | nil : Escaped [] []
  | cons {c : Char} {cs e f : List Char} (hc : Escapes c e) (hcs : Escaped cs f) :
      Escaped (c :: cs) (e ++ f)

/-- **A way to write texts:** it gives each text one of its written forms, and the texts themselves
decide which, such as by what stands before a character. -/
def IsEscaping (write : List Char → List Char) : Prop := ∀ cs, Escaped cs (write cs)

/-- Escaping gives each text one of its written forms. -/
theorem isEscaping_escape : IsEscaping escape := by
  have hbehind : ∀ cs : List Char, Escaped cs (cs.flatMap (escapeChar false)) := by
    intro cs
    induction cs with
    | nil => exact .nil
    | cons c cs ih =>
      rw [List.flatMap_cons]
      exact .cons (escapes_escapeChar false c) ih
  intro cs
  -- only the first character is at the start
  cases cs with
  | nil => exact .nil
  | cons c cs => exact .cons (escapes_escapeChar true c) (hbehind cs)

/-- **A text is read back** from any of its written forms. -/
theorem Escaped.unique {cs ds f : List Char} (hcs : Escaped cs f) (hds : Escaped ds f) :
    cs = ds := by
  induction hcs generalizing ds with
  | nil =>
    generalize hf : ([] : List Char) = f at hds
    cases hds with
    | nil => rfl
    | cons hd => exact absurd (List.append_eq_nil_iff.1 hf.symm).1 hd.ne_nil
  | @cons c cs e f hc hcs ih =>
    -- the other reading begins with a character, too, and both cut off the same one
    generalize hg : e ++ f = g at hds
    cases hds with
    | nil => exact absurd (List.append_eq_nil_iff.1 hg).1 hc.ne_nil
    | cons hd hds =>
      obtain ⟨rfl, rfl⟩ := hc.append_inj hd hg
      rw [ih hds]

/-- A written text holds no control character. -/
theorem Escaped.not_isControl {cs f : List Char} (h : Escaped cs f) : ∀ d ∈ f, ¬IsControl d := by
  induction h with
  | nil => simp
  | cons hc hcs ih =>
    intro d hd
    rcases List.mem_append.1 hd with hd | hd
    · exact hc.not_isControl d hd
    · exact ih d hd

end PageScan.Text
