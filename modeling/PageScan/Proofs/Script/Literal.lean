import PageScan.Script.Literal

/-!
# The grammar of strings and regular expressions

The rules for strings and for regular expressions remember what they are in the middle of. Here the
same texts are described without any memory, by what may stand between the marks at their ends
(`StringBody`, `ClassBody`, `RegexBody`), and the rules are shown to accept exactly these.

For either rule there are two directions. A text of the grammar is cut off whatever follows it
(`stringTail_body`, `regexTail_body`), and what is cut off complete is such a text
(`stringTail_of_closed`, `regexTail_of_closed`). What is not complete has no more of the script
behind it, but for a regular expression that a line feed has broken off
(`stringTail_rest_of_not_closed`, `regexTail_of_not_closed`).

Where a rule stops can also be told from the bytes alone. It passes over a byte that a backslash
takes, and a backslash takes the next byte unless it is taken itself (`takenAt`). So a string ends
at the first quote that is not taken, and a regular expression goes no further than to the first
such line feed.
-/

namespace PageScan.Script

/-- What may stand between the quotes of a string: escapes, each a backslash with any byte, and
bytes that are neither the quote nor a backslash. -/
inductive StringBody (quote : UInt8) : List UInt8 → Prop
  | nil : StringBody quote []
  | escape (b : UInt8) {s : List UInt8} (hs : StringBody quote s) :
      StringBody quote (backslash :: b :: s)
  | plain {b : UInt8} {s : List UInt8} (hb : b ≠ backslash) (hq : b ≠ quote)
      (hs : StringBody quote s) : StringBody quote (b :: s)

/-- What may stand between the brackets of a class: escapes and bytes that are neither a closing
bracket nor a backslash nor a line feed. -/
inductive ClassBody : List UInt8 → Prop
  | nil : ClassBody []
  | escape (b : UInt8) {s : List UInt8} (hs : ClassBody s) : ClassBody (backslash :: b :: s)
  | plain {b : UInt8} {s : List UInt8} (hb : b ≠ backslash) (hl : b ≠ lineFeed)
      (hc : b ≠ closeBracket) (hs : ClassBody s) : ClassBody (b :: s)

/-- What may stand between the slashes of a regular expression: escapes, bracketed classes, and
bytes that are neither a slash nor an opening bracket nor a backslash nor a line feed. -/
inductive RegexBody : List UInt8 → Prop
  | nil : RegexBody []
  | escape (b : UInt8) {s : List UInt8} (hs : RegexBody s) : RegexBody (backslash :: b :: s)
  | bracketed {c s : List UInt8} (hc : ClassBody c) (hs : RegexBody s) :
      RegexBody (openBracket :: (c ++ closeBracket :: s))
  | plain {b : UInt8} {s : List UInt8} (hb : b ≠ backslash) (hl : b ≠ lineFeed) (hs : b ≠ slash)
      (ho : b ≠ openBracket) (hr : RegexBody s) : RegexBody (b :: s)

theorem getLast?_cons_of_some {b c : UInt8} {s : List UInt8} (h : s.getLast? = some c) :
    (b :: s).getLast? = some c := by
  rw [List.getLast?_cons, h, Option.getD_some]

/-! ### Bytes that a backslash takes -/

/-- **Taken by a backslash.** The byte at an offset is taken when the byte before it is a backslash
that is not taken itself. `escaped` tells whether what stands in front takes the first byte. -/
def takenAt (escaped : Bool) (s : List UInt8) : Nat → Bool
  | 0 => escaped
  | i + 1 => !takenAt escaped s i && s[i]? == some backslash

/-- The offsets at which a byte stands without being taken. -/
structure Untaken (escaped : Bool) (s : List UInt8) (b : UInt8) (i : Nat) : Prop where
  getElem : s[i]? = some b
  free : takenAt escaped s i = false

section Untaken

variable {escaped : Bool} {s : List UInt8} {b c : UInt8} {i : Nat}

/-- In front of a byte it is enough to know whether that byte takes the next one. -/
theorem takenAt_cons (escaped : Bool) (b : UInt8) (s : List UInt8) (i : Nat) :
    takenAt escaped (b :: s) (i + 1) = takenAt (!escaped && b == backslash) s i := by
  induction i with
  | zero => rfl
  | succ i ih => rw [takenAt, ih, List.getElem?_cons_succ, takenAt]

theorem not_untaken_nil : ¬Untaken escaped [] b i := by
  rintro ⟨hget, -⟩
  exact absurd hget (by simp)

/-- The first byte is untaken unless something in front takes it. -/
theorem untaken_cons_zero_iff : Untaken escaped (b :: s) c 0 ↔ b = c ∧ escaped = false := by
  constructor
  · rintro ⟨hget, hfree⟩
    exact ⟨Option.some.inj hget, hfree⟩
  · rintro ⟨rfl, hfree⟩
    exact ⟨rfl, hfree⟩

/-- Behind the first byte all depends on whether that is a backslash which is free to take the next.
-/
theorem untaken_cons_succ_iff :
    Untaken escaped (b :: s) c (i + 1) ↔ Untaken (!escaped && b == backslash) s c i := by
  constructor
  · rintro ⟨hget, hfree⟩
    exact ⟨hget, by rwa [takenAt_cons] at hfree⟩
  · rintro ⟨hget, hfree⟩
    exact ⟨hget, by rwa [takenAt_cons]⟩

/-- Behind a byte that is another one, or is taken, the offset is one less. -/
theorem Untaken.exists_succ (h : Untaken escaped (b :: s) c i) (hne : escaped = true ∨ b ≠ c) :
    ∃ j, i = j + 1 ∧ Untaken (!escaped && b == backslash) s c j := by
  cases i with
  | zero =>
    obtain ⟨rfl, rfl⟩ := untaken_cons_zero_iff.1 h
    exact absurd hne (by simp)
  | succ j => exact ⟨j, rfl, untaken_cons_succ_iff.1 h⟩

end Untaken

namespace Cut

variable {x : Cut} {escaped : Bool} {s : List UInt8} {b c : UInt8}

/-- The cut goes no further than to an untaken byte `c`. -/
def StopsBy (x : Cut) (escaped : Bool) (s : List UInt8) (c : UInt8) : Prop :=
  ∀ i, Untaken escaped s c i → x.text.length ≤ i + 1

/-- The cut ends behind an untaken byte `c`. -/
def StopsAt (x : Cut) (escaped : Bool) (s : List UInt8) (c : UInt8) : Prop :=
  ∃ i, Untaken escaped s c i ∧ x.text.length = i + 1

/-- A cut of one byte goes no further than to any byte. -/
theorem stopsBy_single {rest : List UInt8} {closed : Bool} :
    StopsBy ⟨[b], rest, closed⟩ escaped s c :=
  fun i _ => Nat.succ_le_succ (Nat.zero_le i)

theorem stopsAt_single {rest : List UInt8} {closed : Bool} :
    StopsAt ⟨[b], rest, closed⟩ false (b :: s) b :=
  ⟨0, untaken_cons_zero_iff.2 ⟨rfl, rfl⟩, rfl⟩

/-- One more byte in front, which is not the one to stop at. -/
theorem StopsBy.cons (h : x.StopsBy (!escaped && b == backslash) s c)
    (hne : escaped = true ∨ b ≠ c) : (x.cons b).StopsBy escaped (b :: s) c := by
  intro i hi
  obtain ⟨j, rfl, hj⟩ := hi.exists_succ hne
  exact Nat.succ_le_succ (h j hj)

/-- One more byte in front moves the end by one. -/
theorem StopsAt.cons (h : x.StopsAt (!escaped && b == backslash) s c) :
    (x.cons b).StopsAt escaped (b :: s) c := by
  obtain ⟨i, hi, hlen⟩ := h
  exact ⟨i + 1, untaken_cons_succ_iff.2 hi, congrArg (· + 1) hlen⟩

/-- One more byte in front that takes none. -/
theorem StopsBy.cons_plain (h : x.StopsBy false s c) (hb : b ≠ backslash) (hne : b ≠ c) :
    (x.cons b).StopsBy false (b :: s) c := by
  refine StopsBy.cons ?_ (.inr hne)
  rwa [beq_false_of_ne hb]

/-- One more byte in front that takes none moves the end by one. -/
theorem StopsAt.cons_plain (h : x.StopsAt false s c) (hb : b ≠ backslash) :
    (x.cons b).StopsAt false (b :: s) c := by
  refine StopsAt.cons ?_
  rwa [beq_false_of_ne hb]

end Cut

/-! ### From a byte to the end mark -/

/-- **A text up to its end mark:** behind the byte that a pending escape takes, a body and the
mark. -/
def UpTo (mark : UInt8) (body : List UInt8 → Prop) (escaped : Bool) (text : List UInt8) : Prop :=
  ∃ taken t, taken.length = escaped.toNat ∧ body t ∧ text = taken ++ t ++ [mark]

namespace UpTo

variable {mark : UInt8} {body : List UInt8 → Prop} {text : List UInt8}

theorem mark_alone (h : body []) : UpTo mark body false [mark] := ⟨[], [], rfl, h, rfl⟩

/-- Without a pending escape the body begins at once. -/
theorem exists_body (h : UpTo mark body false text) : ∃ t, body t ∧ text = t ++ [mark] := by
  obtain ⟨taken, t, hlen, ht, rfl⟩ := h
  obtain rfl := List.eq_nil_of_length_eq_zero hlen
  exact ⟨t, ht, rfl⟩

/-- A text up to its end mark ends with the mark. -/
theorem getLast? {escaped : Bool} (h : UpTo mark body escaped text) :
    text.getLast? = some mark := by
  obtain ⟨taken, t, -, -, rfl⟩ := h
  rw [List.getLast?_concat]

theorem cons {body' : List UInt8 → Prop} {b : UInt8} (h : UpTo mark body false text)
    (hb : ∀ t, body t → body' (b :: t)) : UpTo mark body' false (b :: text) := by
  obtain ⟨t, ht, rfl⟩ := h.exists_body
  exact ⟨[], b :: t, rfl, hb t ht, rfl⟩

theorem cons_taken (b : UInt8) (h : UpTo mark body false text) :
    UpTo mark body true (b :: text) := by
  obtain ⟨t, ht, rfl⟩ := h.exists_body
  exact ⟨[b], t, rfl, ht, rfl⟩

theorem cons_backslash (h : UpTo mark body true text)
    (hb : ∀ b t, body t → body (backslash :: b :: t)) :
    UpTo mark body false (backslash :: text) := by
  obtain ⟨taken, t, hlen, ht, rfl⟩ := h
  obtain ⟨b, rfl⟩ := List.length_eq_one_iff.1 hlen
  exact ⟨[], backslash :: b :: t, rfl, hb b t ht, rfl⟩

end UpTo

/-! ### Strings -/

section Strings

variable {quote : UInt8}

/-- A text of the grammar is cut off, whatever follows. -/
theorem stringTail_body (hq : quote ≠ backslash) {body : List UInt8} (h : StringBody quote body)
    (rest : List UInt8) :
    stringTail quote false (body ++ quote :: rest) = ⟨body ++ [quote], rest, true⟩ := by
  induction h with
  | nil => simp [stringTail, hq]
  | escape b _ ih => simp [stringTail, ih, Cut.cons]
  | plain hb hne _ ih => simp [stringTail, hb, hne, ih, Cut.cons]

/-- What is cut off complete is of the grammar. -/
theorem stringTail_of_closed {escaped : Bool} {s : List UInt8}
    (h : (stringTail quote escaped s).closed = true) :
    UpTo quote (StringBody quote) escaped (stringTail quote escaped s).text := by
  fun_induction stringTail quote escaped s with
  | case1 =>
    -- the script ends inside the string
    exact absurd h Bool.false_ne_true
  -- the byte that an escape takes, a backslash that begins one, the quote, any other byte
  | case2 b s ih => exact (ih h).cons_taken b
  | case3 s ih => exact (ih h).cons_backslash fun b _ => .escape b
  | case4 s _ => exact .mark_alone .nil
  | case5 b s hb hq ih => exact (ih h).cons fun _ => .plain hb hq

/-- A string goes no further than to a quote that no backslash takes. -/
theorem stringTail_stopsBy (hq : quote ≠ backslash) (escaped : Bool) (s : List UInt8) :
    (stringTail quote escaped s).StopsBy escaped s quote := by
  fun_induction stringTail quote escaped s with
  | case1 => exact fun i h => absurd h not_untaken_nil
  -- a byte that an escape takes is no stop, whatever it is; a backslash is no quote
  | case2 b s ih => exact ih.cons (.inl rfl)
  | case3 s ih => exact ih.cons (.inr hq.symm)
  | case4 s _ => exact Cut.stopsBy_single
  | case5 b s hb hne ih => exact ih.cons_plain hb hne

/-- Where there is such a quote the string is complete. -/
theorem closed_stringTail_of_untaken (hq : quote ≠ backslash) {escaped : Bool} {s : List UInt8}
    {i : Nat} (h : Untaken escaped s quote i) : (stringTail quote escaped s).closed = true := by
  fun_induction stringTail quote escaped s generalizing i with
  | case1 => exact absurd h not_untaken_nil
  -- the quote is not the byte that is looked at, but one behind it
  | case2 b s ih =>
    obtain ⟨j, -, hj⟩ := h.exists_succ (.inl rfl)
    exact ih hj
  | case3 s ih =>
    obtain ⟨j, -, hj⟩ := h.exists_succ (.inr hq.symm)
    exact ih hj
  | case4 => rfl
  | case5 b s hb hne ih =>
    obtain ⟨j, -, hj⟩ := h.exists_succ (.inr hne)
    rw [beq_false_of_ne hb] at hj
    exact ih hj

/-- A complete string ends with such a quote. -/
theorem stringTail_stopsAt {escaped : Bool} {s : List UInt8}
    (h : (stringTail quote escaped s).closed = true) :
    (stringTail quote escaped s).StopsAt escaped s quote := by
  fun_induction stringTail quote escaped s with
  | case1 => exact absurd h Bool.false_ne_true
  | case2 b s ih => exact (ih h).cons
  | case3 s ih => exact (ih h).cons
  | case4 s _ => exact Cut.stopsAt_single
  | case5 b s hb _ ih => exact (ih h).cons_plain hb

/-- A string that is not complete leaves nothing behind. -/
theorem stringTail_rest_of_not_closed {escaped : Bool} {s : List UInt8}
    (h : (stringTail quote escaped s).closed = false) :
    (stringTail quote escaped s).rest = [] := by
  fun_induction stringTail quote escaped s with
  | case1 => rfl
  | case2 b s ih => exact ih h
  | case3 s ih => exact ih h
  | case4 s _ => exact absurd h (by simp)
  | case5 b s hb hq ih => exact ih h

end Strings

/-! ### Regular expressions -/

/-- A class is passed over up to and with its closing bracket. -/
theorem regexTail_classBody {c : List UInt8} (h : ClassBody c) (s : List UInt8) :
    regexTail true false (c ++ closeBracket :: s) =
      (c ++ [closeBracket]).foldr Cut.cons (regexTail false false s) := by
  induction h with
  | nil => simp [regexTail, closeBracket, backslash, lineFeed, openBracket]
  | escape b _ ih => simp [regexTail, ih]
  | @plain b _ hb hl hc _ ih =>
    by_cases ho : b = openBracket
    · -- inside a class an opening bracket is looked for, but changes nothing
      simp [regexTail, ho, openBracket, backslash, lineFeed, ih]
    · simp [regexTail, hb, hl, hc, ho, ih]

/-- Bytes that are passed over come in front of the text that is cut off behind them. -/
theorem Cut.foldr_cons (text : List UInt8) (c : Cut) :
    text.foldr Cut.cons c = { c with text := text ++ c.text } := by
  induction text with
  | nil => rfl
  | cons b text ih => rw [List.foldr_cons, ih]; rfl

/-- A text of the grammar is cut off, whatever follows. -/
theorem regexTail_body {body : List UInt8} (h : RegexBody body) (rest : List UInt8) :
    regexTail false false (body ++ slash :: rest) = ⟨body ++ [slash], rest, true⟩ := by
  induction h with
  | nil => simp [regexTail, slash, backslash, lineFeed]
  | escape b _ ih => simp [regexTail, ih, Cut.cons]
  | @bracketed c s hc _ ih =>
    -- the class is passed over first, then the rest of the body by induction
    have hclass := regexTail_classBody hc (s ++ slash :: rest)
    rw [ih, Cut.foldr_cons] at hclass
    simp [regexTail, openBracket, backslash, lineFeed, slash, hclass, Cut.cons]
  | @plain b _ hb hl hs ho _ ih =>
    -- outside a class a closing bracket is a byte like others, yet the rule looks for it
    by_cases hc : b = closeBracket
    · simp [regexTail, hc, closeBracket, openBracket, backslash, lineFeed, slash, ih, Cut.cons]
    · simp [regexTail, hb, hl, hs, ho, hc, ih, Cut.cons]

/-- What may stand between a place in a regular expression, inside a class or outside, and the slash
at the end. -/
def RegexRemainder : Bool → List UInt8 → Prop
  | false, t => RegexBody t
  | true, t => ∃ c s, ClassBody c ∧ RegexBody s ∧ t = c ++ closeBracket :: s

namespace RegexRemainder

variable {inClass : Bool} {t : List UInt8}

theorem escape (b : UInt8) (h : RegexRemainder inClass t) :
    RegexRemainder inClass (backslash :: b :: t) := by
  cases inClass with
  | false => exact RegexBody.escape b h
  | true =>
    obtain ⟨c, s, hc, hs, rfl⟩ := h
    exact ⟨backslash :: b :: c, s, .escape b hc, hs, rfl⟩

theorem openClass (h : RegexRemainder true t) : RegexRemainder inClass (openBracket :: t) := by
  obtain ⟨c, s, hc, hs, rfl⟩ := h
  cases inClass with
  | false => exact RegexBody.bracketed hc hs
  -- inside a class an opening bracket is a byte like others
  | true => exact ⟨openBracket :: c, s, .plain (by decide) (by decide) (by decide) hc, hs, rfl⟩

theorem closeClass (h : RegexRemainder false t) : RegexRemainder inClass (closeBracket :: t) := by
  cases inClass with
  | false => exact RegexBody.plain (by decide) (by decide) (by decide) (by decide) h
  | true => exact ⟨[], t, .nil, h, rfl⟩

theorem plain {b : UInt8} (hb : b ≠ backslash) (hl : b ≠ lineFeed)
    (hs : ¬(b = slash ∧ inClass = false)) (ho : b ≠ openBracket) (hc : b ≠ closeBracket)
    (h : RegexRemainder inClass t) : RegexRemainder inClass (b :: t) := by
  cases inClass with
  | false => exact RegexBody.plain hb hl (by simpa using hs) ho h
  | true =>
    obtain ⟨c, s, hcls, hs', rfl⟩ := h
    exact ⟨b :: c, s, .plain hb hl hc hcls, hs', rfl⟩

end RegexRemainder

/-- What is cut off complete is of the grammar. -/
theorem regexTail_of_closed {inClass escaped : Bool} {s : List UInt8}
    (h : (regexTail inClass escaped s).closed = true) :
    UpTo slash (RegexRemainder inClass) escaped (regexTail inClass escaped s).text := by
  fun_induction regexTail inClass escaped s with
  | case1 =>
    -- the script ends inside the regular expression
    exact absurd h Bool.false_ne_true
  | case2 inClass b s ih => exact (ih h).cons_taken b
  | case3 inClass s ih => exact (ih h).cons_backslash fun b _ ht => ht.escape b
  | case4 =>
    -- a line feed breaks the regular expression off
    exact absurd h Bool.false_ne_true
  | case5 inClass b s hb hl hs =>
    obtain ⟨rfl, rfl⟩ := hs
    exact .mark_alone RegexBody.nil
  -- a bracket opens or closes a class, and the remainder changes sides with it
  | case6 inClass s hb hl hs ih => exact (ih h).cons fun _ ht => ht.openClass
  | case7 inClass s hb hl hs ho ih => exact (ih h).cons fun _ ht => ht.closeClass
  | case8 inClass b s hb hl hs ho hc ih => exact (ih h).cons fun _ ht => ht.plain hb hl hs ho hc

/-- A regular expression goes no further than to a line feed that no backslash takes. -/
theorem regexTail_stopsBy (inClass escaped : Bool) (s : List UInt8) :
    (regexTail inClass escaped s).StopsBy escaped s lineFeed := by
  fun_induction regexTail inClass escaped s with
  | case1 => exact fun i h => absurd h not_untaken_nil
  | case2 inClass b s ih => exact ih.cons (.inl rfl)
  -- neither a backslash nor a bracket is a line feed
  | case3 inClass s ih => exact ih.cons (.inr (by decide))
  | case4 => exact Cut.stopsBy_single
  | case5 => exact Cut.stopsBy_single
  | case6 inClass s hb hl hs ih => exact ih.cons_plain hb hl
  | case7 inClass s hb hl hs ho ih => exact ih.cons_plain hb hl
  | case8 inClass b s hb hl hs ho hc ih => exact ih.cons_plain hb hl

/-- What is broken off has no more of the script behind it, or ends with such a line feed. -/
theorem regexTail_stopsAt {inClass escaped : Bool} {s : List UInt8}
    (h : (regexTail inClass escaped s).closed = false) :
    (regexTail inClass escaped s).rest = [] ∨
      (regexTail inClass escaped s).StopsAt escaped s lineFeed := by
  fun_induction regexTail inClass escaped s with
  | case1 => exact .inl rfl
  | case2 inClass b s ih => exact (ih h).imp_right Cut.StopsAt.cons
  | case3 inClass s ih => exact (ih h).imp_right Cut.StopsAt.cons
  | case4 => exact .inr (Cut.stopsAt_single)
  -- a slash outside a class makes it complete
  | case5 => exact absurd h (by simp)
  | case6 inClass s hb hl hs ih => exact (ih h).imp_right (Cut.StopsAt.cons_plain · hb)
  | case7 inClass s hb hl hs ho ih => exact (ih h).imp_right (Cut.StopsAt.cons_plain · hb)
  | case8 inClass b s hb hl hs ho hc ih => exact (ih h).imp_right (Cut.StopsAt.cons_plain · hb)

/-- What is broken off has no more of the script behind it, or ends with a line feed. -/
theorem regexTail_of_not_closed {inClass escaped : Bool} {s : List UInt8}
    (h : (regexTail inClass escaped s).closed = false) :
    (regexTail inClass escaped s).rest = [] ∨
      (regexTail inClass escaped s).text.getLast? = some lineFeed := by
  refine (regexTail_stopsAt h).imp_right ?_
  rintro ⟨i, hi, hlen⟩
  -- the byte behind which the text ends is its last
  have hget := hi.getElem
  rw [← regexTail_text_append_rest inClass escaped s,
    List.getElem?_append_left (by omega)] at hget
  rw [List.getLast?_eq_getElem?, hlen, Nat.add_sub_cancel, hget]

end PageScan.Script
