import PageScan.Text.Utf8

/-!
# Writing and reading UTF-8

What is written is read back: `decode_encode`, and from it the two readers (`decodeLossy_encode`,
`decode?_encode`) and the cut at a byte offset (`splitAt?_encode`). The bytes that are written are
the UTF-8 of the standard library (`toByteArray_encode`), so that a byte sequence is valid UTF-8
exactly when it is an `encode`.

A character outside ASCII is written in bytes that are all outside ASCII. So a place between two
bytes, one of which is ASCII, never lies inside a character: `exists_split_of_ascii`.
-/

namespace PageScan.Text

/-- The numbers of characters leave out the surrogates. -/
theorem toNat_valid (c : Char) :
    c.toNat < 0xD800 ∨ 0xDFFF < c.toNat ∧ c.toNat < 0x110000 := by
  have hvalid := c.valid
  rwa [UInt32.isValidChar, Nat.isValidChar, Char.toNat_val] at hvalid

/-! ### The bytes of the standard library -/

/-- One character in the bytes of the standard library: the same sums, in another order. -/
theorem encodeChar_eq (c : Char) : encodeChar c = String.utf8EncodeChar c := by
  have hvalid := toNat_valid c
  simp only [encodeChar, String.utf8EncodeChar, Char.toNat_val]
  -- the same four cases by the number of the character
  by_cases h₁ : c.toNat < 0x80
  · rw [if_pos h₁, if_pos (by omega)]
  by_cases h₂ : c.toNat < 0x800
  · rw [if_neg h₁, if_pos h₂, if_neg (by omega), if_pos (by omega),
      show 0xC0 + c.toNat / 64 = c.toNat / 64 % 0x20 + 0xC0 by omega,
      Nat.add_comm 0x80 (c.toNat % 64)]
  by_cases h₃ : c.toNat < 0x10000
  · rw [if_neg h₁, if_neg h₂, if_pos h₃, if_neg (by omega), if_neg (by omega), if_pos (by omega),
      show 0xE0 + c.toNat / 4096 = c.toNat / 4096 % 0x10 + 0xE0 by omega,
      Nat.add_comm 0x80 (c.toNat / 64 % 64), Nat.add_comm 0x80 (c.toNat % 64)]
  · rw [if_neg h₁, if_neg h₂, if_neg h₃, if_neg (by omega), if_neg (by omega), if_neg (by omega),
      show 0xF0 + c.toNat / 262144 = c.toNat / 262144 % 0x08 + 0xF0 by omega,
      Nat.add_comm 0x80 (c.toNat / 4096 % 64), Nat.add_comm 0x80 (c.toNat / 64 % 64),
      Nat.add_comm 0x80 (c.toNat % 64)]

/-- A text in the bytes of the standard library. -/
theorem toByteArray_encode (cs : List Char) : (encode cs).toByteArray = cs.utf8Encode := by
  rw [encode, List.utf8Encode, funext encodeChar_eq]

/-- **Valid UTF-8 is what is written.** -/
theorem isValidUTF8_iff {bs : List UInt8} :
    bs.toByteArray.IsValidUTF8 ↔ ∃ cs, bs = encode cs := by
  constructor
  · -- the library has valid UTF-8 as a byte array; equal arrays hold equal lists
    rintro ⟨cs, hcs⟩
    rw [← toByteArray_encode] at hcs
    exact ⟨cs, by simpa using congrArg (·.data.toList) hcs⟩
  · rintro ⟨cs, rfl⟩
    exact ⟨cs, toByteArray_encode cs⟩

/-! ### ASCII and other bytes -/

/-- A character is one ASCII byte, or bytes of which none is ASCII. -/
theorem encodeChar_ascii_or (c : Char) :
    (∃ b, encodeChar c = [b]) ∨ ∀ b ∈ encodeChar c, 0x80 ≤ b.toNat := by
  have hvalid := toNat_valid c
  unfold encodeChar
  dsimp only
  split
  · exact .inl ⟨_, rfl⟩
  · right
    -- two bytes, three or four, each with its high bit set
    repeat' split
    all_goals
      simp only [List.mem_cons, List.not_mem_nil, or_false, forall_eq_or_imp, forall_eq,
        UInt8.toNat_ofNat']
      omega

theorem encodeChar_ne_nil (c : Char) : encodeChar c ≠ [] := by
  rw [encodeChar_eq]
  exact String.utf8EncodeChar_ne_nil

/-! ### One character -/

/-- The number of a byte that is written. -/
theorem toNat_ofNat {n : Nat} (hn : n < 256) : (UInt8.ofNat n).toNat = n :=
  UInt8.toNat_ofNat_of_lt' hn

/-- A byte in the announced range is one tail: six bits more. -/
theorem readTails_succ {least greatest : UInt8} {bits m : Nat} (n : Nat) (rest : List UInt8)
    (hm : m < 64) (hleast : least.toNat ≤ 0x80 + m) (hgreatest : 0x80 + m ≤ greatest.toNat) :
    readTails bits least greatest (n + 1) (UInt8.ofNat (0x80 + m) :: rest) =
      readTails (bits * 64 + m) 0x80 0xBF n rest := by
  have hb : (UInt8.ofNat (0x80 + m)).toNat = 0x80 + m := toNat_ofNat (by omega)
  have hrange : least ≤ UInt8.ofNat (0x80 + m) ∧ UInt8.ofNat (0x80 + m) ≤ greatest := by
    rw [UInt8.le_iff_toNat_le, UInt8.le_iff_toNat_le, hb]
    exact ⟨hleast, hgreatest⟩
  rw [readTails, if_pos hrange, hb, Nat.add_sub_cancel_left]

/-- A tail that may be any. -/
theorem readTails_any {bits m : Nat} (n : Nat) (rest : List UInt8) (hm : m < 64) :
    readTails bits 0x80 0xBF (n + 1) (UInt8.ofNat (0x80 + m) :: rest) =
      readTails (bits * 64 + m) 0x80 0xBF n rest :=
  readTails_succ n rest hm (Nat.le_add_right ..) (show 0x80 + m ≤ 0xBF by omega)

theorem lead?_one {m : Nat} (hm : m < 0x80) : lead? (UInt8.ofNat m) = some ⟨m, 0x80, 0xBF, 0⟩ := by
  have hb : (UInt8.ofNat m).toNat = m := toNat_ofNat (by omega)
  have hlt : UInt8.ofNat m < 0x80 := by
    rw [UInt8.lt_iff_toNat_lt, hb]
    exact hm
  rw [lead?, if_pos hlt, hb]

/-- The lead byte of two, which is none of the two that would be overlong. -/
theorem lead?_two {m : Nat} (h : 2 ≤ m) (hm : m < 32) :
    lead? (UInt8.ofNat (0xC0 + m)) = some ⟨m, 0x80, 0xBF, 1⟩ := by
  have hb : (UInt8.ofNat (0xC0 + m)).toNat = 0xC0 + m := toNat_ofNat (by omega)
  simp only [lead?, UInt8.lt_iff_toNat_lt, hb, UInt8.toNat_ofNat, Nat.reducePow, Nat.reduceMod]
  rw [if_neg (by omega), if_neg (by omega), if_pos (by omega), Nat.add_sub_cancel_left]

/-- The lead byte of three, with the range of the first tail. -/
theorem lead?_three {m : Nat} (hm : m < 16) :
    lead? (UInt8.ofNat (0xE0 + m)) =
      some ⟨m, if m = 0 then 0xA0 else 0x80, if m = 0xD then 0x9F else 0xBF, 2⟩ := by
  have hb : (UInt8.ofNat (0xE0 + m)).toNat = 0xE0 + m := toNat_ofNat (by omega)
  -- only the first of these lead bytes raises the least tail, and only one lowers the greatest
  have hleast : UInt8.ofNat (0xE0 + m) = 0xE0 ↔ m = 0 := by
    rw [← UInt8.toNat_inj, hb]
    show 0xE0 + m = 0xE0 ↔ m = 0
    omega
  have hgreatest : UInt8.ofNat (0xE0 + m) = 0xED ↔ m = 0xD := by
    rw [← UInt8.toNat_inj, hb]
    show 0xE0 + m = 0xED ↔ m = 0xD
    omega
  simp only [lead?, UInt8.lt_iff_toNat_lt, hb, UInt8.toNat_ofNat, Nat.reducePow, Nat.reduceMod,
    hleast, hgreatest]
  rw [if_neg (by omega), if_neg (by omega), if_neg (by omega), if_pos (by omega),
    Nat.add_sub_cancel_left]

/-- The lead byte of four, with the range of the first tail. -/
theorem lead?_four {m : Nat} (hm : m < 5) :
    lead? (UInt8.ofNat (0xF0 + m)) =
      some ⟨m, if m = 0 then 0x90 else 0x80, if m = 4 then 0x8F else 0xBF, 3⟩ := by
  have hb : (UInt8.ofNat (0xF0 + m)).toNat = 0xF0 + m := toNat_ofNat (by omega)
  have hleast : UInt8.ofNat (0xF0 + m) = 0xF0 ↔ m = 0 := by
    rw [← UInt8.toNat_inj, hb]
    show 0xF0 + m = 0xF0 ↔ m = 0
    omega
  have hgreatest : UInt8.ofNat (0xF0 + m) = 0xF4 ↔ m = 4 := by
    rw [← UInt8.toNat_inj, hb]
    show 0xF0 + m = 0xF4 ↔ m = 4
    omega
  simp only [lead?, UInt8.lt_iff_toNat_lt, hb, UInt8.toNat_ofNat, Nat.reducePow, Nat.reduceMod,
    hleast, hgreatest]
  rw [if_neg (by omega), if_neg (by omega), if_neg (by omega), if_neg (by omega),
    if_pos (by omega), Nat.add_sub_cancel_left]

/-- **A written character is read back**, and nothing behind it is touched. -/
theorem decodeFirst_encodeChar (c : Char) (rest : List UInt8) :
    ∃ b bs, encodeChar c = b :: bs ∧ decodeFirst b (bs ++ rest) = (some c, rest) := by
  have hvalid := toNat_valid c
  -- once the bits are together, the number is that of the character
  have hread : ∀ n, n = c.toNat → ∀ least greatest,
      readTails n least greatest 0 rest = (some c, rest) := by
    rintro n rfl least greatest
    rw [readTails, Char.ofNat_toNat]
  unfold encodeChar
  dsimp only
  by_cases h₁ : c.toNat < 0x80
  · -- one byte, without a tail
    rw [if_pos h₁]
    refine ⟨_, _, rfl, ?_⟩
    simp only [decodeFirst, lead?_one h₁, List.nil_append]
    exact hread _ rfl _ _
  by_cases h₂ : c.toNat < 0x800
  · -- two bytes; by `h₁` one is not enough, so the lead byte is none of the overlong ones
    rw [if_neg h₁, if_pos h₂]
    refine ⟨_, _, rfl, ?_⟩
    simp only [decodeFirst, lead?_two (m := c.toNat / 64) (by omega) (by omega), List.cons_append,
      List.nil_append]
    rw [readTails_any 0 _ (by omega)]
    exact hread _ (by omega) _ _
  by_cases h₃ : c.toNat < 0x10000
  · -- three bytes; the range of the first tail keeps out overlong forms and surrogates
    rw [if_neg h₁, if_neg h₂, if_pos h₃]
    refine ⟨_, _, rfl, ?_⟩
    simp only [decodeFirst, lead?_three (m := c.toNat / 4096) (by omega), List.cons_append,
      List.nil_append]
    rw [readTails_succ 1 _ (by omega), readTails_any 0 _ (by omega)]
    · exact hread _ (by omega) _ _
    · split
      · show 0xA0 ≤ _
        omega
      · exact Nat.le_add_right ..
    · split
      · show _ ≤ 0x9F
        omega
      · show _ ≤ 0xBF
        omega
  · -- four bytes; the range of the first tail keeps out overlong forms and too large numbers
    rw [if_neg h₁, if_neg h₂, if_neg h₃]
    refine ⟨_, _, rfl, ?_⟩
    simp only [decodeFirst, lead?_four (m := c.toNat / 262144) (by omega), List.cons_append,
      List.nil_append]
    rw [readTails_succ 2 _ (by omega), readTails_any 1 _ (by omega), readTails_any 0 _ (by omega)]
    · exact hread _ (by omega) _ _
    · split
      · show 0x90 ≤ _
        omega
      · exact Nat.le_add_right ..
    · split
      · show _ ≤ 0x8F
        omega
      · show _ ≤ 0xBF
        omega

/-- **What is written is read back.** -/
theorem decode_encode (cs : List Char) : decode (encode cs) = cs.map some := by
  induction cs with
  | nil => rw [encode_nil, decode, List.map_nil]
  | cons c cs ih =>
    obtain ⟨b, bs, hc, hread⟩ := decodeFirst_encodeChar c (encode cs)
    rw [encode_cons, hc, List.cons_append, decode, hread, ih, List.map_cons]

theorem decodeLossy_encode (cs : List Char) : decodeLossy (encode cs) = cs := by
  simp [decodeLossy, decode_encode, Function.comp_def]

/-- Read strictly, a text is accepted and as it was written. -/
theorem decode?_encode (cs : List Char) : decode? (encode cs) = some cs := by
  rw [decode?, decode_encode]
  induction cs with
  | nil => rfl
  | cons c cs ih => simp [ih]

/-- Bytes begin with one character at most. -/
theorem encodeChar_append_inj {c d : Char} {a b : List UInt8}
    (h : encodeChar c ++ a = encodeChar d ++ b) : c = d ∧ a = b := by
  -- the reader takes one character off the bytes, and there is one result
  obtain ⟨x, xs, hc, hreadc⟩ := decodeFirst_encodeChar c a
  obtain ⟨y, ys, hd, hreadd⟩ := decodeFirst_encodeChar d b
  rw [hc, hd, List.cons_append, List.cons_append] at h
  obtain ⟨rfl, hrest⟩ := List.cons.inj h
  rw [hrest, hreadd] at hreadc
  obtain ⟨hchar, rfl⟩ := Prod.mk.inj hreadc
  exact ⟨(Option.some.inj hchar).symm, rfl⟩

/-- **Texts begin alike when their bytes do.** -/
theorem encode_prefix_iff {a b : List Char} : encode a <+: encode b ↔ a <+: b := by
  constructor
  · intro h
    induction a generalizing b with
    | nil => exact List.nil_prefix
    | cons c a ih =>
      obtain ⟨rest, hrest⟩ := h
      rw [encode_cons, List.append_assoc] at hrest
      cases b with
      | nil => exact absurd (List.append_eq_nil_iff.1 hrest).1 (encodeChar_ne_nil c)
      | cons d b =>
        obtain ⟨rfl, htail⟩ := encodeChar_append_inj hrest
        exact (List.cons_prefix_cons).2 ⟨rfl, ih ⟨rest, htail⟩⟩
  · rintro ⟨rest, rfl⟩
    rw [encode_append]
    exact List.prefix_append ..

/-! ### Where characters begin -/

/-- An offset between two characters is accepted, and cuts there. -/
theorem splitAt?_encode (a b : List Char) : splitAt? (encode a).length (a ++ b) = some (a, b) := by
  induction a with
  | nil => rw [encode_nil, List.length_nil, List.nil_append, splitAt?]
  | cons c a ih =>
    -- the character is not empty, so that the offset is not the start of the text
    obtain ⟨n, hn⟩ : ∃ n, (encode (c :: a)).length = n + 1 :=
      Nat.exists_eq_succ_of_ne_zero (by simp [encodeChar_ne_nil])
    -- the offset passes over the first character and goes on in the rest
    have hlen : n + 1 = (encodeChar c).length + (encode a).length := by
      rw [← hn, encode_cons, List.length_append]
    rw [hn, List.cons_append, splitAt?, if_pos (by omega),
      show n + 1 - (encodeChar c).length = (encode a).length by omega, ih, Option.map_some]

theorem byteLength_append (a b : List Char) :
    byteLength (a ++ b) = byteLength a + byteLength b := by
  rw [byteLength, encode_append, List.length_append, byteLength, byteLength]

theorem byteLength_pos {cs : List Char} (h : cs ≠ []) : 0 < byteLength cs := by
  obtain ⟨c, cs, rfl⟩ := List.exists_cons_of_ne_nil h
  rw [byteLength, encode_cons, List.length_append]
  exact Nat.add_pos_left (List.length_pos_iff.2 (encodeChar_ne_nil c)) _

/-- A place between two bytes of which one is ASCII, or at an end of the text. -/
def AsciiPlace (a b : List UInt8) : Prop :=
  (∀ x ∈ a.getLast?, x.toNat < 0x80) ∨ ∀ x ∈ b.head?, x.toNat < 0x80

/-- **Next to ASCII a text may be cut.** -/
theorem exists_split_of_ascii {cs : List Char} {a b : List UInt8} (h : encode cs = a ++ b)
    (hplace : AsciiPlace a b) :
    ∃ cs₁ cs₂, cs = cs₁ ++ cs₂ ∧ a = encode cs₁ ∧ b = encode cs₂ := by
  induction cs generalizing a with
  | nil =>
    obtain ⟨rfl, rfl⟩ := List.append_eq_nil_iff.1 h.symm
    exact ⟨[], [], rfl, rfl, rfl⟩
  | cons c cs ih =>
    rw [encode_cons] at h
    rcases List.append_eq_append_iff.1 h with ⟨s, rfl, hs⟩ | ⟨s, hc, rfl⟩
    · -- the place is behind the first character
      have hrest : AsciiPlace s b := by
        cases s with
        | nil => exact .inl fun x hx => absurd hx (Option.not_mem_none x)
        | cons x s =>
          rcases hplace with hlast | hhead
          · left
            intro y hy
            exact hlast y (by simpa [List.getLast?_append] using hy)
          · exact .inr hhead
      obtain ⟨cs₁, cs₂, rfl, rfl, rfl⟩ := ih hs hrest
      exact ⟨c :: cs₁, cs₂, rfl, rfl, rfl⟩
    · -- the place is not behind the last byte of the first character
      rcases a with _ | ⟨x, a⟩
      · exact ⟨[], c :: cs, rfl, rfl, by rw [encode_cons, hc, List.nil_append]⟩
      rcases s with _ | ⟨y, s⟩
      · exact ⟨[c], cs, rfl, by simpa [encode] using hc.symm, rfl⟩
      -- the place would be inside the character, between two bytes of it
      exfalso
      rcases encodeChar_ascii_or c with ⟨z, hz⟩ | hwide
      · rw [hz] at hc
        simp at hc
      rcases hplace with hlast | hhead
      · have hmem := List.getLast_mem (List.cons_ne_nil x a)
        have hlow := hlast _ (List.getLast?_eq_some_getLast (List.cons_ne_nil x a))
        have hhigh := hwide _ (hc ▸ List.mem_append_left _ hmem)
        omega
      · have hlow := hhead y rfl
        have hhigh := hwide y (by rw [hc]; simp)
        omega

end PageScan.Text
