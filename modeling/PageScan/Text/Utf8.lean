/-!
# UTF-8

`encode` writes characters as bytes and `decode` reads bytes as characters. Reading is total: a
byte sequence that is no character is one fault, and reading goes on behind it. A fault takes the
longest beginning of a character that the bytes offer (a lead byte with the tails that may follow
it), or a single byte when there is none.

From `decode` come the two readers: `decodeLossy` puts U+FFFD for each fault, `decode?` refuses a
text with a fault. `splitAt?` cuts a text at a byte offset and refuses an offset inside a
character.
-/

namespace PageScan.Text

/-! ### Writing -/

/-- The bytes of one character: its bits in groups of six behind a lead byte. -/
def encodeChar (c : Char) : List UInt8 :=
  let n := c.toNat
  if n < 0x80 then [UInt8.ofNat n]
  else if n < 0x800 then [UInt8.ofNat (0xC0 + n / 64), UInt8.ofNat (0x80 + n % 64)]
  else if n < 0x10000 then
    [UInt8.ofNat (0xE0 + n / 4096), UInt8.ofNat (0x80 + n / 64 % 64), UInt8.ofNat (0x80 + n % 64)]
  else
    [UInt8.ofNat (0xF0 + n / 262144), UInt8.ofNat (0x80 + n / 4096 % 64),
      UInt8.ofNat (0x80 + n / 64 % 64), UInt8.ofNat (0x80 + n % 64)]

/-- The bytes of a text. -/
def encode (cs : List Char) : List UInt8 := cs.flatMap encodeChar

@[simp] theorem encode_nil : encode [] = [] := rfl

@[simp] theorem encode_cons (c : Char) (cs : List Char) :
    encode (c :: cs) = encodeChar c ++ encode cs := rfl

@[simp] theorem encode_append (a b : List Char) : encode (a ++ b) = encode a ++ encode b := by
  simp [encode]

/-- The bytes of a string. -/
def bytes (s : String) : List UInt8 := encode s.toList

theorem bytes_append (s t : String) : bytes (s ++ t) = bytes s ++ bytes t := by
  rw [bytes, String.toList_append, encode_append, bytes, bytes]

/-- The number of bytes that a text takes. -/
def byteLength (cs : List Char) : Nat := (encode cs).length

/-! ### Reading -/

/-- What a lead byte announces: the bits it carries, the range of the byte that must follow, and
the number of bytes that must follow in all. The range keeps out overlong forms, surrogates and
numbers above U+10FFFF. -/
structure Lead where
  bits : Nat
  least : UInt8
  greatest : UInt8
  tails : Nat

/-- The announcement of a byte, if it may begin a character. -/
def lead? (b : UInt8) : Option Lead :=
  if b < 0x80 then some ⟨b.toNat, 0x80, 0xBF, 0⟩
  else if b < 0xC2 then none
  else if b < 0xE0 then some ⟨b.toNat - 0xC0, 0x80, 0xBF, 1⟩
  else if b < 0xF0 then
    some ⟨b.toNat - 0xE0, if b = 0xE0 then 0xA0 else 0x80, if b = 0xED then 0x9F else 0xBF, 2⟩
  else if b < 0xF5 then
    some ⟨b.toNat - 0xF0, if b = 0xF0 then 0x90 else 0x80, if b = 0xF4 then 0x8F else 0xBF, 3⟩
  else none

/-- Reads the announced tails. The character is missing when one of them is, and what is left then
begins at the byte that should have been a tail. -/
def readTails (bits : Nat) (least greatest : UInt8) : Nat → List UInt8 → Option Char × List UInt8
  | 0, rest => (some (Char.ofNat bits), rest)
  | _ + 1, [] => (none, [])
  | n + 1, b :: rest =>
    if least ≤ b ∧ b ≤ greatest then
      readTails (bits * 64 + (b.toNat - 0x80)) 0x80 0xBF n rest
    else (none, b :: rest)

theorem length_readTails_le (bits : Nat) (least greatest : UInt8) (n : Nat) (bs : List UInt8) :
    (readTails bits least greatest n bs).2.length ≤ bs.length := by
  fun_induction readTails bits least greatest n bs with
  | case1 => exact Nat.le_refl _
  | case2 => exact Nat.le_refl _
  | case3 _ _ _ _ _ _ _ ih => exact Nat.le_succ_of_le ih
  | case4 => exact Nat.le_refl _

/-- Reads one character, or one fault, off a non-empty byte sequence. -/
def decodeFirst (b : UInt8) (rest : List UInt8) : Option Char × List UInt8 :=
  match lead? b with
  | some l => readTails l.bits l.least l.greatest l.tails rest
  | none => (none, rest)

theorem length_decodeFirst_le (b : UInt8) (rest : List UInt8) :
    (decodeFirst b rest).2.length ≤ rest.length := by
  unfold decodeFirst
  split
  · exact length_readTails_le ..
  · exact Nat.le_refl _

/-- **Reading bytes.** The characters of a byte sequence in order, with `none` for each fault. -/
def decode : List UInt8 → List (Option Char)
  | [] => []
  | b :: rest => (decodeFirst b rest).1 :: decode (decodeFirst b rest).2
termination_by bs => bs.length
decreasing_by exact Nat.lt_succ_of_le (length_decodeFirst_le b rest)

/-- The mark that stands for a fault. -/
def replacement : Char := '\uFFFD'

/-- The text of a byte sequence, with the mark `replacement` for each fault. -/
def decodeLossy (bs : List UInt8) : List Char := (decode bs).map (·.getD replacement)

/-- The text of a byte sequence without faults. -/
def decode? (bs : List UInt8) : Option (List Char) := (decode bs).mapM id

/-! ### Cutting at a byte offset -/

/-- The two parts of a text at a byte offset; none when the offset is behind the end or inside a
character. -/
def splitAt? : Nat → List Char → Option (List Char × List Char)
  | 0, cs => some ([], cs)
  | _ + 1, [] => none
  | n + 1, c :: cs =>
    if (encodeChar c).length ≤ n + 1 then
      (splitAt? (n + 1 - (encodeChar c).length) cs).map fun (a, b) => (c :: a, b)
    else none

end PageScan.Text
