import Mathlib.Data.UInt
import Mathlib.Data.Nat.Bitwise
import Mathlib.Tactic.Ring
import Mathlib.Tactic.Linarith

/-! # Byte strings and fixed-width integers

Big-endian and little-endian encodings of naturals as byte strings, and the identities
that turn the shift-and-or code of a serializer into them:

* `bigEndian w n` / `ofBigEndian bytes`: the `w` most-significant-first bytes of `n` and
  the number such bytes spell, inverse to each other.
* `littleEndian w n` / `ofLittleEndian bytes`: the same with the bytes in opposite order.
* `uint16_or_bytes`, `uint32_or_bytes`, `uint64_or_bytes`: an or of shifted bytes is the
  number the bytes spell.
* `overwrite`: a write of one byte string into another at an offset.
-/

namespace Library.Bytes

/-! ## Most significant byte first -/

/-- The `w` big-endian bytes of `n`; bits above `8 * w` are dropped. -/
def bigEndian : Nat → Nat → List UInt8
  | 0, _ => []
  | w + 1, n => UInt8.ofNat (n / 256 ^ w) :: bigEndian w n

/-- The number spelled by big-endian bytes. -/
def ofBigEndian : List UInt8 → Nat
  | [] => 0
  | byte :: bytes => byte.toNat * 256 ^ bytes.length + ofBigEndian bytes

@[simp] theorem bigEndian_length (w n : Nat) : (bigEndian w n).length = w := by
  induction w with
  | zero => rfl
  | succ w ih => simp [bigEndian, ih]

theorem ofBigEndian_lt (bytes : List UInt8) : ofBigEndian bytes < 256 ^ bytes.length := by
  induction bytes with
  | nil => simp [ofBigEndian]
  | cons byte bytes ih =>
    have bound : byte.toNat < 256 := byte.toNat_lt
    rw [ofBigEndian, List.length_cons, pow_succ]
    nlinarith [Nat.mul_le_mul_right (256 ^ bytes.length) (Nat.succ_le_of_lt bound)]

theorem ofBigEndian_bigEndian (w n : Nat) : ofBigEndian (bigEndian w n) = n % 256 ^ w := by
  induction w with
  | zero => simp [bigEndian, ofBigEndian, Nat.mod_one]
  | succ w ih =>
    -- the leading byte loses what stands above it
    have lead : (UInt8.ofNat (n / 256 ^ w)).toNat = n / 256 ^ w % 256 := UInt8.toNat_ofNat'
    rw [bigEndian, ofBigEndian, ih, bigEndian_length, lead, pow_succ, Nat.mod_mul,
      Nat.mul_comm, Nat.add_comm]

theorem ofBigEndian_bigEndian_of_lt {w n : Nat} (bound : n < 256 ^ w) :
    ofBigEndian (bigEndian w n) = n := by
  rw [ofBigEndian_bigEndian, Nat.mod_eq_of_lt bound]

theorem ofBigEndian_append (front rest : List UInt8) :
    ofBigEndian (front ++ rest) = ofBigEndian front * 256 ^ rest.length + ofBigEndian rest := by
  induction front with
  | nil => simp [ofBigEndian]
  | cons byte front ih =>
    rw [List.cons_append, ofBigEndian, ih, ofBigEndian, List.length_append]
    ring

/-- Byte strings of one length spell different numbers. -/
theorem ofBigEndian_inj {bytes bytes' : List UInt8} (length : bytes.length = bytes'.length)
    (same : ofBigEndian bytes = ofBigEndian bytes') : bytes = bytes' := by
  induction bytes generalizing bytes' with
  | nil => exact (List.length_eq_zero_iff.mp length.symm).symm
  | cons byte bytes ih =>
    cases bytes' with
    | nil => exact absurd length (by simp)
    | cons byte' bytes' =>
      rw [List.length_cons, List.length_cons, Nat.succ_inj] at length
      rw [ofBigEndian, ofBigEndian, ← length, Nat.mul_comm, Nat.mul_comm byte'.toNat] at same
      have low := ofBigEndian_lt bytes
      have low' := ofBigEndian_lt bytes'
      rw [← length] at low'
      -- quotient and remainder by the weight of the leading byte
      have lead : byte.toNat = byte'.toNat := by
        have quotient := congrArg (· / 256 ^ bytes.length) same
        simpa only [Nat.mul_add_div (Nat.pow_pos (by decide : 0 < 256)), Nat.div_eq_of_lt low,
          Nat.div_eq_of_lt low', Nat.add_zero] using quotient
      rw [lead] at same
      rw [UInt8.toNat_inj.mp lead, ih length (Nat.add_left_cancel same)]

theorem bigEndian_ofBigEndian (bytes : List UInt8) :
    bigEndian bytes.length (ofBigEndian bytes) = bytes := by
  apply ofBigEndian_inj (bigEndian_length _ _)
  rw [ofBigEndian_bigEndian_of_lt (ofBigEndian_lt bytes)]

theorem bigEndian_inj {w n m : Nat} (bound : n < 256 ^ w) (bound' : m < 256 ^ w) :
    bigEndian w n = bigEndian w m ↔ n = m := by
  constructor
  · intro same
    rw [← ofBigEndian_bigEndian_of_lt bound, same, ofBigEndian_bigEndian_of_lt bound']
  · rintro rfl
    rfl

theorem bigEndian_append_inj {w n m : Nat} {rest rest' : List UInt8} :
    bigEndian w n ++ rest = bigEndian w m ++ rest' ↔
      bigEndian w n = bigEndian w m ∧ rest = rest' := by
  constructor
  · intro same
    exact List.append_inj same (by rw [bigEndian_length, bigEndian_length])
  · rintro ⟨front, rfl⟩
    rw [front]

/-! ## Least significant byte first -/

/-- The `w` little-endian bytes of `n`. -/
def littleEndian (w n : Nat) : List UInt8 := (bigEndian w n).reverse

/-- The number spelled by little-endian bytes. -/
def ofLittleEndian (bytes : List UInt8) : Nat := ofBigEndian bytes.reverse

@[simp] theorem littleEndian_length (w n : Nat) : (littleEndian w n).length = w := by
  simp [littleEndian]

theorem ofLittleEndian_littleEndian_of_lt {w n : Nat} (bound : n < 256 ^ w) :
    ofLittleEndian (littleEndian w n) = n := by
  simp [ofLittleEndian, littleEndian, ofBigEndian_bigEndian_of_lt bound]

theorem littleEndian_ofLittleEndian (bytes : List UInt8) :
    littleEndian bytes.length (ofLittleEndian bytes) = bytes := by
  have same := bigEndian_ofBigEndian bytes.reverse
  rw [List.length_reverse] at same
  rw [littleEndian, ofLittleEndian, same, List.reverse_reverse]

theorem ofLittleEndian_lt (bytes : List UInt8) : ofLittleEndian bytes < 256 ^ bytes.length := by
  simpa [ofLittleEndian] using ofBigEndian_lt bytes.reverse

/-! ## Shift-and-or serializers -/

/-- One more byte below what was or-ed together so far. -/
theorem or_next_byte (value byte k : Nat) (small : byte < 256) :
    value * 2 ^ (k + 8) ||| byte * 2 ^ k = (value * 256 + byte) * 2 ^ k := by
  have shift : value * 2 ^ (k + 8) = (value <<< 8) <<< k := by
    rw [Nat.shiftLeft_eq, Nat.shiftLeft_eq]; ring
  rw [shift, ← Nat.shiftLeft_eq byte, ← Nat.shiftLeft_or_distrib,
    ← Nat.shiftLeft_add_eq_or_of_lt (by omega), Nat.shiftLeft_eq, Nat.shiftLeft_eq]

theorem uint16_shift_byte (byte : UInt8) : (byte.toUInt16 <<< 8).toNat = byte.toNat * 2 ^ 8 := by
  have small : byte.toNat < 256 := byte.toNat_lt
  rw [UInt16.toNat_shiftLeft, UInt8.toNat_toUInt16, Nat.shiftLeft_eq]
  exact Nat.mod_eq_of_lt (by simp; omega)

theorem uint32_shift_byte (byte : UInt8) (s : UInt32) (bound : s.toNat ≤ 24) :
    (byte.toUInt32 <<< s).toNat = byte.toNat * 2 ^ s.toNat := by
  have small : byte.toNat < 256 := byte.toNat_lt
  have power : 2 ^ s.toNat ≤ 2 ^ 24 := Nat.pow_le_pow_right (by decide) bound
  rw [UInt32.toNat_shiftLeft, UInt8.toNat_toUInt32, Nat.shiftLeft_eq,
    Nat.mod_eq_of_lt (by omega : s.toNat < 32)]
  exact Nat.mod_eq_of_lt (by nlinarith)

theorem uint64_shift_byte (byte : UInt8) (s : UInt64) (bound : s.toNat ≤ 56) :
    (byte.toUInt64 <<< s).toNat = byte.toNat * 2 ^ s.toNat := by
  have small : byte.toNat < 256 := byte.toNat_lt
  have power : 2 ^ s.toNat ≤ 2 ^ 56 := Nat.pow_le_pow_right (by decide) bound
  rw [UInt64.toNat_shiftLeft, UInt8.toNat_toUInt64, Nat.shiftLeft_eq,
    Nat.mod_eq_of_lt (by omega : s.toNat < 64)]
  exact Nat.mod_eq_of_lt (by nlinarith)

theorem uint16_or_bytes (b0 b1 : UInt8) :
    (b0.toUInt16 <<< 8) ||| b1.toUInt16 = UInt16.ofNat (ofBigEndian [b0, b1]) := by
  have bound : ofBigEndian [b0, b1] < 2 ^ 16 :=
    (ofBigEndian_lt _).trans_eq (by norm_num)
  have low := or_next_byte b0.toNat b1.toNat 0 b1.toNat_lt
  simp only [Nat.zero_add, pow_zero, Nat.mul_one] at low
  rw [← UInt16.toNat_inj, UInt16.toNat_ofNat', Nat.mod_eq_of_lt bound, UInt16.toNat_or,
    uint16_shift_byte, UInt8.toNat_toUInt16, low]
  simp [ofBigEndian]

theorem uint32_or_bytes (b0 b1 b2 b3 : UInt8) :
    (b0.toUInt32 <<< 24) ||| (b1.toUInt32 <<< 16) ||| (b2.toUInt32 <<< 8) ||| b3.toUInt32 =
      UInt32.ofNat (ofBigEndian [b0, b1, b2, b3]) := by
  have bound : ofBigEndian [b0, b1, b2, b3] < 2 ^ 32 :=
    (ofBigEndian_lt _).trans_eq (by norm_num)
  have low := or_next_byte ((b0.toNat * 256 + b1.toNat) * 256 + b2.toNat) b3.toNat 0 b3.toNat_lt
  simp only [Nat.zero_add, pow_zero, Nat.mul_one] at low
  rw [← UInt32.toNat_inj, UInt32.toNat_ofNat', Nat.mod_eq_of_lt bound]
  simp only [UInt32.toNat_or, UInt8.toNat_toUInt32]
  rw [uint32_shift_byte b0 24 (by decide), uint32_shift_byte b1 16 (by decide),
    uint32_shift_byte b2 8 (by decide)]
  -- `or_next_byte` takes the bytes in from the top, one at a time
  change b0.toNat * 2 ^ (16 + 8) ||| b1.toNat * 2 ^ (8 + 8) ||| b2.toNat * 2 ^ 8 ||| b3.toNat = _
  rw [or_next_byte _ _ _ b1.toNat_lt, or_next_byte _ _ _ b2.toNat_lt, low]
  simp only [ofBigEndian, List.length_cons, List.length_nil]
  ring

theorem uint64_or_bytes (b0 b1 b2 b3 b4 b5 b6 b7 : UInt8) :
    (b0.toUInt64 <<< 56) ||| (b1.toUInt64 <<< 48) ||| (b2.toUInt64 <<< 40) |||
        (b3.toUInt64 <<< 32) ||| (b4.toUInt64 <<< 24) ||| (b5.toUInt64 <<< 16) |||
        (b6.toUInt64 <<< 8) ||| b7.toUInt64 =
      UInt64.ofNat (ofBigEndian [b0, b1, b2, b3, b4, b5, b6, b7]) := by
  have bound : ofBigEndian [b0, b1, b2, b3, b4, b5, b6, b7] < 2 ^ 64 :=
    (ofBigEndian_lt _).trans_eq (by norm_num)
  have low := fun value => or_next_byte value b7.toNat 0 b7.toNat_lt
  simp only [Nat.zero_add, pow_zero, Nat.mul_one] at low
  rw [← UInt64.toNat_inj, UInt64.toNat_ofNat', Nat.mod_eq_of_lt bound]
  simp only [UInt64.toNat_or, UInt8.toNat_toUInt64]
  rw [uint64_shift_byte b0 56 (by decide), uint64_shift_byte b1 48 (by decide),
    uint64_shift_byte b2 40 (by decide), uint64_shift_byte b3 32 (by decide),
    uint64_shift_byte b4 24 (by decide), uint64_shift_byte b5 16 (by decide),
    uint64_shift_byte b6 8 (by decide)]
  -- as in `uint32_or_bytes`, byte by byte from the top
  change b0.toNat * 2 ^ (48 + 8) ||| b1.toNat * 2 ^ (40 + 8) ||| b2.toNat * 2 ^ (32 + 8) |||
    b3.toNat * 2 ^ (24 + 8) ||| b4.toNat * 2 ^ (16 + 8) ||| b5.toNat * 2 ^ (8 + 8) |||
    b6.toNat * 2 ^ 8 ||| b7.toNat = _
  rw [or_next_byte _ _ _ b1.toNat_lt, or_next_byte _ _ _ b2.toNat_lt,
    or_next_byte _ _ _ b3.toNat_lt, or_next_byte _ _ _ b4.toNat_lt,
    or_next_byte _ _ _ b5.toNat_lt, or_next_byte _ _ _ b6.toNat_lt, low]
  simp only [ofBigEndian, List.length_cons, List.length_nil]
  ring

/-- A byte cut out of a word by shift and mask. -/
theorem uint16_byte (value s : UInt16) (bound : s.toNat < 16) :
    ((value >>> s) &&& 0xFF).toUInt8 = UInt8.ofNat (value.toNat / 2 ^ s.toNat) := by
  rw [← UInt8.toNat_inj, UInt16.toNat_toUInt8, UInt16.toNat_and, UInt16.toNat_shiftRight,
    Nat.mod_eq_of_lt bound, Nat.shiftRight_eq_div_pow, UInt8.toNat_ofNat']
  -- the mask is the remainder that the narrowing takes anyway
  change (_ &&& 2 ^ 8 - 1) % 2 ^ 8 = _
  rw [Nat.and_two_pow_sub_one_eq_mod, Nat.mod_mod]

theorem uint32_byte (value s : UInt32) (bound : s.toNat < 32) :
    ((value >>> s) &&& 0xFF).toUInt8 = UInt8.ofNat (value.toNat / 2 ^ s.toNat) := by
  rw [← UInt8.toNat_inj, UInt32.toNat_toUInt8, UInt32.toNat_and, UInt32.toNat_shiftRight,
    Nat.mod_eq_of_lt bound, Nat.shiftRight_eq_div_pow, UInt8.toNat_ofNat']
  change (_ &&& 2 ^ 8 - 1) % 2 ^ 8 = _
  rw [Nat.and_two_pow_sub_one_eq_mod, Nat.mod_mod]

theorem uint64_byte (value s : UInt64) (bound : s.toNat < 64) :
    ((value >>> s) &&& 0xFF).toUInt8 = UInt8.ofNat (value.toNat / 2 ^ s.toNat) := by
  rw [← UInt8.toNat_inj, UInt64.toNat_toUInt8, UInt64.toNat_and, UInt64.toNat_shiftRight,
    Nat.mod_eq_of_lt bound, Nat.shiftRight_eq_div_pow, UInt8.toNat_ofNat']
  change (_ &&& 2 ^ 8 - 1) % 2 ^ 8 = _
  rw [Nat.and_two_pow_sub_one_eq_mod, Nat.mod_mod]

/-! ## Slices and writes at an offset -/

/-- The `n` bytes from `offset` on, fewer when the string ends before. -/
def slice (bytes : List UInt8) (offset n : Nat) : List UInt8 := (bytes.drop offset).take n

theorem slice_length {bytes : List UInt8} {offset n : Nat} (bound : offset + n ≤ bytes.length) :
    (slice bytes offset n).length = n := by
  simp only [slice, List.length_take, List.length_drop]
  omega

theorem slice_zero (bytes : List UInt8) (offset : Nat) : slice bytes offset 0 = [] := by
  simp [slice]

theorem slice_succ {bytes : List UInt8} {offset : Nat} (n : Nat) (bound : offset < bytes.length) :
    slice bytes offset (n + 1) = bytes.getD offset 0 :: slice bytes (offset + 1) n := by
  rw [slice, List.drop_eq_getElem_cons bound, List.take_succ_cons, slice,
    List.getD_eq_getElem bytes 0 bound]

/-- Two adjacent slices join. -/
theorem slice_append_slice (bytes : List UInt8) (offset n m : Nat) :
    slice bytes offset n ++ slice bytes (offset + n) m = slice bytes offset (n + m) := by
  rw [slice, slice, slice, List.take_add, List.drop_drop]

theorem slice_join (bytes : List UInt8) {offset n behind : Nat} (m : Nat)
    (adjacent : offset + n = behind) :
    slice bytes offset n ++ slice bytes behind m = slice bytes offset (n + m) := by
  rw [← adjacent, slice_append_slice]

/-- What is cut off behind the slice does not matter. -/
theorem slice_take (bytes : List UInt8) {offset n length : Nat} (inside : offset + n ≤ length) :
    slice (bytes.take length) offset n = slice bytes offset n := by
  rw [slice, slice, List.drop_take, List.take_take, Nat.min_eq_left (by omega)]

theorem slice_append_left {front : List UInt8} {n : Nat} (width : front.length = n)
    (rest : List UInt8) : slice (front ++ rest) 0 n = front := by
  subst width
  simp [slice]

theorem slice_append_right {front : List UInt8} {width offset : Nat} (length : front.length = width)
    (rest : List UInt8) (n : Nat) (skipped : width ≤ offset) :
    slice (front ++ rest) offset n = slice rest (offset - width) n := by
  subst length
  rw [slice, slice, List.drop_append, List.drop_eq_nil_of_le skipped, List.nil_append]

/-- `bytes` with `chunk` written over it from `offset` on; what would stand past the end is
    dropped. -/
def overwrite (bytes : List UInt8) (offset : Nat) (chunk : List UInt8) : List UInt8 :=
  (bytes.take offset ++ chunk ++ bytes.drop (offset + chunk.length)).take bytes.length

theorem overwrite_length (bytes : List UInt8) (offset : Nat) (chunk : List UInt8) :
    (overwrite bytes offset chunk).length = bytes.length := by
  simp only [overwrite, List.length_take, List.length_append, List.length_drop]
  omega

/-- A position outside of the chunk keeps its byte. -/
theorem overwrite_outside {bytes chunk : List UInt8} {offset p : Nat}
    (fits : offset + chunk.length ≤ bytes.length)
    (outside : ¬ (offset ≤ p ∧ p < offset + chunk.length)) :
    (overwrite bytes offset chunk)[p]? = bytes[p]? := by
  have front : (bytes.take offset).length = offset := List.length_take_of_le (by omega)
  have whole : bytes.take offset ++ chunk ++ bytes.drop (offset + chunk.length) =
      bytes.take offset ++ (chunk ++ bytes.drop (offset + chunk.length)) := List.append_assoc _ _ _
  rw [overwrite, List.take_of_length_le (by simp; omega)]
  cases Nat.lt_or_ge p offset with
  | inl before =>
    rw [whole, List.getElem?_append_left (by omega), List.getElem?_take_of_lt before]
  | inr behind =>
    have length : (bytes.take offset ++ chunk).length = offset + chunk.length := by simp [front]
    rw [List.getElem?_append_right (by omega), length, List.getElem?_drop]
    congr 1
    omega

/-- A position of the chunk holds the chunk's byte. -/
theorem overwrite_inside {bytes chunk : List UInt8} {offset p : Nat}
    (fits : offset + chunk.length ≤ bytes.length) (first : offset ≤ p)
    (past : p < offset + chunk.length) :
    (overwrite bytes offset chunk)[p]? = chunk[p - offset]? := by
  have front : (bytes.take offset).length = offset := List.length_take_of_le (by omega)
  have length : (bytes.take offset ++ chunk).length = offset + chunk.length := by simp [front]
  rw [overwrite, List.take_of_length_le (by simp; omega), List.getElem?_append_left (by omega),
    List.getElem?_append_right (by omega), front]

/-- The next `n` bytes of `bytes` written behind the part copied so far. -/
theorem overwrite_next {bytes : List UInt8} {copied n : Nat} (fits : copied + n ≤ bytes.length) :
    overwrite (bytes.take copied ++ List.replicate (bytes.length - copied) 0) copied
        (slice bytes copied n) =
      bytes.take (copied + n) ++ List.replicate (bytes.length - (copied + n)) 0 := by
  have front : (bytes.take copied).length = copied := List.length_take_of_le (by omega)
  have chunk : (slice bytes copied n).length = n := slice_length fits
  have zeros : bytes.length - copied - n = bytes.length - (copied + n) := by omega
  simp only [overwrite, chunk]
  rw [List.take_left' front, List.drop_append, List.drop_eq_nil_of_le (by omega), front,
    List.nil_append, Nat.add_sub_cancel_left, List.drop_replicate, zeros, slice, ← List.take_add]
  apply List.take_of_length_le
  simp only [List.length_append, List.length_take, List.length_replicate]
  omega

end Library.Bytes
