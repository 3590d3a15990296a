import PictureReconstruct.Library.Bytes

/-! # Integers on the wire

The byte-order helpers that `RawFrameProtocol.cpp` and `ProtocolV2.h` each define for
themselves: both write and read most significant byte first.  A buffer with its size is a
list of bytes, a read returns the value and the advanced offset or `none` for `false`. -/

namespace PictureReconstruct.Wire

open Library.Bytes

/-! ## Writing -/

/-- `appendUint16`. -/
def appendUint16 (buffer : List UInt8) (value : UInt16) : List UInt8 :=
  buffer ++ [((value >>> 8) &&& 0xFF).toUInt8, (value &&& 0xFF).toUInt8]

/-- `appendUint32`. -/
def appendUint32 (buffer : List UInt8) (value : UInt32) : List UInt8 :=
  buffer ++ [((value >>> 24) &&& 0xFF).toUInt8, ((value >>> 16) &&& 0xFF).toUInt8,
    ((value >>> 8) &&& 0xFF).toUInt8, (value &&& 0xFF).toUInt8]

/-- `appendUint64`. -/
def appendUint64 (buffer : List UInt8) (value : UInt64) : List UInt8 :=
  buffer ++ [((value >>> 56) &&& 0xFF).toUInt8, ((value >>> 48) &&& 0xFF).toUInt8,
    ((value >>> 40) &&& 0xFF).toUInt8, ((value >>> 32) &&& 0xFF).toUInt8,
    ((value >>> 24) &&& 0xFF).toUInt8, ((value >>> 16) &&& 0xFF).toUInt8,
    ((value >>> 8) &&& 0xFF).toUInt8, (value &&& 0xFF).toUInt8]

theorem appendUint16_eq (buffer : List UInt8) (value : UInt16) :
    appendUint16 buffer value = buffer ++ bigEndian 2 value.toNat := by
  have low := uint16_byte value 0 (by decide)
  rw [UInt16.shiftRight_zero] at low
  simp [appendUint16, bigEndian, uint16_byte value 8 (by decide), low]

theorem appendUint32_eq (buffer : List UInt8) (value : UInt32) :
    appendUint32 buffer value = buffer ++ bigEndian 4 value.toNat := by
  have low := uint32_byte value 0 (by decide)
  rw [UInt32.shiftRight_zero] at low
  simp [appendUint32, bigEndian, uint32_byte value 24 (by decide),
    uint32_byte value 16 (by decide), uint32_byte value 8 (by decide), low]

theorem appendUint64_eq (buffer : List UInt8) (value : UInt64) :
    appendUint64 buffer value = buffer ++ bigEndian 8 value.toNat := by
  have low := uint64_byte value 0 (by decide)
  rw [UInt64.shiftRight_zero] at low
  simp [appendUint64, bigEndian, uint64_byte value 56 (by decide),
    uint64_byte value 48 (by decide), uint64_byte value 40 (by decide),
    uint64_byte value 32 (by decide), uint64_byte value 24 (by decide),
    uint64_byte value 16 (by decide), uint64_byte value 8 (by decide), low]

/-! ## Reading -/

/-- `readUint16`. -/
def readUint16 (data : List UInt8) (offset : Nat) : Option (UInt16 × Nat) :=
  if offset + 2 > data.length then none
  else some (((data.getD offset 0).toUInt16 <<< 8) ||| (data.getD (offset + 1) 0).toUInt16,
    offset + 2)

/-- `readUint32`. -/
def readUint32 (data : List UInt8) (offset : Nat) : Option (UInt32 × Nat) :=
  if offset + 4 > data.length then none
  else some (((data.getD offset 0).toUInt32 <<< 24) ||| ((data.getD (offset + 1) 0).toUInt32 <<< 16)
    ||| ((data.getD (offset + 2) 0).toUInt32 <<< 8) ||| (data.getD (offset + 3) 0).toUInt32,
    offset + 4)

/-- `readUint64`. -/
def readUint64 (data : List UInt8) (offset : Nat) : Option (UInt64 × Nat) :=
  if offset + 8 > data.length then none
  else some (((data.getD offset 0).toUInt64 <<< 56) |||
    ((data.getD (offset + 1) 0).toUInt64 <<< 48) |||
    ((data.getD (offset + 2) 0).toUInt64 <<< 40) |||
    ((data.getD (offset + 3) 0).toUInt64 <<< 32) |||
    ((data.getD (offset + 4) 0).toUInt64 <<< 24) |||
    ((data.getD (offset + 5) 0).toUInt64 <<< 16) |||
    ((data.getD (offset + 6) 0).toUInt64 <<< 8) |||
    (data.getD (offset + 7) 0).toUInt64, offset + 8)

/-- The number at `offset` in `w` big-endian bytes. -/
def valueAt (data : List UInt8) (offset w : Nat) : Nat := ofBigEndian (slice data offset w)

theorem readUint16_eq {data : List UInt8} {offset : Nat} (fits : offset + 2 ≤ data.length) :
    readUint16 data offset = some (UInt16.ofNat (valueAt data offset 2), offset + 2) := by
  rw [readUint16, if_neg (by omega), uint16_or_bytes, valueAt, slice_succ 1 (by omega),
    slice_succ 0 (by omega), slice_zero]

theorem readUint32_eq {data : List UInt8} {offset : Nat} (fits : offset + 4 ≤ data.length) :
    readUint32 data offset = some (UInt32.ofNat (valueAt data offset 4), offset + 4) := by
  rw [readUint32, if_neg (by omega), uint32_or_bytes, valueAt, slice_succ 3 (by omega),
    slice_succ 2 (by omega), slice_succ 1 (by omega), slice_succ 0 (by omega), slice_zero]

theorem readUint64_eq {data : List UInt8} {offset : Nat} (fits : offset + 8 ≤ data.length) :
    readUint64 data offset = some (UInt64.ofNat (valueAt data offset 8), offset + 8) := by
  rw [readUint64, if_neg (by omega), uint64_or_bytes, valueAt, slice_succ 7 (by omega),
    slice_succ 6 (by omega), slice_succ 5 (by omega), slice_succ 4 (by omega),
    slice_succ 3 (by omega), slice_succ 2 (by omega), slice_succ 1 (by omega),
    slice_succ 0 (by omega), slice_zero]

/-- The loop `value = (value << 8) | data[offset + i]` over `n` bytes, with which `ProtocolV2.h`
    reads the 64-bit fields of a body (`n = 8`). -/
def readLoop (data : List UInt8) (offset n : Nat) : UInt64 :=
  (List.range n).foldl
    (fun (value : UInt64) i => (value <<< 8) ||| (data.getD (offset + i) 0).toUInt64) 0

theorem shift_or_byte {value : UInt64} (byte : UInt8) (room : value.toNat < 2 ^ 56) :
    ((value <<< 8) ||| byte.toUInt64).toNat = value.toNat * 256 + byte.toNat := by
  have low := or_next_byte value.toNat byte.toNat 0 byte.toNat_lt
  simp only [Nat.zero_add, pow_zero, Nat.mul_one] at low
  have shifted : (value <<< 8).toNat = value.toNat * 2 ^ 8 := by
    rw [UInt64.toNat_shiftLeft, Nat.shiftLeft_eq]
    exact Nat.mod_eq_of_lt (by simp; omega)
  rw [UInt64.toNat_or, shifted, UInt8.toNat_toUInt64, low]

theorem valueAt_succ {data : List UInt8} {offset n : Nat} (fits : offset + n < data.length) :
    valueAt data offset (n + 1) =
      valueAt data offset n * 256 + (data.getD (offset + n) 0).toNat := by
  rw [valueAt, ← slice_append_slice, ofBigEndian_append, slice_succ 0 fits, slice_zero]
  simp [valueAt, ofBigEndian]

theorem valueAt_lt (data : List UInt8) (offset n : Nat) : valueAt data offset n < 256 ^ n := by
  refine lt_of_lt_of_le (ofBigEndian_lt _) (Nat.pow_le_pow_right (by decide) ?_)
  simp [slice]

/-- Up to eight bytes the loop drops nothing. -/
theorem readLoop_toNat {data : List UInt8} {offset n : Nat} (wide : n ≤ 8)
    (fits : offset + n ≤ data.length) : (readLoop data offset n).toNat = valueAt data offset n := by
  induction n with
  | zero => simp [readLoop, valueAt, slice_zero, ofBigEndian]
  | succ n ih =>
    have read := ih (by omega) (by omega)
    have small := valueAt_lt data offset n
    have power : 256 ^ n ≤ 256 ^ 7 := Nat.pow_le_pow_right (by decide) (by omega)
    have step : readLoop data offset (n + 1) =
        (readLoop data offset n <<< 8) ||| (data.getD (offset + n) 0).toUInt64 := by
      simp [readLoop, List.range_succ]
    rw [step, shift_or_byte _ (by omega), read, valueAt_succ (by omega)]

theorem readLoop_eq {data : List UInt8} {offset : Nat} (fits : offset + 8 ≤ data.length) :
    readLoop data offset 8 = UInt64.ofNat (valueAt data offset 8) := by
  rw [← readLoop_toNat (Nat.le_refl 8) fits, UInt64.ofNat_toNat]

/-! ## Reading what was written -/

theorem valueAt_skip (w n : Nat) (rest : List UInt8) (offset v : Nat) (skipped : w ≤ offset) :
    valueAt (bigEndian w n ++ rest) offset v = valueAt rest (offset - w) v := by
  rw [valueAt, slice_append_right (bigEndian_length w n) _ _ skipped, valueAt]

theorem valueAt_here {w n : Nat} (bound : n < 256 ^ w) (rest : List UInt8) :
    valueAt (bigEndian w n ++ rest) 0 w = n := by
  rw [valueAt, slice_append_left (bigEndian_length w n), ofBigEndian_bigEndian_of_lt bound]

theorem uint16_valueAt (value : UInt16) (rest : List UInt8) :
    UInt16.ofNat (valueAt (bigEndian 2 value.toNat ++ rest) 0 2) = value := by
  rw [valueAt_here (value.toNat_lt.trans_eq (by norm_num)), UInt16.ofNat_toNat]

theorem uint32_valueAt (value : UInt32) (rest : List UInt8) :
    UInt32.ofNat (valueAt (bigEndian 4 value.toNat ++ rest) 0 4) = value := by
  rw [valueAt_here (value.toNat_lt.trans_eq (by norm_num)), UInt32.ofNat_toNat]

theorem uint64_valueAt (value : UInt64) (rest : List UInt8) :
    UInt64.ofNat (valueAt (bigEndian 8 value.toNat ++ rest) 0 8) = value := by
  rw [valueAt_here (value.toNat_lt.trans_eq (by norm_num)), UInt64.ofNat_toNat]

theorem uint32_inj {value value' : UInt32} :
    bigEndian 4 value.toNat = bigEndian 4 value'.toNat ↔ value = value' := by
  rw [bigEndian_inj (value.toNat_lt.trans_eq (by norm_num))
    (value'.toNat_lt.trans_eq (by norm_num)), UInt32.toNat_inj]

theorem uint64_inj {value value' : UInt64} :
    bigEndian 8 value.toNat = bigEndian 8 value'.toNat ↔ value = value' := by
  rw [bigEndian_inj (value.toNat_lt.trans_eq (by norm_num))
    (value'.toNat_lt.trans_eq (by norm_num)), UInt64.toNat_inj]

/-! ## Writing what was read -/

theorem bigEndian_valueAt {data : List UInt8} {offset w : Nat} (fits : offset + w ≤ data.length) :
    bigEndian w (valueAt data offset w) = slice data offset w := by
  have spelled := bigEndian_ofBigEndian (slice data offset w)
  rwa [slice_length fits] at spelled

theorem uint16_bytes {data : List UInt8} {offset : Nat} (fits : offset + 2 ≤ data.length) :
    bigEndian 2 (UInt16.ofNat (valueAt data offset 2)).toNat = slice data offset 2 := by
  rw [UInt16.toNat_ofNat_of_lt' ((valueAt_lt data offset 2).trans_eq (by norm_num)),
    bigEndian_valueAt fits]

theorem uint32_bytes {data : List UInt8} {offset : Nat} (fits : offset + 4 ≤ data.length) :
    bigEndian 4 (UInt32.ofNat (valueAt data offset 4)).toNat = slice data offset 4 := by
  rw [UInt32.toNat_ofNat_of_lt' ((valueAt_lt data offset 4).trans_eq (by norm_num)),
    bigEndian_valueAt fits]

theorem uint64_bytes {data : List UInt8} {offset : Nat} (fits : offset + 8 ≤ data.length) :
    bigEndian 8 (UInt64.ofNat (valueAt data offset 8)).toNat = slice data offset 8 := by
  rw [UInt64.toNat_ofNat_of_lt' ((valueAt_lt data offset 8).trans_eq (by norm_num)),
    bigEndian_valueAt fits]

end PictureReconstruct.Wire
