import Mathlib.Data.UInt

/-! # Raw frames

`RawFrame` as the capture side hands it to the spool and to the sender.  The shared
buffer is modelled by the bytes `data()` gives access to. -/

namespace PictureReconstruct

/-- `RawFrame`: image metadata and a shared buffer, null for a frame without pixels.
    `sized` says that the buffer is an allocation of `totalBytes` bytes; no C++ object is
    larger than `2 ^ 63 - 1` bytes.  The timestamp is read by no modelled function. -/
structure RawFrame where
  frameId : UInt64
  rows : UInt32
  cols : UInt32
  type : UInt32
  elemSize : UInt32
  totalBytes : UInt64
  buffer : Option (List UInt8)
  sized : ∀ bytes ∈ buffer, bytes.length = totalBytes.toNat ∧ bytes.length < 2 ^ 63
deriving DecidableEq

namespace RawFrame

/-- `RawFrame::empty`. -/
def empty (frame : RawFrame) : Bool :=
  frame.buffer.isNone || frame.totalBytes == 0

/-- The bytes behind `RawFrame::data`. -/
def data (frame : RawFrame) : List UInt8 := frame.buffer.getD []

theorem data_of_not_empty {frame : RawFrame} (filled : frame.empty = false) :
    frame.buffer = some frame.data ∧ frame.data.length = frame.totalBytes.toNat ∧
      0 < frame.totalBytes.toNat ∧ frame.totalBytes.toNat < 2 ^ 63 := by
  simp only [empty, Bool.or_eq_false_iff, Option.isNone_eq_false_iff, beq_eq_false_iff_ne] at filled
  obtain ⟨present, positive⟩ := filled
  obtain ⟨bytes, held⟩ := Option.isSome_iff_exists.mp present
  obtain ⟨length, bound⟩ := frame.sized bytes held
  have nonzero : frame.totalBytes.toNat ≠ 0 := fun zero =>
    positive (UInt64.toNat_inj.mp (by simpa using zero))
  refine ⟨by simp [data, held], by simpa [data, held] using length, by omega, by omega⟩

end RawFrame

/-- A 1x1 frame. -/
def pixel (frameId : UInt64) (value : UInt8) : RawFrame where
  frameId := frameId
  rows := 1
  cols := 1
  type := 0
  elemSize := 1
  totalBytes := 1
  buffer := some [value]
  sized := by simp

end PictureReconstruct
