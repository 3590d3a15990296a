import Mathlib.Algebra.Order.BigOperators.Group.List
import PictureReconstruct.Storage.SpoolAccounting
import PictureReconstruct.Storage.SpoolFaults

/-! # When the byte counter of a `SenderSpool` wraps

`removeFrame` takes the size of the file from an unsigned counter, and the `max` around the
difference comes too late.

* `neverWraps_iff`: no removals from a state on wrap around exactly when the counter covers all
  files that can be removed.
* `counter_never_wraps_iff`: a run keeps the counter from wrapping exactly when what its writes
  leave behind, failed ones included, is covered.
-/

namespace PictureReconstruct

open Library.Procedure Library.Runs SenderSpool

/-- A call on a spool whose disk can fail. -/
inductive FaultyCall
  | persist (frame : RawFrame)
  /-- `persist`, in which a write fails after `written` bytes -/
  | failPersist (frame : RawFrame) (written : Nat)
  | removeFrame (frameId : UInt64)
  | setMaxSpoolBytes (maxBytes : UInt64)
deriving DecidableEq

namespace FaultyCall

/-- The spool behind a call. -/
def next : FaultyCall → SenderSpool → SenderSpool
  | persist frame, spool => SpoolCall.next (.persist frame) spool
  | failPersist frame written, spool =>
    match SenderSpool.persist (.write written) frame spool with
    | .ok _ after => after
    | .error _ after => after
  | removeFrame frameId, spool => spool.removeFrame frameId
  | setMaxSpoolBytes maxBytes, spool => spool.setMaxSpoolBytes maxBytes

end FaultyCall

theorem next_failPersist (spool : SenderSpool) (frame : RawFrame) (written : Nat) :
    FaultyCall.next (.failPersist frame written) spool =
      if spool.Accepts frame then spool.landed frame written else spool := by
  by_cases accepts : spool.Accepts frame
  · have ends := @persist_write spool frame written accepts.1 accepts.2
    rw [if_pos accepts]
    cases run : SenderSpool.persist (.write written) frame spool with
    | error _ _ => exact (ends.error run).elim
    | ok _ _ =>
      simp only [FaultyCall.next, run]
      exact (ends.ok run).2
  · have ends := @persist_refused spool frame (.write written) accepts
    rw [if_neg accepts]
    cases run : SenderSpool.persist (.write written) frame spool with
    | error _ _ => exact (ends.error run).elim
    | ok _ _ =>
      simp only [FaultyCall.next, run]
      exact ends.ok run

/-! ## What can be removed -/

/-- What `removeFrame` takes from the counter for a file: nothing unless the name is that of a
    frame, its size as a 64-bit number otherwise. -/
def removedSize (name : List Char) (bytes : List UInt8) : Nat :=
  if name = filePathFor (parseFrameIdFromFileName name) then bytes.length % 2 ^ 64 else 0

/-- All that can be taken from the counter. -/
def removable (files : Directory) : Nat := weigh removedSize files

theorem removedSize_filePathFor (frameId : UInt64) (bytes : List UInt8) :
    removedSize (filePathFor frameId) bytes = bytes.length % 2 ^ 64 := by
  rw [removedSize, parseFrameIdFromFileName_filePathFor, if_pos rfl]

section Removals

variable {spool : SenderSpool} {frame : RawFrame} {frameId : UInt64}

/-- What a removal of the frame takes from the counter. -/
def SenderSpool.taken (spool : SenderSpool) (frameId : UInt64) : Nat :=
  fileSize spool.files (filePathFor frameId) % 2 ^ 64

theorem weightOf_removedSize (spool : SenderSpool) (frameId : UInt64) :
    weightOf removedSize spool.files (filePathFor frameId) = spool.taken frameId := by
  rw [weightOf, taken, fileSize]
  cases spool.files.lookup (filePathFor frameId) with
  | none => rfl
  | some bytes => exact removedSize_filePathFor frameId bytes

theorem removable_removeFrame (spool : SenderSpool) (frameId : UInt64) :
    removable (spool.removeFrame frameId).files + spool.taken frameId = removable spool.files := by
  rw [removeFrame_files, ← weightOf_removedSize]
  exact weigh_erase removedSize spool.files (filePathFor frameId)

theorem removable_landed (filled : frame.empty = false) (n : Nat) :
    removable (spool.landed frame n).files + spool.taken frame.frameId =
      removable spool.files + min n (spoolFile frame).length := by
  obtain ⟨_, _, _, small⟩ := RawFrame.data_of_not_empty filled
  have size := spoolFile_length filled
  simp only [SpoolHeader.size] at size
  have length : removedSize (filePathFor frame.frameId) ((spoolFile frame).take n) =
      min n (spoolFile frame).length := by
    rw [removedSize_filePathFor, List.length_take]
    exact Nat.mod_eq_of_lt (by omega)
  rw [landed_files, ← weightOf_removedSize, ← length]
  exact weigh_insert removedSize spool.files (filePathFor frame.frameId) _

/-- The counter never grows when the file that goes is counted, and wraps around otherwise. -/
theorem removeFrame_le_iff :
    (spool.removeFrame frameId).bytesUsed ≤ spool.bytesUsed ↔
      spool.taken frameId ≤ spool.bytesUsed.toNat := by
  have bound := spool.bytesUsed.toNat_lt
  have size : (UInt64.ofNat (fileSize spool.files (filePathFor frameId))).toNat =
      spool.taken frameId := UInt64.toNat_ofNat'
  rw [removeFrame_bytesUsed, UInt64.le_iff_toNat_le, UInt64.toNat_sub, size]
  have small : spool.taken frameId < 2 ^ 64 := Nat.mod_lt _ (by decide)
  omega

theorem removeFrame_toNat (covered : spool.taken frameId ≤ spool.bytesUsed.toNat) :
    (spool.removeFrame frameId).bytesUsed.toNat + spool.taken frameId = spool.bytesUsed.toNat := by
  have bound := spool.bytesUsed.toNat_lt
  have size : (UInt64.ofNat (fileSize spool.files (filePathFor frameId))).toNat =
      spool.taken frameId := UInt64.toNat_ofNat'
  rw [removeFrame_bytesUsed, UInt64.toNat_sub, size]
  omega

/-- The counter covers all that can be taken from it. -/
def RemovableCovered (spool : SenderSpool) : Prop :=
  removable spool.files ≤ spool.bytesUsed.toNat

instance (spool : SenderSpool) : Decidable (RemovableCovered spool) :=
  inferInstanceAs (Decidable (_ ≤ _))

/-- Whatever frames are removed one after the other, no removal makes the counter larger. -/
def NeverWraps (spool : SenderSpool) : Prop :=
  ∀ frameIds frameId, ((spool.removeAll frameIds).removeFrame frameId).bytesUsed ≤
    (spool.removeAll frameIds).bytesUsed

theorem RemovableCovered.taken (covered : RemovableCovered spool) (frameId : UInt64) :
    spool.taken frameId ≤ spool.bytesUsed.toNat := by
  have sizes := removable_removeFrame spool frameId
  rw [RemovableCovered] at covered
  omega

theorem RemovableCovered.removeFrame (covered : RemovableCovered spool) (frameId : UInt64) :
    RemovableCovered (spool.removeFrame frameId) := by
  have sizes := removable_removeFrame spool frameId
  have counted := removeFrame_toNat (covered.taken frameId)
  rw [RemovableCovered] at covered ⊢
  omega

theorem RemovableCovered.removeAll (covered : RemovableCovered spool) (frameIds : List UInt64) :
    RemovableCovered (spool.removeAll frameIds) := by
  induction frameIds generalizing spool with
  | nil => exact covered
  | cons frameId frameIds ih => exact ih (covered.removeFrame frameId)

/-- By removing the files one after the other until nothing can be taken any more. -/
theorem NeverWraps.covered (never : NeverWraps spool) : RemovableCovered spool := by
  induction left : removable spool.files using Nat.strong_induction_on generalizing spool with
  | _ sizes ih =>
    subst left
    cases Nat.eq_zero_or_pos (removable spool.files) with
    | inl nothing =>
      rw [RemovableCovered, nothing]
      exact Nat.zero_le _
    | inr some =>
      obtain ⟨name, bytes, held, weighs⟩ := exists_weight removedSize some
      obtain ⟨frameId, rfl⟩ : ∃ frameId, name = filePathFor frameId := by
        rw [removedSize] at weighs
        split at weighs
        · next named => exact ⟨_, named⟩
        · exact absurd weighs (Nat.lt_irrefl 0)
      have taken : 0 < spool.taken frameId := by
        rw [← weightOf_removedSize, weightOf, held]
        exact weighs
      have removed := removable_removeFrame spool frameId
      have lowers : (spool.removeFrame frameId).bytesUsed ≤ spool.bytesUsed := never [] frameId
      have counted := removeFrame_toNat (removeFrame_le_iff.mp lowers)
      have rest : RemovableCovered (spool.removeFrame frameId) :=
        ih _ (by omega) (fun frameIds => never (frameId :: frameIds)) rfl
      rw [RemovableCovered] at rest ⊢
      omega

theorem neverWraps_iff : NeverWraps spool ↔ RemovableCovered spool := by
  constructor
  · exact NeverWraps.covered
  · intro covered frameIds frameId
    exact removeFrame_le_iff.mpr ((covered.removeAll frameIds).taken frameId)

end Removals

/-! ## Runs -/

/-- The counter has room for a file that is written, and a write that fails leaves no more behind
    than the counter covers already. -/
def LeavesCovered : FaultyCall → SenderSpool → Prop
  | .persist frame, spool => spool.Accepts frame →
    spool.bytesUsed.toNat + (spoolFile frame).length < 2 ^ 64
  | .failPersist frame written, spool => spool.Accepts frame →
    removable spool.files + min written (spoolFile frame).length ≤
      spool.bytesUsed.toNat + spool.taken frame.frameId
  | _, _ => True

theorem covered_stored_iff {spool : SenderSpool} {frame : RawFrame}
    (covered : RemovableCovered spool) (filled : frame.empty = false) :
    RemovableCovered (spool.stored frame) ↔
      spool.bytesUsed.toNat + (spoolFile frame).length < 2 ^ 64 := by
  obtain ⟨_, _, _, small⟩ := RawFrame.data_of_not_empty filled
  have size := spoolFile_length filled
  simp only [SpoolHeader.size] at size
  have bound := spool.bytesUsed.toNat_lt
  have sizes := @removable_landed spool frame filled (spoolFile frame).length
  have earlier := removable_removeFrame spool frame.frameId
  have files : removable (spool.stored frame).files =
      removable (spool.landed frame (spoolFile frame).length).files := rfl
  rw [RemovableCovered, stored_bytesUsed filled, files]
  rw [RemovableCovered] at covered
  -- a sum that wraps around is less than the file that was written
  omega

/-- A call leaves the counter large enough if and only if it leaves nothing uncovered. -/
theorem covered_next_iff (call : FaultyCall) (spool : SenderSpool)
    (covered : RemovableCovered spool) :
    RemovableCovered (call.next spool) ↔ LeavesCovered call spool := by
  cases call with
  | persist frame =>
    rw [FaultyCall.next, next_persist, LeavesCovered]
    by_cases accepts : spool.Accepts frame
    · rw [if_pos accepts, covered_stored_iff covered accepts.1]
      exact ⟨fun room _ => room, fun room => room accepts⟩
    · rw [if_neg accepts]
      exact iff_of_true covered fun accepts' => absurd accepts' accepts
  | failPersist frame written =>
    rw [next_failPersist, LeavesCovered]
    by_cases accepts : spool.Accepts frame
    · have sizes := @removable_landed spool frame accepts.1 written
      have counter : (spool.landed frame written).bytesUsed = spool.bytesUsed := rfl
      rw [if_pos accepts, RemovableCovered, counter]
      constructor
      · intro after _
        omega
      · intro before
        have bound := before accepts
        omega
    · rw [if_neg accepts]
      exact iff_of_true covered fun accepts' => absurd accepts' accepts
  | removeFrame frameId => exact iff_of_true (covered.removeFrame frameId) trivial
  | setMaxSpoolBytes maxBytes => exact iff_of_true covered trivial

/-- Files that 64 bits can count are covered at the start. -/
theorem covered_openRoot {files : Directory} (small : totalSize files < 2 ^ 64) :
    RemovableCovered (openRoot files) := by
  have each : ∀ file ∈ files.entries, removedSize file.1 file.2 ≤ file.2.length := by
    intro file _
    rw [removedSize]
    split
    · exact Nat.mod_le _ _
    · exact Nat.zero_le _
  rw [RemovableCovered, openRoot_counted small]
  exact List.sum_le_sum each

/-- No removal in a run, or after any part of it, makes the counter larger, if and only if the
    counter covers the files at the start and every call leaves them covered. -/
theorem counter_never_wraps_iff (files : Directory) (calls : List FaultyCall) :
    (∀ earlier later, calls = earlier ++ later →
      NeverWraps (run FaultyCall.next earlier (openRoot files))) ↔
      RemovableCovered (openRoot files) ∧
        Admits FaultyCall.next LeavesCovered calls (openRoot files) := by
  rw [← every_state_iff covered_next_iff calls (openRoot files)]
  simp only [neverWraps_iff]

/-- The disk is full behind the header: the 40 bytes were never counted. -/
theorem failed_write_wraps :
    ¬ NeverWraps (run FaultyCall.next [.failPersist (pixel 5 1) 40] (openRoot ∅)) := by
  intro never
  exact absurd (never [] 5) (by decide +kernel)

end PictureReconstruct
