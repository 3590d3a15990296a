import PictureReconstruct.Library.Runs
import PictureReconstruct.Storage.SenderSpool

/-! # The byte counter of a `SenderSpool`

The quota is held against a counter that `persist` raises by the size of the file it writes and
`removeFrame` lowers by the size of the file it finds.  A file that is overwritten stays counted.

* `SpoolCall.next`: the calls of a spool whose disk does not fail, as steps of a run.
* `quota_respected`: as long as the counter does not wrap around it is never below the sum of the
  sizes, so the quota holds for the files too.
* `accounting_exact_iff`: the counter is exact in all states of a run exactly when no file is
  overwritten.
-/

namespace PictureReconstruct

open Library.Procedure Library.Runs SenderSpool

/-! ## Calls -/

inductive SpoolCall
  | persist (frame : RawFrame)
  | removeFrame (frameId : UInt64)
  | setMaxSpoolBytes (maxBytes : UInt64)
  /-- a new `SenderSpool` over the same directory -/
  | construct
deriving DecidableEq

namespace SenderSpool

/-- The spool with the file of `frame` written and counted. -/
def stored (spool : SenderSpool) (frame : RawFrame) : SenderSpool :=
  { spool.landed frame (spoolFile frame).length with
    bytesUsed := spool.bytesUsed + requiredBytes frame }

/-- The spool writes the file of `frame`. -/
def Accepts (spool : SenderSpool) (frame : RawFrame) : Prop :=
  frame.empty = false ∧ spool.canPersist (requiredBytes frame) = true

instance (spool : SenderSpool) (frame : RawFrame) : Decidable (spool.Accepts frame) :=
  inferInstanceAs (Decidable (_ ∧ _))

/-- `persist` where the disk does not fail. -/
theorem persist_none (spool : SenderSpool) (frame : RawFrame) :
    SenderSpool.persist .none frame spool =
      if spool.Accepts frame then .ok true (spool.stored frame) else .ok false spool := by
  have ends : wp (SenderSpool.persist .none frame)
      (fun persisted after =>
        (spool.Accepts frame ∧ persisted = true ∧ after = spool.stored frame) ∨
          (¬ spool.Accepts frame ∧ persisted = false ∧ after = spool))
      (fun _ _ => False) spool := by
    apply wp_persist
    · intro refused
      refine .inr ⟨fun accepts => ?_, rfl, rfl⟩
      obtain isEmpty | full | fault := refused
      · exact absurd (accepts.1.symm.trans isEmpty) Bool.noConfusion
      · exact absurd (accepts.2.symm.trans full) Bool.noConfusion
      · cases fault
    · intro written filled fault
      cases fault
    · intro written filled fault
      cases fault
    · intro filled room _
      exact .inl ⟨⟨filled, room⟩, rfl, rfl⟩
  cases run : SenderSpool.persist .none frame spool with
  | error cause after => exact (ends.error run).elim
  | ok persisted after =>
    obtain ⟨accepts, rfl, rfl⟩ | ⟨refuses, rfl, rfl⟩ := ends.ok run
    · rw [if_pos accepts]
    · rw [if_neg refuses]

end SenderSpool

namespace SpoolCall

/-- The spool behind a call. -/
def next : SpoolCall → SenderSpool → SenderSpool
  | persist frame, spool =>
    match SenderSpool.persist .none frame spool with
    | .ok _ after => after
    | .error _ after => after
  | removeFrame frameId, spool => spool.removeFrame frameId
  | setMaxSpoolBytes maxBytes, spool => spool.setMaxSpoolBytes maxBytes
  | construct, spool => openRoot spool.files

end SpoolCall

theorem next_persist (spool : SenderSpool) (frame : RawFrame) :
    SpoolCall.next (.persist frame) spool =
      if spool.Accepts frame then spool.stored frame else spool := by
  rw [SpoolCall.next, persist_none]
  by_cases accepts : spool.Accepts frame
  · rw [if_pos accepts, if_pos accepts]
  · rw [if_neg accepts, if_neg accepts]

/-! ## The counter and the sizes -/

section Counter

variable {spool : SenderSpool} {frame : RawFrame}

/-- What is counted for a file is its size. -/
theorem requiredBytes_toNat (filled : frame.empty = false) :
    (requiredBytes frame).toNat = (spoolFile frame).length := by
  obtain ⟨_, _, _, small⟩ := RawFrame.data_of_not_empty filled
  have size := spoolFile_length filled
  have header : (UInt64.ofNat SpoolHeader.size).toNat = SpoolHeader.size := rfl
  rw [requiredBytes, UInt64.toNat_add, header, size]
  simp only [SpoolHeader.size] at size ⊢
  omega

theorem sum_ofNat (sizes : List Nat) :
    (sizes.map UInt64.ofNat).sum = UInt64.ofNat sizes.sum := by
  induction sizes with
  | nil => rfl
  | cons size sizes ih => rw [List.map_cons, List.sum_cons, List.sum_cons, ih, UInt64.ofNat_add]

theorem openRoot_bytesUsed (files : Directory) :
    (openRoot files).bytesUsed = UInt64.ofNat (totalSize files) := by
  rw [totalSize, ← sum_ofNat, List.map_map]
  rfl

theorem openRoot_counted {files : Directory} (small : totalSize files < 2 ^ 64) :
    (openRoot files).bytesUsed.toNat = totalSize files := by
  rw [openRoot_bytesUsed]
  exact UInt64.toNat_ofNat_of_lt' small

theorem stored_totalSize (spool : SenderSpool) (frame : RawFrame) :
    totalSize (spool.stored frame).files + fileSize spool.files (filePathFor frame.frameId) =
      totalSize spool.files + (spoolFile frame).length := by
  have whole : (spool.stored frame).files =
      spool.files.insert (filePathFor frame.frameId) (spoolFile frame) := by
    rw [stored, landed_files, List.take_length]
  rw [whole]
  exact totalSize_insert spool.files (filePathFor frame.frameId) (spoolFile frame)

theorem stored_bytesUsed (filled : frame.empty = false) :
    (spool.stored frame).bytesUsed.toNat =
      (spool.bytesUsed.toNat + (spoolFile frame).length) % 2 ^ 64 := by
  rw [stored, UInt64.toNat_add, requiredBytes_toNat filled]

/-- `max 0` never has anything to do for an unsigned number. -/
theorem removeFrame_bytesUsed (spool : SenderSpool) (frameId : UInt64) :
    (spool.removeFrame frameId).bytesUsed =
      spool.bytesUsed - UInt64.ofNat (fileSize spool.files (filePathFor frameId)) := by
  unfold removeFrame fileSize
  cases held : spool.files.lookup (filePathFor frameId) with
  | none => simp
  | some removed =>
    have zero : ∀ bytes : UInt64, max 0 bytes = bytes := fun bytes =>
      if_pos (UInt64.le_iff_toNat_le.mpr (Nat.zero_le _))
    simp only [zero, Option.getD_some]

theorem removeFrame_totalSize (spool : SenderSpool) (frameId : UInt64) :
    totalSize (spool.removeFrame frameId).files + fileSize spool.files (filePathFor frameId) =
      totalSize spool.files := by
  rw [removeFrame_files]
  exact totalSize_erase spool.files (filePathFor frameId)

/-- A counter that covers the file lowers by its size. -/
theorem removeFrame_counted {frameId : UInt64}
    (covered : totalSize spool.files ≤ spool.bytesUsed.toNat) :
    (spool.removeFrame frameId).bytesUsed.toNat +
      fileSize spool.files (filePathFor frameId) = spool.bytesUsed.toNat := by
  have sizes := removeFrame_totalSize spool frameId
  have bound := spool.bytesUsed.toNat_lt
  have size : (UInt64.ofNat (fileSize spool.files (filePathFor frameId))).toNat =
      fileSize spool.files (filePathFor frameId) :=
    UInt64.toNat_ofNat_of_lt' (by simp only [UInt64.size]; omega)
  have below : UInt64.ofNat (fileSize spool.files (filePathFor frameId)) ≤ spool.bytesUsed := by
    rw [UInt64.le_iff_toNat_le, size]
    omega
  rw [removeFrame_bytesUsed, UInt64.toNat_sub_of_le _ _ below, size]
  omega

end Counter

/-! ## The quota -/

/-- What has been counted and the file of a frame to be persisted are less than 2^63 bytes in
    all. -/
def Countable : SpoolCall → SenderSpool → Prop
  | .persist frame, spool => spool.bytesUsed.toNat + (spoolFile frame).length < 2 ^ 63
  | _, _ => True

instance (call : SpoolCall) (spool : SenderSpool) : Decidable (Countable call spool) :=
  match call with
  | .persist _ => inferInstanceAs (Decidable (_ < _))
  | .removeFrame _ => .isTrue trivial
  | .setMaxSpoolBytes _ => .isTrue trivial
  | .construct => .isTrue trivial

/-- The counter is never below the sum of the sizes. -/
structure Covered (spool : SenderSpool) : Prop where
  covers : totalSize spool.files ≤ spool.bytesUsed.toNat
  small : spool.bytesUsed.toNat < 2 ^ 63

section Quota

variable {spool : SenderSpool} {frame : RawFrame}

theorem Covered.openRoot {files : Directory} (small : totalSize files < 2 ^ 63) :
    Covered (openRoot files) := by
  have counted := openRoot_counted (Nat.lt_trans small (by decide))
  exact ⟨Nat.le_of_eq counted.symm, counted ▸ small⟩

/-- A file that is overwritten only makes the counter larger than it has to be. -/
theorem Covered.stored (covered : Covered spool) (filled : frame.empty = false)
    (countable : Countable (.persist frame) spool) : Covered (spool.stored frame) := by
  have sizes := stored_totalSize spool frame
  have covers := covered.covers
  have counted : (spool.stored frame).bytesUsed.toNat =
      spool.bytesUsed.toNat + (spoolFile frame).length := by
    rw [stored_bytesUsed filled]
    exact Nat.mod_eq_of_lt (Nat.lt_trans countable (by decide))
  constructor
  · omega
  · exact counted ▸ countable

theorem Covered.next (call : SpoolCall) (covered : Covered spool)
    (countable : Countable call spool) : Covered (call.next spool) := by
  cases call with
  | persist frame =>
    rw [next_persist]
    by_cases accepts : spool.Accepts frame
    · rw [if_pos accepts]
      exact covered.stored accepts.1 countable
    · rw [if_neg accepts]
      exact covered
  | removeFrame frameId =>
    have sizes := removeFrame_totalSize spool frameId
    have counted := @removeFrame_counted spool frameId covered.covers
    obtain ⟨covers, small⟩ := covered
    constructor
    · simp only [SpoolCall.next]
      omega
    · simp only [SpoolCall.next]
      omega
  | setMaxSpoolBytes maxBytes => exact ⟨covered.covers, covered.small⟩
  | construct => exact .openRoot (Nat.lt_of_le_of_lt covered.covers covered.small)

/-- The bytes that a call may write. -/
def SpoolCall.written : SpoolCall → Nat
  | persist frame => (spoolFile frame).length
  | _ => 0

/-- No call counts more than it writes. -/
theorem Covered.next_counted {call : SpoolCall} (covered : Covered spool)
    (countable : Countable call spool) :
    (call.next spool).bytesUsed.toNat ≤ spool.bytesUsed.toNat + call.written := by
  cases call with
  | persist frame =>
    rw [next_persist]
    by_cases accepts : spool.Accepts frame
    · rw [if_pos accepts, stored_bytesUsed accepts.1]
      exact Nat.mod_le _ _
    · rw [if_neg accepts]
      exact Nat.le_add_right _ _
  | removeFrame frameId =>
    have counted := @removeFrame_counted spool frameId covered.covers
    simp only [SpoolCall.next, SpoolCall.written]
    omega
  | setMaxSpoolBytes maxBytes => exact Nat.le_refl _
  | construct =>
    simp only [SpoolCall.next, SpoolCall.written, openRoot_counted
      (Nat.lt_of_le_of_lt covered.covers spool.bytesUsed.toNat_lt)]
    exact covered.covers

/-- Calls are countable when all that they write is, together with what was counted before. -/
theorem Covered.countable {calls : List SpoolCall} (covered : Covered spool)
    (total : spool.bytesUsed.toNat + (calls.map SpoolCall.written).sum +
      (spoolFile frame).length < 2 ^ 63) :
    Admits SpoolCall.next Countable calls spool ∧
      Countable (.persist frame) (run SpoolCall.next calls spool) := by
  induction calls generalizing spool with
  | nil => exact ⟨trivial, total⟩
  | cons call calls ih =>
    rw [List.map_cons, List.sum_cons] at total
    have first : Countable call spool := by
      cases call with
      | persist other =>
        simp only [SpoolCall.written] at total
        simp only [Countable]
        omega
      | removeFrame _ | setMaxSpoolBytes _ | construct => trivial
    have counted := covered.next_counted first
    obtain ⟨rest, last⟩ := ih (covered.next call first) (by omega)
    exact ⟨⟨first, rest⟩, last⟩

/-- So it is enough that the files at the start and all files that are written are less than 2^63
    bytes in all. -/
theorem countable_of_total {files : Directory} {calls : List SpoolCall}
    (total : totalSize files + (calls.map SpoolCall.written).sum + (spoolFile frame).length <
      2 ^ 63) :
    Admits SpoolCall.next Countable calls (openRoot files) ∧
      Countable (.persist frame) (run SpoolCall.next calls (openRoot files)) := by
  have small : totalSize files < 2 ^ 63 := by omega
  apply Covered.countable (.openRoot small)
  rwa [openRoot_counted (Nat.lt_trans small (by decide))]

/-- The quota holds for the counter that `persist` leaves. -/
theorem stored_within (accepts : spool.Accepts frame) (limited : 0 < spool.maxSpoolBytes) :
    (spool.stored frame).bytesUsed ≤ spool.maxSpoolBytes := by
  have positive : (spool.maxSpoolBytes == 0) = false := by
    rw [beq_eq_false_iff_ne]
    exact fun zero => UInt64.lt_irrefl 0 (zero ▸ limited)
  have room := accepts.2
  rw [canPersist, positive, Bool.false_or, decide_eq_true_eq] at room
  exact room

end Quota

/-- After any calls that do not count 2^63 bytes, whatever the files at the start and whatever
    limits were set: a frame that is persisted under a limit leaves the files within that limit, and
    one that is not leaves the spool as it was. -/
theorem quota_respected (files : Directory) (calls : List SpoolCall) (frame : RawFrame)
    (small : totalSize files < 2 ^ 63)
    (countable : Admits SpoolCall.next Countable calls (openRoot files))
    (last : Countable (.persist frame) (run SpoolCall.next calls (openRoot files))) :
    wp (SenderSpool.persist .none frame)
      (fun persisted after =>
        (persisted = true → 0 < after.maxSpoolBytes →
          totalSize after.files ≤ after.maxSpoolBytes.toNat) ∧
        (persisted = false → after = run SpoolCall.next calls (openRoot files)))
      (fun _ _ => False) (run SpoolCall.next calls (openRoot files)) := by
  have covered : Covered (run SpoolCall.next calls (openRoot files)) :=
    run_invariant (I := fun _ spool => Covered spool)
      (fun call _ _ covered countable => covered.next call countable) calls _ (.openRoot small)
      countable
  rw [wp, persist_none]
  by_cases accepts : (run SpoolCall.next calls (openRoot files)).Accepts frame
  · rw [if_pos accepts]
    constructor
    · intro _ limited
      have after := covered.stored accepts.1 last
      exact Nat.le_trans after.covers (UInt64.le_iff_toNat_le.mp (stored_within accepts limited))
    · intro refused
      cases refused
  · rw [if_neg accepts]
    constructor
    · intro persisted
      cases persisted
    · intro _
      rfl

/-- A frame is persisted twice under a limit that is then lowered; a third one does not fit. -/
theorem quota_respected_overwritten :
    wp (SenderSpool.persist .none (pixel 7 1))
      (fun persisted after =>
        (persisted = true → 0 < after.maxSpoolBytes →
          totalSize after.files ≤ after.maxSpoolBytes.toNat) ∧
        (persisted = false → after = run SpoolCall.next [.setMaxSpoolBytes 200,
          .persist (pixel 5 1), .persist (pixel 5 2), .setMaxSpoolBytes 100] (openRoot ∅)))
      (fun _ _ => False)
      (run SpoolCall.next [.setMaxSpoolBytes 200, .persist (pixel 5 1), .persist (pixel 5 2),
        .setMaxSpoolBytes 100] (openRoot ∅)) := by
  obtain ⟨countable, last⟩ := @countable_of_total (pixel 7 1) ∅ [.setMaxSpoolBytes 200,
    .persist (pixel 5 1), .persist (pixel 5 2), .setMaxSpoolBytes 100] (by decide +kernel)
  exact quota_respected ∅ _ (pixel 7 1) (by decide) countable last

/-! ## Exactness -/

/-- The counter is the sum of the sizes. -/
def Exact (spool : SenderSpool) : Prop := spool.bytesUsed.toNat = totalSize spool.files

instance (spool : SenderSpool) : Decidable (Exact spool) := inferInstanceAs (Decidable (_ = _))

/-- A frame that is written overwrites no bytes of an earlier file, and the sizes with that of its
    file fit into the counter. -/
def CountedOnce : SpoolCall → SenderSpool → Prop
  | .persist frame, spool => spool.Accepts frame →
    fileSize spool.files (filePathFor frame.frameId) = 0 ∧
      totalSize spool.files + (spoolFile frame).length < 2 ^ 64
  | _, _ => True

section Exactness

variable {spool : SenderSpool} {frame : RawFrame}

theorem exact_stored_iff (exact : Exact spool) (filled : frame.empty = false) :
    Exact (spool.stored frame) ↔
      fileSize spool.files (filePathFor frame.frameId) = 0 ∧
        totalSize spool.files + (spoolFile frame).length < 2 ^ 64 := by
  have sizes := stored_totalSize spool frame
  have bound := spool.bytesUsed.toNat_lt
  have earlier : fileSize spool.files (filePathFor frame.frameId) ≤ totalSize spool.files := by
    have erased := totalSize_erase spool.files (filePathFor frame.frameId)
    omega
  rw [Exact, stored_bytesUsed filled]
  rw [Exact] at exact
  obtain ⟨_, _, positive, small⟩ := RawFrame.data_of_not_empty filled
  have size := spoolFile_length filled
  simp only [SpoolHeader.size] at size
  -- a sum that wraps around would need an earlier file of 2^64 bytes
  omega

/-- A call leaves an exact counter exact if and only if nothing is counted twice. -/
theorem exact_next_iff (call : SpoolCall) (exact : Exact spool) :
    Exact (call.next spool) ↔ CountedOnce call spool := by
  cases call with
  | persist frame =>
    rw [next_persist, CountedOnce]
    by_cases accepts : spool.Accepts frame
    · rw [if_pos accepts, exact_stored_iff exact accepts.1]
      exact ⟨fun once _ => once, fun once => once accepts⟩
    · rw [if_neg accepts]
      exact iff_of_true exact fun accepts' => absurd accepts' accepts
  | removeFrame frameId =>
    have sizes := removeFrame_totalSize spool frameId
    have counted := @removeFrame_counted spool frameId (Nat.le_of_eq exact.symm)
    refine iff_of_true ?_ trivial
    rw [Exact] at exact
    simp only [Exact, SpoolCall.next]
    omega
  | setMaxSpoolBytes maxBytes => exact iff_of_true exact trivial
  | construct =>
    refine iff_of_true ?_ trivial
    have small : totalSize spool.files < 2 ^ 64 := exact ▸ spool.bytesUsed.toNat_lt
    exact openRoot_counted small

theorem exact_openRoot_iff (files : Directory) :
    Exact (openRoot files) ↔ totalSize files < 2 ^ 64 := by
  constructor
  · intro exact
    exact exact ▸ (openRoot files).bytesUsed.toNat_lt
  · exact openRoot_counted

end Exactness

/-- The counter is exact behind every call of a run, whatever the files at the start, if and only if
    these fit into the counter and no frame that is written overwrites an earlier file. -/
theorem accounting_exact_iff (files : Directory) (calls : List SpoolCall) :
    (∀ earlier later, calls = earlier ++ later →
      Exact (run SpoolCall.next earlier (openRoot files))) ↔
      totalSize files < 2 ^ 64 ∧ Admits SpoolCall.next CountedOnce calls (openRoot files) := by
  rw [← exact_openRoot_iff]
  exact every_state_iff (fun call _ exact => exact_next_iff call exact) calls (openRoot files)

/-- A frame that is persisted again is counted twice. -/
theorem overwritten_counted_twice :
    ¬ Exact (run SpoolCall.next [.persist (pixel 5 1), .persist (pixel 5 1)] (openRoot ∅)) := by
  decide +kernel

end PictureReconstruct
