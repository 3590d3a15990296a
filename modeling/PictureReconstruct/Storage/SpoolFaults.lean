import PictureReconstruct.Storage.SenderSpool

/-! # What faults leave in a spool

* `torn_write_never_surfaces`: a file cut off by the death of the process is skipped, and only that
  file.
* `recovers_iff`: `loadPendingFrames` returns the frames of all whole files exactly when no header
  asks for more bytes than can be allocated.
* `failed_persist_iff`: a `persist` that returns `false` leaves the files as they were exactly when
  it has not begun to write, or has written what was there.
-/

namespace PictureReconstruct

open Library.Bytes Library.Procedure SenderSpool

/-! ## A write cut off by the death of the process -/

section TornWrite

variable {spool : SenderSpool} {frame other : RawFrame}

/-- A process that dies while it writes the file leaves the bytes that were written. -/
theorem persist_kill (spool : SenderSpool) (frame : RawFrame) (written : Nat) :
    wp (SenderSpool.persist (.kill written) frame)
      (fun _ after => after = spool)
      (fun cause after => cause = .died ∧ frame.empty = false ∧ after = spool.landed frame written)
      spool := by
  apply wp_persist
  · intro _
    rfl
  · intro n filled fault
    cases fault
  · intro n filled fault
    obtain rfl := DiskFault.kill.inj fault
    exact ⟨rfl, filled, rfl⟩
  · intro filled room fault
    cases fault

/-- A frame with another id is loaded from a file that was not touched. -/
theorem mem_pending_landed_of_ne (owned : Owned spool.files) (filled : frame.empty = false)
    (differs : other.frameId ≠ frame.frameId) (n : Nat) :
    other ∈ pending (spool.landed frame n).files ↔ other ∈ pending spool.files := by
  constructor
  · intro member
    obtain rfl | old := pending_of_landed filled member
    · exact absurd rfl differs
    · exact old
  · intro member
    obtain ⟨filled', held⟩ := owned.pending member
    refine mem_pending.mpr ⟨filePathFor other.frameId, spoolFile other, ?_,
      extension_filePathFor _, loaded_spoolFile filled'⟩
    rw [landed_files, AList.lookup_insert_ne (filePathFor_injective.ne differs)]
    exact held

/-- The frame itself is loaded from its file if that is whole. -/
theorem mem_pending_landed_self (owned : Owned spool.files) (filled : frame.empty = false)
    (same : other.frameId = frame.frameId) (n : Nat) :
    other ∈ pending (spool.landed frame n).files ↔
      other = frame ∧ (spoolFile frame).length ≤ n := by
  constructor
  · intro member
    obtain ⟨filled', held⟩ := (owned.landed filled n).pending member
    rw [landed_files, same, AList.lookup_insert, Option.some.injEq] at held
    have load := loaded_take filled n
    rw [held, loaded_spoolFile filled'] at load
    split at load
    · next whole => exact ⟨Option.some.inj load, whole⟩
    · cases load
  · rintro ⟨rfl, whole⟩
    refine mem_pending.mpr ⟨filePathFor other.frameId, _, AList.lookup_insert _,
      extension_filePathFor _, ?_⟩
    rw [loaded_take filled, if_pos whole]

end TornWrite

/-- Whatever part of its file a dying process has written, a new spool over the directory loads the
    frames with other ids as before, and this frame if the file is whole. -/
theorem torn_write_never_surfaces (spool : SenderSpool) (owned : Owned spool.files)
    (frame : RawFrame) (written : Nat) (after : SenderSpool)
    (died : SenderSpool.persist (.kill written) frame spool = .error .died after) :
    ∃ before frames, spool.loadPendingFrames = .ok before ∧
      (openRoot after.files).loadPendingFrames = .ok frames ∧
      (frames.filter fun other => other.frameId ≠ frame.frameId) =
        (before.filter fun other => other.frameId ≠ frame.frameId) ∧
      (frames.filter fun other => other.frameId = frame.frameId) =
        if (spoolFile frame).length ≤ written then [frame] else [] := by
  obtain ⟨_, filled, rfl⟩ := (persist_kill spool frame written).error died
  have owned' := owned.landed filled written
  refine ⟨pending spool.files, pending (spool.landed frame written).files, ?_, ?_, ?_, ?_⟩
  · rw [loadPendingFrames_eq, if_pos owned.loads]
  · rw [loadPendingFrames_eq]
    exact if_pos owned'.loads
  · apply ascending_ext (owned'.ascending.filter _) (owned.ascending.filter _)
    intro other
    simp only [List.mem_filter, decide_eq_true_eq]
    constructor
    · rintro ⟨member, differs⟩
      exact ⟨(mem_pending_landed_of_ne owned filled differs written).mp member, differs⟩
    · rintro ⟨member, differs⟩
      exact ⟨(mem_pending_landed_of_ne owned filled differs written).mpr member, differs⟩
  · have one : (if (spoolFile frame).length ≤ written then [frame] else []).Pairwise
        fun a b => a.frameId < b.frameId := by
      split
      · exact List.pairwise_singleton _ _
      · exact List.Pairwise.nil
    apply ascending_ext (owned'.ascending.filter _) one
    intro other
    rw [List.mem_filter, decide_eq_true_eq]
    constructor
    · rintro ⟨member, same⟩
      obtain ⟨rfl, whole⟩ := (mem_pending_landed_self owned filled same written).mp member
      rw [if_pos whole]
      exact List.mem_singleton_self _
    · intro member
      split at member
      · next whole =>
        obtain rfl := List.mem_singleton.mp member
        exact ⟨(mem_pending_landed_self owned filled rfl written).mpr ⟨rfl, whole⟩, rfl⟩
      · cases member

/-- A frame overwrites an earlier copy and is cut off in its header; another one is left. -/
theorem torn_write_never_surfaces_header :
    ∃ before frames,
      (((openRoot ∅).landed (pixel 5 1) 41).landed (pixel 7 2) 41).loadPendingFrames = .ok before ∧
      (openRoot ((((openRoot ∅).landed (pixel 5 1) 41).landed (pixel 7 2) 41).landed
        (pixel 7 3) 20).files).loadPendingFrames = .ok frames ∧
      (frames.filter fun other => other.frameId ≠ (pixel 7 3).frameId) =
        (before.filter fun other => other.frameId ≠ (pixel 7 3).frameId) ∧
      (frames.filter fun other => other.frameId = (pixel 7 3).frameId) =
        if (spoolFile (pixel 7 3)).length ≤ 20 then [pixel 7 3] else [] :=
  torn_write_never_surfaces (((openRoot ∅).landed (pixel 5 1) 41).landed (pixel 7 2) 41)
    ((@Owned.landed (openRoot ∅) .empty (pixel 5 1) (by decide) 41).landed (by decide) 41)
    (pixel 7 3) 20 _ rfl

/-! ## Files with any contents -/

/-- The file starts with a header of the right magic and version. -/
structure Headed (bytes : List UInt8) : Prop where
  long : SpoolHeader.size ≤ bytes.length
  magic : (SpoolHeader.ofBytes bytes).magic = 0x5350484C
  version : (SpoolHeader.ofBytes bytes).version = 1

instance (bytes : List UInt8) : Decidable (Headed bytes) :=
  decidable_of_iff
    (SpoolHeader.size ≤ bytes.length ∧ (SpoolHeader.ofBytes bytes).magic = 0x5350484C ∧
      (SpoolHeader.ofBytes bytes).version = 1)
    ⟨fun ⟨long, magic, version⟩ => ⟨long, magic, version⟩,
      fun ⟨long, magic, version⟩ => ⟨long, magic, version⟩⟩

/-- The header is followed by all the bytes that it announces. -/
structure Whole (bytes : List UInt8) : Prop extends Headed bytes where
  payload : SpoolHeader.size + (SpoolHeader.ofBytes bytes).totalBytes.toNat ≤ bytes.length

instance (bytes : List UInt8) : Decidable (Whole bytes) :=
  decidable_of_iff
    (Headed bytes ∧
      SpoolHeader.size + (SpoolHeader.ofBytes bytes).totalBytes.toNat ≤ bytes.length)
    ⟨fun ⟨headed, payload⟩ => ⟨headed, payload⟩, fun ⟨headed, payload⟩ => ⟨headed, payload⟩⟩

/-- The header announces more bytes than a vector can have, or than can be allocated. -/
structure Oversized (bytes : List UInt8) (allocates : Nat → Bool) : Prop extends
    Headed bytes where
  refused : 2 ^ 63 ≤ (SpoolHeader.ofBytes bytes).totalBytes.toNat ∨
    allocates (SpoolHeader.ofBytes bytes).totalBytes.toNat = false

/-- `frame` is what the file says. -/
structure Holds (bytes : List UInt8) (frame : RawFrame) : Prop where
  frameId : frame.frameId = (SpoolHeader.ofBytes bytes).frameId
  rows : frame.rows = (SpoolHeader.ofBytes bytes).rows
  cols : frame.cols = (SpoolHeader.ofBytes bytes).cols
  type : frame.type = (SpoolHeader.ofBytes bytes).type
  elemSize : frame.elemSize = (SpoolHeader.ofBytes bytes).elemSize
  totalBytes : frame.totalBytes = (SpoolHeader.ofBytes bytes).totalBytes
  buffer : frame.buffer =
    some (slice bytes SpoolHeader.size (SpoolHeader.ofBytes bytes).totalBytes.toNat)

/-- `loadPendingFrames` returns one frame for each whole file and skips the others. -/
def Recovers (spool : SenderSpool) (allocates : List Char → Nat → Bool) : Prop :=
  ∃ frames files, spool.loadPendingFrames allocates = .ok frames ∧
    files.Perm (spool.files.entries.filter fun file =>
      extension file.1 = nameSuffix ∧ Whole file.2) ∧
    List.Forall₂ (fun file frame => Holds file.2 frame) files frames

section Recovery

variable {bytes : List UInt8} {allocates : Nat → Bool} {memory : List Char → Nat → Bool}

/-- The tests of the header in `loadPendingFrames`. -/
theorem headed_iff : (bytes.length < SpoolHeader.size ||
    (SpoolHeader.ofBytes bytes).magic != 0x5350484C ||
      (SpoolHeader.ofBytes bytes).version != 1) = true ↔ ¬ Headed bytes := by
  simp only [Bool.or_eq_true, decide_eq_true_eq, bne_iff_ne]
  constructor
  · rintro ((short | magic) | version) headed
    · exact absurd headed.long (Nat.not_le.mpr short)
    · exact magic headed.magic
    · exact version headed.version
  · intro headless
    by_cases long : SpoolHeader.size ≤ bytes.length
    · by_cases magic : (SpoolHeader.ofBytes bytes).magic = 0x5350484C
      · exact .inr fun version => headless ⟨long, magic, version⟩
      · exact .inl (.inr magic)
    · exact .inl (.inl (Nat.not_le.mp long))

theorem slice_whole_iff (headed : Headed bytes) :
    (slice bytes SpoolHeader.size (SpoolHeader.ofBytes bytes).totalBytes.toNat).length =
      (SpoolHeader.ofBytes bytes).totalBytes.toNat ↔ Whole bytes := by
  have long := headed.long
  rw [slice, List.length_take, List.length_drop]
  constructor
  · intro length
    exact ⟨headed, by omega⟩
  · intro whole
    have payload := whole.payload
    omega

/-- What `loadPendingFrames` makes of a file. -/
inductive Loading (bytes : List UInt8) (allocates : Nat → Bool) :
    Except Abort (Option RawFrame) → Prop
  | skipped : ¬ Oversized bytes allocates → ¬ Whole bytes → Loading bytes allocates (.ok none)
  | loaded {frame} : ¬ Oversized bytes allocates → Whole bytes → Holds bytes frame →
    Loading bytes allocates (.ok (some frame))
  /-- the loop is left -/
  | threw : Oversized bytes allocates → Loading bytes allocates (.error .threw)

theorem loadFile_loading (bytes : List UInt8) (allocates : Nat → Bool) :
    Loading bytes allocates (loadFile bytes allocates) := by
  unfold loadFile
  dsimp only
  split
  · next refused =>
    have headless := headed_iff.mp refused
    exact .skipped (fun oversized => headless oversized.toHeaded)
      (fun whole => headless whole.toHeaded)
  · next accepted =>
    have headed : Headed bytes := by
      by_contra headless
      exact accepted (headed_iff.mpr headless)
    split
    · next small =>
      have bounded : ¬ Oversized bytes allocates := by
        rintro ⟨_, large | none⟩
        · exact Nat.not_le.mpr small.1 large
        · exact Bool.false_ne_true (none.symm.trans small.2)
      split
      · next whole =>
        exact .loaded bounded ((slice_whole_iff headed).mp whole)
          ⟨rfl, rfl, rfl, rfl, rfl, rfl, rfl⟩
      · next cut => exact .skipped bounded (mt (slice_whole_iff headed).mpr cut)
    · next large =>
      rw [not_and_or, Nat.not_lt, Bool.not_eq_true] at large
      exact .threw ⟨headed, large⟩

theorem loadFile_threw_iff :
    loadFile bytes allocates = .error .threw ↔ Oversized bytes allocates := by
  have loading := loadFile_loading bytes allocates
  generalize loadFile bytes allocates = result at loading
  cases loading with
  | skipped bounded _ => simpa using bounded
  | loaded bounded _ _ => simpa using bounded
  | threw oversized => exact iff_of_true rfl oversized

theorem loaded_whole (whole : Whole bytes) (bounded : ¬ Oversized bytes allocates) :
    ∃ frame, loaded bytes = some frame ∧ Holds bytes frame := by
  have loading := loadFile_loading bytes allocates
  generalize load : loadFile bytes allocates = result at loading
  cases loading with
  | skipped _ cut => exact absurd whole cut
  | loaded _ _ holds => exact ⟨_, loaded_of_loadFile load, holds⟩
  | threw oversized => exact absurd oversized bounded

theorem loaded_partial (cut : ¬ Whole bytes) : loaded bytes = none := by
  have loading := loadFile_loading bytes fun _ => true
  unfold loaded
  generalize loadFile bytes = result at loading
  cases loading with
  | skipped _ _ => rfl
  | loaded _ whole _ => exact absurd whole cut
  | threw _ => rfl

/-- The loop of `loadPendingFrames` over any of the files. -/
theorem loaded_holds : ∀ files : List (Sigma fun _ : List Char => List UInt8),
    (∀ file ∈ files, ¬ Oversized file.2 (memory file.1)) →
    List.Forall₂ (fun file frame => Holds file.2 frame)
      (files.filter fun file => Whole file.2) (files.filterMap fun file => loaded file.2)
  | [], _ => .nil
  | file :: files, bounded => by
    have rest := loaded_holds files fun other member =>
      bounded other (List.mem_cons_of_mem file member)
    rw [List.filter_cons, List.filterMap_cons]
    by_cases whole : Whole file.2
    · obtain ⟨frame, load, holds⟩ := loaded_whole whole (bounded file List.mem_cons_self)
      rw [if_pos (decide_eq_true whole), load]
      exact .cons holds rest
    · rw [if_neg (by simpa using whole), loaded_partial whole]
      exact rest

theorem loads_iff {files : Directory} : Loads files memory ↔
    ∀ name bytes, files.lookup name = some bytes → extension name = nameSuffix →
      ¬ Oversized bytes (memory name) := by
  constructor
  · intro loads name bytes held named oversized
    exact loads ⟨name, bytes⟩ (mem_spoolPaths.mpr ⟨held, named⟩)
      (loadFile_threw_iff.mpr oversized)
  · intro bounded file member threw
    obtain ⟨held, named⟩ := mem_spoolPaths.mp member
    exact bounded file.1 file.2 held named (loadFile_threw_iff.mp threw)

theorem Recovers.loads {spool : SenderSpool} (recovers : Recovers spool memory) :
    Loads spool.files memory := by
  obtain ⟨frames, _, returns, _⟩ := recovers
  by_contra unread
  rw [loadPendingFrames_eq, if_neg unread] at returns
  cases returns

theorem Loads.recovers {spool : SenderSpool} (loads : Loads spool.files memory) :
    Recovers spool memory := by
  refine ⟨pending spool.files, (spoolPaths spool.files).filter fun file => Whole file.2, ?_, ?_,
    ?_⟩
  · rw [loadPendingFrames_eq, if_pos loads]
  · have sorted := (List.perm_insertionSort (fun a b : Sigma fun _ : List Char => List UInt8 =>
      parseFrameIdFromFileName a.1 ≤ parseFrameIdFromFileName b.1)
      (spool.files.entries.filter fun file => extension file.1 = nameSuffix)).filter
        fun file => Whole file.2
    rw [List.filter_filter] at sorted
    apply sorted.trans
    apply List.Perm.of_eq
    apply List.filter_congr
    intro file _
    rw [← Bool.decide_and, decide_eq_decide, and_comm]
  · apply loaded_holds
    intro file member oversized
    exact loads file member (loadFile_threw_iff.mpr oversized)

end Recovery

/-- For any files and any memory: all whole files are recovered if and only if the bytes that a
    header of the right magic and version announces can be allocated, for each file of the spool. -/
theorem recovers_iff (spool : SenderSpool) (allocates : List Char → Nat → Bool) :
    Recovers spool allocates ↔
      ∀ name bytes, spool.files.lookup name = some bytes → extension name = nameSuffix →
        ¬ Oversized bytes (allocates name) := by
  rw [← loads_iff]
  exact ⟨Recovers.loads, Loads.recovers⟩

/-- One header that announces 2^63 bytes, and the frame in the other file is not recovered, however
    much memory there is. -/
theorem oversized_blocks_recovery :
    ¬ Recovers (openRoot (((∅ : Directory).insert (filePathFor 7) (spoolFile (pixel 7 1))).insert
      (filePathFor 5) (SpoolHeader.bytes { frameId := 5, totalBytes := 2 ^ 63 })))
      fun _ _ => true := by
  intro recovers
  refine loads_iff.mp recovers.loads (filePathFor 5) _ (AList.lookup_insert _)
    (extension_filePathFor 5) ?_
  exact ⟨⟨by decide +kernel, by decide +kernel, by decide +kernel⟩, .inl (by decide +kernel)⟩

/-! ## A `persist` that returns `false` -/

/-- The files with their contents and the counter are the same, and what could be loaded still
    can. -/
structure Unchanged (before after : SenderSpool) : Prop where
  files : ∀ name, after.files.lookup name = before.files.lookup name
  bytesUsed : after.bytesUsed = before.bytesUsed
  pending : ∀ frame ∈ pending before.files, frame ∈ pending after.files

section FailedPersist

variable {spool after : SenderSpool} {frame : RawFrame} {written : Nat}

theorem Unchanged.of_files (files : ∀ name, after.files.lookup name = spool.files.lookup name)
    (bytesUsed : after.bytesUsed = spool.bytesUsed) : Unchanged spool after where
  files := files
  bytesUsed := bytesUsed
  pending frame member := by
    obtain ⟨name, bytes, held, loads⟩ := mem_pending.mp member
    exact mem_pending.mpr ⟨name, bytes, by rw [files, held], loads⟩

theorem Unchanged.refl (spool : SenderSpool) : Unchanged spool spool :=
  .of_files (fun _ => rfl) rfl

/-- Writing a part of a file changes nothing if the file was just that before. -/
theorem unchanged_landed_iff : Unchanged spool (spool.landed frame written) ↔
    spool.files.lookup (filePathFor frame.frameId) = some ((spoolFile frame).take written) := by
  constructor
  · intro unchanged
    rw [← unchanged.files, landed_files]
    exact AList.lookup_insert spool.files
  · intro held
    refine .of_files (fun name => ?_) rfl
    rw [landed_files]
    by_cases same : name = filePathFor frame.frameId
    · rw [same, AList.lookup_insert, held]
    · rw [AList.lookup_insert_ne same]

/-- An empty frame and one without room are refused before the file is opened. -/
theorem persist_refused {fault : DiskFault}
    (refuses : ¬ (frame.empty = false ∧ spool.canPersist (requiredBytes frame) = true)) :
    wp (SenderSpool.persist fault frame) (fun _ after => after = spool) (fun _ _ => False)
      spool := by
  simp only [SenderSpool.persist, wp_bind, wp_ite, wp_pure, wp_get]
  refine ⟨fun _ => trivial, fun filled => ⟨fun _ => trivial, fun fits => ?_⟩⟩
  rw [Bool.not_eq_true] at filled
  have full : spool.canPersist (requiredBytes frame) = false := by
    rw [← Bool.not_eq_true]
    exact fun room => refuses ⟨filled, room⟩
  have unlimited : ¬ 0 < spool.maxSpoolBytes := by
    intro limited
    apply fits
    rw [full, decide_eq_true limited]
    rfl
  have zero : spool.maxSpoolBytes = 0 := by
    rw [UInt64.lt_iff_toNat_lt] at unlimited
    rw [← UInt64.toNat_inj]
    simpa using unlimited
  rw [canPersist, zero] at full
  cases full

/-- A write that fails has truncated the file. -/
theorem persist_write (filled : frame.empty = false)
    (room : spool.canPersist (requiredBytes frame) = true) :
    wp (SenderSpool.persist (.write written) frame)
      (fun persisted after => persisted = false ∧ after = spool.landed frame written)
      (fun _ _ => False) spool := by
  apply wp_persist
  · intro refused
    obtain isEmpty | full | fault := refused
    · exact absurd (filled.symm.trans isEmpty) Bool.noConfusion
    · exact absurd (room.symm.trans full) Bool.noConfusion
    · cases fault
  · intro n _ fault
    obtain rfl := DiskFault.write.inj fault
    exact ⟨rfl, rfl⟩
  · intro n _ fault
    cases fault
  · intro _ _ fault
    cases fault

/-- What a failed write has left is what was there. -/
theorem held_of_unchanged (unchanged : wp (SenderSpool.persist (.write written) frame)
      (fun persisted after => persisted = false → Unchanged spool after) (fun _ _ => True) spool)
    (filled : frame.empty = false) (room : spool.canPersist (requiredBytes frame) = true) :
    spool.files.lookup (filePathFor frame.frameId) = some ((spoolFile frame).take written) := by
  have ends := (persist_write filled room).and unchanged
  cases run : SenderSpool.persist (.write written) frame spool with
  | error _ _ => exact (ends.error run).1.elim
  | ok persisted after =>
    obtain ⟨⟨failed, rfl⟩, same⟩ := ends.ok run
    exact unchanged_landed_iff.mp (same failed)

end FailedPersist

/-- For every spool, frame and fate of the write: if `persist` returns `false` then nothing has
    changed, exactly when no write of the file fails, or one does and has rewritten the file as it
    was before. -/
theorem failed_persist_iff (spool : SenderSpool) (fault : DiskFault) (frame : RawFrame) :
    wp (SenderSpool.persist fault frame)
      (fun persisted after => persisted = false → Unchanged spool after) (fun _ _ => True) spool ↔
    ∀ written, fault = .write written → frame.empty = false →
      spool.canPersist (requiredBytes frame) = true →
      spool.files.lookup (filePathFor frame.frameId) = some ((spoolFile frame).take written) := by
  constructor
  · rintro unchanged written rfl filled room
    exact held_of_unchanged unchanged filled room
  · intro rewritten
    by_cases accepts : frame.empty = false ∧ spool.canPersist (requiredBytes frame) = true
    · obtain ⟨filled, room⟩ := accepts
      apply wp_persist
      · intro _ _
        exact .refl spool
      · intro written _ fault _
        exact unchanged_landed_iff.mpr (rewritten written fault filled room)
      · intro written _ _
        trivial
      · intro _ _ _ failed
        cases failed
    · exact (persist_refused accepts).mono (fun _ _ same _ => same ▸ .refl spool)
        fun _ _ impossible => impossible.elim

/-- The disk is full in the pixels: the copy that was there is lost. -/
theorem failed_write_destroys_copy :
    ¬ wp (SenderSpool.persist (.write 40) (pixel 5 1))
      (fun persisted after => persisted = false →
        Unchanged ((openRoot ∅).landed (pixel 5 1) 41) after) (fun _ _ => True)
      ((openRoot ∅).landed (pixel 5 1) 41) := by
  intro unchanged
  exact absurd (held_of_unchanged unchanged (by decide) (by decide)) (by decide +kernel)

end PictureReconstruct
