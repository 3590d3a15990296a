import PictureReconstruct.Common.Disk
import PictureReconstruct.Common.RawFrame
import PictureReconstruct.Library.Bytes
import PictureReconstruct.Library.Procedure
import PictureReconstruct.Library.Text
import Mathlib.Data.List.Sort

/-! # `SenderSpool`: frames on disk until the receiver has them

The spool is its directory with the quota and the byte counter.  A file is the native
`SpoolHeader`, padding included, followed by the pixels.

* `parseFrameIdFromFileName_filePathFor`: file names spell frame ids.
* `loadFile_take`: a file cut off anywhere loads as the frame if it is whole and is
  skipped otherwise.
* `wp_persist`, `removeFrame_files`: what the mutators can do.
-/

namespace PictureReconstruct

open Library.Bytes Library.Procedure Library.Text

/-! ## File names -/

/-- "frame_" -/
def namePrefix : List Char := ['f', 'r', 'a', 'm', 'e', '_']
/-- ".spool" -/
def nameSuffix : List Char := ['.', 's', 'p', 'o', 'o', 'l']

/-- `filePathFor`, without the root. -/
def filePathFor (frameId : UInt64) : List Char :=
  namePrefix ++ decimal frameId.toNat ++ nameSuffix

def parseFrameIdFromFileName (filename : List Char) : UInt64 :=
  if !namePrefix.isPrefixOf filename then 0
  else if filename.length ≤ namePrefix.length + nameSuffix.length then 0
  else
    let body := (filename.drop namePrefix.length).take
      (filename.length - namePrefix.length - nameSuffix.length)
    -- the exceptions of `stoull` are caught
    (stoull body).getD 0

/-- `std::filesystem::path::extension`: the name from its last dot on, unless that dot is its
    first character. -/
def extension (filename : List Char) : List Char :=
  let (backwards, front) := filename.reverse.span (· ≠ '.')
  match front with
  | '.' :: _ :: _ => '.' :: backwards.reverse
  | _ => []

@[simp] theorem parseFrameIdFromFileName_filePathFor (frameId : UInt64) :
    parseFrameIdFromFileName (filePathFor frameId) = frameId := by
  have digits := List.length_pos_iff.mpr (decimal_ne_nil frameId.toNat)
  have isPrefix : namePrefix.isPrefixOf (filePathFor frameId) = true := by
    rw [List.isPrefixOf_iff_prefix, filePathFor, List.append_assoc]
    exact List.prefix_append _ _
  have length : (filePathFor frameId).length =
      namePrefix.length + (decimal frameId.toNat).length + nameSuffix.length := by
    simp [filePathFor, Nat.add_assoc]
  have body : ((filePathFor frameId).drop namePrefix.length).take
      ((filePathFor frameId).length - namePrefix.length - nameSuffix.length) =
        decimal frameId.toNat := by
    rw [length, filePathFor, List.append_assoc, List.drop_left]
    exact List.take_left' (by omega)
  have long : ¬ (filePathFor frameId).length ≤ namePrefix.length + nameSuffix.length := by omega
  simp only [parseFrameIdFromFileName, isPrefix, long, body, stoull_decimal, Bool.not_true,
    Bool.false_eq_true, if_false, Option.getD_some]

theorem filePathFor_injective : Function.Injective filePathFor :=
  Function.LeftInverse.injective parseFrameIdFromFileName_filePathFor

@[simp] theorem extension_filePathFor (frameId : UInt64) :
    extension (filePathFor frameId) = nameSuffix := by
  have shape : (filePathFor frameId).reverse =
      ['l', 'o', 'o', 'p', 's'] ++
        '.' :: ((decimal frameId.toNat).reverse ++ namePrefix.reverse) := by
    simp [filePathFor, nameSuffix]
  obtain ⟨c, rest, front⟩ := List.exists_cons_of_ne_nil
    (show (decimal frameId.toNat).reverse ++ namePrefix.reverse ≠ [] by simp [namePrefix])
  rw [extension, shape, front]
  simp [List.span_eq_takeWhile_dropWhile, nameSuffix]

/-! ## Files -/

/-- `SpoolHeader` with its default member initializers. -/
structure SpoolHeader where
  magic : UInt32 := 0x5350484C
  version : UInt16 := 1
  frameId : UInt64 := 0
  rows : UInt32 := 0
  cols : UInt32 := 0
  type : UInt32 := 0
  elemSize : UInt32 := 0
  totalBytes : UInt64 := 0
deriving DecidableEq

namespace SpoolHeader

/-- `sizeof(SpoolHeader)` -/
def size : Nat := 40

/-- The object representation on a little-endian machine: `frameId` is aligned to eight bytes. -/
def bytes (header : SpoolHeader) : List UInt8 :=
  littleEndian 4 header.magic.toNat ++ (littleEndian 2 header.version.toNat ++ ([0, 0] ++
  (littleEndian 8 header.frameId.toNat ++ (littleEndian 4 header.rows.toNat ++
  (littleEndian 4 header.cols.toNat ++ (littleEndian 4 header.type.toNat ++
  (littleEndian 4 header.elemSize.toNat ++ littleEndian 8 header.totalBytes.toNat)))))))

/-- `in.read` over the object. -/
def ofBytes (bytes : List UInt8) : SpoolHeader where
  magic := UInt32.ofNat (ofLittleEndian (slice bytes 0 4))
  version := UInt16.ofNat (ofLittleEndian (slice bytes 4 2))
  frameId := UInt64.ofNat (ofLittleEndian (slice bytes 8 8))
  rows := UInt32.ofNat (ofLittleEndian (slice bytes 16 4))
  cols := UInt32.ofNat (ofLittleEndian (slice bytes 20 4))
  type := UInt32.ofNat (ofLittleEndian (slice bytes 24 4))
  elemSize := UInt32.ofNat (ofLittleEndian (slice bytes 28 4))
  totalBytes := UInt64.ofNat (ofLittleEndian (slice bytes 32 8))

@[simp] theorem bytes_length (header : SpoolHeader) : header.bytes.length = size := by
  simp [bytes, size]

theorem slice_skip {front rest : List UInt8} {offset n : Nat} (skipped : front.length ≤ offset) :
    slice (front ++ rest) offset n = slice rest (offset - front.length) n :=
  slice_append_right rfl rest n skipped

theorem uint32_field (value : UInt32) (rest : List UInt8) :
    UInt32.ofNat (ofLittleEndian (slice (littleEndian 4 value.toNat ++ rest) 0 4)) = value := by
  rw [slice_append_left (littleEndian_length 4 _),
    ofLittleEndian_littleEndian_of_lt (value.toNat_lt.trans_eq (by norm_num)), UInt32.ofNat_toNat]

theorem uint16_field (value : UInt16) (rest : List UInt8) :
    UInt16.ofNat (ofLittleEndian (slice (littleEndian 2 value.toNat ++ rest) 0 2)) = value := by
  rw [slice_append_left (littleEndian_length 2 _),
    ofLittleEndian_littleEndian_of_lt (value.toNat_lt.trans_eq (by norm_num)), UInt16.ofNat_toNat]

theorem uint64_field (value : UInt64) (rest : List UInt8) :
    UInt64.ofNat (ofLittleEndian (slice (littleEndian 8 value.toNat ++ rest) 0 8)) = value := by
  rw [slice_append_left (littleEndian_length 8 _),
    ofLittleEndian_littleEndian_of_lt (value.toNat_lt.trans_eq (by norm_num)), UInt64.ofNat_toNat]

/-- What was written is read back, whatever stands behind it. -/
theorem ofBytes_bytes (header : SpoolHeader) (rest : List UInt8) :
    ofBytes (header.bytes ++ rest) = header := by
  simp (disch := simp) only [bytes, ofBytes, List.append_assoc, slice_skip, littleEndian_length,
    List.length_cons, List.length_nil, Nat.reduceSub, Nat.reduceAdd, uint32_field, uint16_field,
    uint64_field]

end SpoolHeader

/-- The header that `persist` writes for `frame`. -/
def spoolHeader (frame : RawFrame) : SpoolHeader where
  frameId := frame.frameId
  rows := frame.rows
  cols := frame.cols
  type := frame.type
  elemSize := frame.elemSize
  totalBytes := frame.totalBytes

/-- The file that `persist` writes for `frame`. -/
def spoolFile (frame : RawFrame) : List UInt8 := (spoolHeader frame).bytes ++ frame.data

/-- One iteration of the loop of `loadPendingFrames`; `none` for `continue`.  The vector is
    allocated before the payload is read: `2 ^ 63` bytes or more are a `std::length_error`, and
    fewer a `std::bad_alloc` where `allocates` says that they cannot be had. -/
def loadFile (bytes : List UInt8) (allocates : Nat → Bool := fun _ => true) :
    Except Abort (Option RawFrame) :=
  let header := SpoolHeader.ofBytes bytes
  if bytes.length < SpoolHeader.size || header.magic != 0x5350484C || header.version != 1 then
    .ok none
  else if small : header.totalBytes.toNat < 2 ^ 63 ∧ allocates header.totalBytes.toNat = true then
    let payload := slice bytes SpoolHeader.size header.totalBytes.toNat
    if whole : payload.length = header.totalBytes.toNat then
      .ok <| some
        { frameId := header.frameId, rows := header.rows, cols := header.cols,
          type := header.type, elemSize := header.elemSize, totalBytes := header.totalBytes,
          buffer := some payload
          sized := by rintro _ ⟨⟩; exact ⟨whole, whole ▸ small.1⟩ }
    else .ok none
  else .error .threw

theorem spoolFile_length {frame : RawFrame} (filled : frame.empty = false) :
    (spoolFile frame).length = SpoolHeader.size + frame.totalBytes.toNat := by
  obtain ⟨_, length, _, _⟩ := RawFrame.data_of_not_empty filled
  rw [spoolFile, List.length_append, SpoolHeader.bytes_length, length]

/-- A file that holds the first `n` bytes of a frame's file is loaded when these are all of
    them, and skipped otherwise. -/
theorem loadFile_take {frame : RawFrame} (filled : frame.empty = false) (n : Nat) :
    loadFile ((spoolFile frame).take n) =
      .ok (if (spoolFile frame).length ≤ n then some frame else none) := by
  obtain ⟨buffer, length, _, small⟩ := RawFrame.data_of_not_empty filled
  have size := spoolFile_length filled
  -- a cut inside the header, or in the pixels
  cases Nat.lt_or_ge n SpoolHeader.size with
  | inl short =>
    have cut : ((spoolFile frame).take n).length < SpoolHeader.size := by
      rw [List.length_take]; omega
    rw [if_neg (by omega), loadFile, if_pos (by rw [decide_eq_true cut]; rfl)]
  | inr long =>
    have width : (spoolHeader frame).bytes.length = SpoolHeader.size := SpoolHeader.bytes_length _
    have shape : (spoolFile frame).take n =
        (spoolHeader frame).bytes ++ frame.data.take (n - SpoolHeader.size) := by
      rw [spoolFile, List.take_append, width, List.take_of_length_le (by omega)]
    have read : SpoolHeader.ofBytes ((spoolFile frame).take n) = spoolHeader frame := by
      rw [shape, SpoolHeader.ofBytes_bytes]
    have enough : ¬ ((spoolFile frame).take n).length < SpoolHeader.size := by
      rw [shape, List.length_append]; omega
    have payload : slice ((spoolFile frame).take n) SpoolHeader.size frame.totalBytes.toNat =
        frame.data.take (n - SpoolHeader.size) := by
      rw [shape, slice_append_right width _ _ (Nat.le_refl _), slice, Nat.sub_self, List.drop_zero]
      apply List.take_of_length_le
      rw [List.length_take]; omega
    have held : (frame.data.take (n - SpoolHeader.size)).length = frame.totalBytes.toNat ↔
        (spoolFile frame).length ≤ n := by
      rw [List.length_take]; omega
    simp only [loadFile, read, enough, spoolHeader, bne_self_eq_false, decide_false, Bool.or_self,
      Bool.false_eq_true, if_false, small, and_self, dite_true, payload, held]
    split
    · next whole =>
      have all : frame.data.take (n - SpoolHeader.size) = frame.data :=
        List.take_of_length_le (by omega)
      cases frame
      simp only [Except.ok.injEq, Option.some.injEq, RawFrame.mk.injEq, true_and]
      rw [all]
      exact buffer.symm
    · rfl

/-! ## The spool -/

structure SenderSpool where
  files : Directory
  maxSpoolBytes : UInt64 := 0
  bytesUsed : UInt64 := 0
deriving DecidableEq

namespace SenderSpool

/-- The constructor, over the files already in the directory. -/
def openRoot (files : Directory) : SenderSpool where
  files := files
  bytesUsed := (files.entries.map fun file => UInt64.ofNat file.2.length).sum

def canPersist (spool : SenderSpool) (requiredBytes : UInt64) : Bool :=
  spool.maxSpoolBytes == 0 || spool.bytesUsed + requiredBytes ≤ spool.maxSpoolBytes

def requiredBytes (frame : RawFrame) : UInt64 := frame.totalBytes + UInt64.ofNat SpoolHeader.size

/-- The spool with the first `n` bytes of the file of `frame` written. -/
def landed (spool : SenderSpool) (frame : RawFrame) (n : Nat) : SenderSpool :=
  { spool with files := spool.files.insert (filePathFor frame.frameId) ((spoolFile frame).take n) }

/-- `persist`, given the fate of the write. -/
def persist (fault : DiskFault) (frame : RawFrame) : EStateM Abort SenderSpool Bool := do
  if frame.empty then return false
  let spool ← get
  -- the quota is held against the counter, not against the files
  if spool.maxSpoolBytes > 0 && !spool.canPersist (requiredBytes frame) then return false
  match fault with
  | .open => return false
  | .write written =>
    modify fun spool => spool.landed frame written
    return false
  | .kill written =>
    modify fun spool => spool.landed frame written
    throw .died
  | .none =>
    modify fun spool => spool.landed frame (spoolFile frame).length
    -- a file that was there before is counted once more
    modify fun spool => { spool with bytesUsed := spool.bytesUsed + requiredBytes frame }
    return true

/-- `removeFrame`, which always returns `true`. -/
def removeFrame (spool : SenderSpool) (frameId : UInt64) : SenderSpool :=
  match spool.files.lookup (filePathFor frameId) with
  | none => spool
  | some removed =>
    { spool with
      files := spool.files.erase (filePathFor frameId)
      bytesUsed := max 0 (spool.bytesUsed - UInt64.ofNat removed.length) }

def hasFrame (spool : SenderSpool) (frameId : UInt64) : Bool :=
  (spool.files.lookup (filePathFor frameId)).isSome

def isEmpty (spool : SenderSpool) : Bool := spool.files.entries.isEmpty

def setMaxSpoolBytes (spool : SenderSpool) (maxBytes : UInt64) : SenderSpool :=
  { spool with maxSpoolBytes := maxBytes }

/-- The files that `loadPendingFrames` opens, in the order in which it does. -/
def spoolPaths (files : Directory) : List (Sigma fun _ : List Char => List UInt8) :=
  (files.entries.filter fun file => extension file.1 = nameSuffix).insertionSort
    fun a b => parseFrameIdFromFileName a.1 ≤ parseFrameIdFromFileName b.1

/-- What can be allocated is said for each file, as it depends on the frames loaded before. -/
def loadPendingFrames (spool : SenderSpool)
    (allocates : List Char → Nat → Bool := fun _ _ => true) : Except Abort (List RawFrame) := do
  let frames ← (spoolPaths spool.files).mapM fun file => loadFile file.2 (allocates file.1)
  return frames.reduceOption

/-! ## What the mutators can do -/

theorem wp_persist {fault : DiskFault} {frame : RawFrame} {spool : SenderSpool}
    {Q : Bool → SenderSpool → Prop} {E : Abort → SenderSpool → Prop}
    (refused : frame.empty = true ∨ spool.canPersist (requiredBytes frame) = false ∨
      fault = .open → Q false spool)
    (cut : ∀ written, frame.empty = false → fault = .write written →
      Q false (spool.landed frame written))
    (killed : ∀ written, frame.empty = false → fault = .kill written →
      E .died (spool.landed frame written))
    (persisted : frame.empty = false → spool.canPersist (requiredBytes frame) = true →
      fault = .none →
      Q true { spool.landed frame (spoolFile frame).length with
        bytesUsed := spool.bytesUsed + requiredBytes frame }) :
    wp (persist fault frame) Q E spool := by
  simp only [persist, wp_bind, wp_ite, wp_pure, wp_get]
  refine ⟨fun isEmpty => refused (.inl isEmpty), fun filled => ⟨fun full => ?_, fun fits => ?_⟩⟩
  · simp only [gt_iff_lt, Bool.and_eq_true, Bool.not_eq_true'] at full
    exact refused (.inr (.inl full.2))
  · rw [Bool.not_eq_true] at filled
    have room : spool.canPersist (requiredBytes frame) = true := by
      rw [Bool.not_eq_true, Bool.and_eq_false_iff] at fits
      cases fits with
      | inl unlimited =>
        have zero : spool.maxSpoolBytes = 0 := by
          simpa [UInt64.lt_iff_toNat_lt, ← UInt64.toNat_inj] using unlimited
        simp [canPersist, zero]
      | inr room => simpa using room
    cases fault with
    | none =>
      simp only [wp_bind, wp_modify, wp_pure]
      exact persisted filled room rfl
    | «open» => exact refused (.inr (.inr rfl))
    | write written => simpa only [wp_bind, wp_modify, wp_pure] using cut written filled rfl
    | kill written => simpa only [wp_bind, wp_modify, wp_throw] using killed written filled rfl

@[simp] theorem landed_files (spool : SenderSpool) (frame : RawFrame) (n : Nat) :
    (spool.landed frame n).files =
      spool.files.insert (filePathFor frame.frameId) ((spoolFile frame).take n) := rfl

@[simp] theorem removeFrame_files (spool : SenderSpool) (frameId : UInt64) :
    (spool.removeFrame frameId).files = spool.files.erase (filePathFor frameId) := by
  unfold removeFrame
  split
  · next absent =>
    rw [AList.lookup_eq_none] at absent
    exact AList.ext (List.kerase_of_notMem_keys absent).symm
  · rfl

@[simp] theorem removeFrame_maxSpoolBytes (spool : SenderSpool) (frameId : UInt64) :
    (spool.removeFrame frameId).maxSpoolBytes = spool.maxSpoolBytes := by
  unfold removeFrame
  split <;> rfl

/-- `removeFrame` for each of `frameIds`. -/
def removeAll (spool : SenderSpool) (frameIds : List UInt64) : SenderSpool :=
  frameIds.foldl removeFrame spool

@[simp] theorem removeAll_nil (spool : SenderSpool) : spool.removeAll [] = spool := rfl

theorem removeAll_concat (spool : SenderSpool) (frameIds : List UInt64) (frameId : UInt64) :
    spool.removeAll (frameIds ++ [frameId]) = (spool.removeAll frameIds).removeFrame frameId := by
  simp [removeAll]

theorem removeAll_lookup (spool : SenderSpool) (frameIds : List UInt64) (name : List Char) :
    (spool.removeAll frameIds).files.lookup name =
      if name ∈ frameIds.map filePathFor then none else spool.files.lookup name := by
  induction frameIds generalizing spool with
  | nil => simp
  | cons frameId frameIds ih =>
    rw [removeAll, List.foldl_cons, ← removeAll, ih, removeFrame_files, List.map_cons]
    by_cases later : name ∈ frameIds.map filePathFor
    · simp [later]
    · rcases eq_or_ne name (filePathFor frameId) with rfl | other
      · simp [later]
      · simp [later, other, AList.lookup_erase_ne]

/-- Removals bring no file into being. -/
theorem lookup_of_removeAll {spool : SenderSpool} {frameIds : List UInt64} {name : List Char}
    {bytes : List UInt8} (held : (spool.removeAll frameIds).files.lookup name = some bytes) :
    spool.files.lookup name = some bytes ∧ name ∉ frameIds.map filePathFor := by
  rw [removeAll_lookup] at held
  split at held
  · exact absurd held (by simp)
  · next kept => exact ⟨held, kept⟩

/-! ## What `loadPendingFrames` returns -/

/-- The frame that a file is loaded as. -/
def loaded (bytes : List UInt8) : Option RawFrame :=
  match loadFile bytes with
  | .ok frame => frame
  | .error _ => none

theorem loaded_take {frame : RawFrame} (filled : frame.empty = false) (n : Nat) :
    loaded ((spoolFile frame).take n) =
      if (spoolFile frame).length ≤ n then some frame else none := by
  rw [loaded, loadFile_take filled]

theorem loaded_spoolFile {frame : RawFrame} (filled : frame.empty = false) :
    loaded (spoolFile frame) = some frame := by
  have whole := loaded_take filled (spoolFile frame).length
  rwa [List.take_length, if_pos (Nat.le_refl _)] at whole

/-- A file that does not throw is loaded the same way whatever else could be allocated. -/
theorem loaded_of_loadFile {bytes : List UInt8} {allocates : Nat → Bool}
    {frame : Option RawFrame} (load : loadFile bytes allocates = .ok frame) :
    loaded bytes = frame := by
  unfold loaded
  unfold loadFile at load ⊢
  dsimp only at load ⊢
  split at load
  · next refused => rw [if_pos refused]; exact Except.ok.inj load
  · next accepted =>
    rw [if_neg accepted]
    split at load
    · next small =>
      rw [dif_pos ⟨small.1, rfl⟩]
      split at load
      · next whole => rw [dif_pos whole]; exact Except.ok.inj load
      · next cut => rw [dif_neg cut]; exact Except.ok.inj load
    · cases load

theorem mapM_loadFile (allocates : List Char → Nat → Bool)
    (paths : List (Sigma fun _ : List Char => List UInt8)) :
    (paths.mapM fun file => loadFile file.2 (allocates file.1)) =
      if ∀ file ∈ paths, loadFile file.2 (allocates file.1) ≠ .error .threw then
        .ok (paths.map fun file => loaded file.2)
      else .error .threw := by
  induction paths with
  | nil => rfl
  | cons file paths ih =>
    rw [List.mapM_cons, ih]
    cases result : loadFile file.2 (allocates file.1) with
    | error cause =>
      have threw : cause = .threw := by
        unfold loadFile at result
        dsimp only at result
        split_ifs at result
        exact (Except.error.inj result).symm
      have fails : ¬ ∀ other ∈ file :: paths,
          loadFile other.2 (allocates other.1) ≠ .error .threw :=
        fun all => all file List.mem_cons_self (by rw [result, threw])
      rw [if_neg fails, threw]
      rfl
    | ok frame =>
      simp only [List.forall_mem_cons, result, ne_eq, reduceCtorEq, not_false_eq_true, true_and,
        List.map_cons, loaded_of_loadFile result]
      split <;> rfl

/-- No file makes `loadPendingFrames` throw. -/
def Loads (files : Directory) (allocates : List Char → Nat → Bool := fun _ _ => true) : Prop :=
  ∀ file ∈ spoolPaths files, loadFile file.2 (allocates file.1) ≠ .error .threw

instance (files : Directory) (allocates : List Char → Nat → Bool) :
    Decidable (Loads files allocates) :=
  inferInstanceAs (Decidable (∀ file ∈ spoolPaths files,
    loadFile file.2 (allocates file.1) ≠ .error .threw))

/-- The frames of a spool in the order in which they are loaded. -/
def pending (files : Directory) : List RawFrame :=
  (spoolPaths files).filterMap fun file => loaded file.2

theorem loadPendingFrames_eq (spool : SenderSpool) (allocates : List Char → Nat → Bool) :
    spool.loadPendingFrames allocates =
      if Loads spool.files allocates then .ok (pending spool.files) else .error .threw := by
  rw [loadPendingFrames, mapM_loadFile]
  by_cases loads : ∀ file ∈ spoolPaths spool.files,
      loadFile file.2 (allocates file.1) ≠ .error .threw
  · rw [if_pos loads, if_pos (show Loads spool.files allocates from loads)]
    exact congrArg Except.ok List.filterMap_map
  · rw [if_neg loads, if_neg (show ¬ Loads spool.files allocates from loads)]
    rfl

/-- The files are opened in the order of the numbers in their names. -/
theorem spoolPaths_sorted (files : Directory) :
    (spoolPaths files).Pairwise fun a b =>
      parseFrameIdFromFileName a.1 ≤ parseFrameIdFromFileName b.1 :=
  List.pairwise_insertionSort _ _

theorem spoolPaths_distinct (files : Directory) :
    (spoolPaths files).Pairwise fun a b => a.1 ≠ b.1 := by
  have listed := files.nodupKeys.sublist (@List.filter_sublist _ (fun file =>
    decide (extension file.1 = nameSuffix)) _)
  exact List.nodupKeys_iff_pairwise.mp
    ((List.perm_nodupKeys (List.perm_insertionSort _ _)).mpr listed)

theorem mem_spoolPaths {files : Directory} {name : List Char} {bytes : List UInt8} :
    ⟨name, bytes⟩ ∈ spoolPaths files ↔
      files.lookup name = some bytes ∧ extension name = nameSuffix := by
  rw [spoolPaths, List.mem_insertionSort, List.mem_filter, ← AList.mem_lookup_iff]
  simp

/-- The file `name` of the spool holds `frame`. -/
def Spooled (files : Directory) (name : List Char) (frame : RawFrame) : Prop :=
  ∃ bytes, files.lookup name = some bytes ∧ extension name = nameSuffix ∧
    loaded bytes = some frame

theorem Spooled.mem {files : Directory} {name : List Char} {frame : RawFrame}
    (spooled : Spooled files name frame) : name ∈ files := by
  obtain ⟨bytes, held, _⟩ := spooled
  exact AList.lookup_isSome.mp (by rw [held]; rfl)

theorem Spooled.of_removeAll {spool : SenderSpool} {frameIds : List UInt64} {name : List Char}
    {frame : RawFrame} (spooled : Spooled (spool.removeAll frameIds).files name frame) :
    Spooled spool.files name frame ∧ name ∉ frameIds.map filePathFor := by
  obtain ⟨bytes, held, load⟩ := spooled
  exact ⟨⟨bytes, (lookup_of_removeAll held).1, load⟩, (lookup_of_removeAll held).2⟩

theorem mem_pending {files : Directory} {frame : RawFrame} :
    frame ∈ pending files ↔ ∃ name, Spooled files name frame := by
  rw [pending, List.mem_filterMap]
  constructor
  · rintro ⟨⟨name, bytes⟩, member, load⟩
    obtain ⟨held, named⟩ := mem_spoolPaths.mp member
    exact ⟨name, bytes, held, named, load⟩
  · rintro ⟨name, bytes, held, named, load⟩
    exact ⟨⟨name, bytes⟩, mem_spoolPaths.mpr ⟨held, named⟩, load⟩

/-- Writing a file of `frame` brings no other frame into the spool. -/
theorem Spooled.of_landed {spool : SenderSpool} {frame other : RawFrame} {n : Nat}
    {name : List Char} (filled : frame.empty = false)
    (spooled : Spooled (spool.landed frame n).files name other) :
    (name = filePathFor frame.frameId ∧ other = frame) ∨ Spooled spool.files name other := by
  obtain ⟨bytes, held, named, load⟩ := spooled
  rw [landed_files] at held
  rcases eq_or_ne name (filePathFor frame.frameId) with rfl | differs
  · rw [AList.lookup_insert, Option.some.injEq] at held
    rw [← held, loaded_take filled] at load
    split at load
    · exact .inl ⟨rfl, (Option.some.inj load).symm⟩
    · exact absurd load (by simp)
  · exact .inr ⟨bytes, by rwa [AList.lookup_insert_ne differs] at held, named, load⟩

theorem pending_of_removeAll {spool : SenderSpool} {frameIds : List UInt64} {frame : RawFrame}
    (member : frame ∈ pending (spool.removeAll frameIds).files) : frame ∈ pending spool.files := by
  obtain ⟨name, spooled⟩ := mem_pending.mp member
  exact mem_pending.mpr ⟨name, spooled.of_removeAll.1⟩

theorem pending_of_landed {spool : SenderSpool} {frame other : RawFrame} {n : Nat}
    (filled : frame.empty = false) (member : other ∈ pending (spool.landed frame n).files) :
    other = frame ∨ other ∈ pending spool.files := by
  obtain ⟨name, spooled⟩ := mem_pending.mp member
  exact (spooled.of_landed filled).imp And.right fun old => mem_pending.mpr ⟨name, old⟩

theorem mem_pending_landed (spool : SenderSpool) {frame : RawFrame} (filled : frame.empty = false) :
    frame ∈ pending (spool.landed frame (spoolFile frame).length).files := by
  refine mem_pending.mpr ⟨filePathFor frame.frameId, _, AList.lookup_insert _,
    extension_filePathFor _, ?_⟩
  rw [loaded_take filled, if_pos (Nat.le_refl _)]

/-- Every file loads, and a frame is loaded from the file that carries its id. -/
structure Filed (files : Directory) : Prop where
  loads : Loads files
  named : ∀ name frame, Spooled files name frame → name = filePathFor frame.frameId

theorem Filed.removeAll {spool : SenderSpool} (filed : Filed spool.files)
    (frameIds : List UInt64) : Filed (spool.removeAll frameIds).files where
  loads := fun ⟨name, bytes⟩ member => by
    obtain ⟨held, named⟩ := mem_spoolPaths.mp member
    exact filed.loads ⟨name, bytes⟩ (mem_spoolPaths.mpr ⟨(lookup_of_removeAll held).1, named⟩)
  named name frame spooled := filed.named name frame spooled.of_removeAll.1

theorem Filed.landed {spool : SenderSpool} (filed : Filed spool.files) {frame : RawFrame}
    (filled : frame.empty = false) (n : Nat) : Filed (spool.landed frame n).files where
  loads := fun ⟨name, bytes⟩ member => by
    obtain ⟨held, named⟩ := mem_spoolPaths.mp member
    rw [landed_files] at held
    rcases eq_or_ne name (filePathFor frame.frameId) with rfl | other
    · rw [AList.lookup_insert, Option.some.injEq] at held
      simp [← held, loadFile_take filled]
    · rw [AList.lookup_insert_ne other] at held
      exact filed.loads ⟨name, bytes⟩ (mem_spoolPaths.mpr ⟨held, named⟩)
  named name other spooled := by
    rcases spooled.of_landed filled with ⟨rfl, rfl⟩ | old
    · rfl
    · exact filed.named name other old

/-! ## Directories that only the spool writes to -/

/-- Every file was written by `persist`, whole or cut off. -/
def Owned (files : Directory) : Prop :=
  ∀ name bytes, files.lookup name = some bytes → ∃ frame n, frame.empty = false ∧
    name = filePathFor frame.frameId ∧ bytes = (spoolFile frame).take n

theorem Owned.empty : Owned ∅ := fun name _ held => by simp [AList.lookup_empty] at held

theorem Owned.landed {spool : SenderSpool} (owned : Owned spool.files) {frame : RawFrame}
    (filled : frame.empty = false) (n : Nat) : Owned (spool.landed frame n).files := by
  intro name bytes held
  rw [landed_files] at held
  rcases eq_or_ne name (filePathFor frame.frameId) with rfl | other
  · rw [AList.lookup_insert, Option.some.injEq] at held
    exact ⟨frame, n, filled, rfl, held.symm⟩
  · rw [AList.lookup_insert_ne other] at held
    exact owned name bytes held

theorem Owned.removeAll {spool : SenderSpool} (owned : Owned spool.files)
    (frameIds : List UInt64) : Owned (spool.removeAll frameIds).files :=
  fun name bytes held => owned name bytes (lookup_of_removeAll held).1

theorem Owned.loads {files : Directory} (owned : Owned files) : Loads files := by
  rintro ⟨name, bytes⟩ member
  obtain ⟨frame, n, filled, _, rfl⟩ := owned name bytes (mem_spoolPaths.mp member).1
  simp [loadFile_take filled]

/-- A frame is loaded from the file that carries its id. -/
theorem Owned.pending {files : Directory} (owned : Owned files) {frame : RawFrame}
    (member : frame ∈ pending files) : frame.empty = false ∧
      files.lookup (filePathFor frame.frameId) = some (spoolFile frame) := by
  obtain ⟨name, bytes, held, _, load⟩ := mem_pending.mp member
  obtain ⟨stored, n, filled, rfl, rfl⟩ := owned name bytes held
  rw [loaded_take filled] at load
  split at load
  · next whole =>
    obtain rfl := Option.some.inj load
    exact ⟨filled, by rw [held, List.take_of_length_le whole]⟩
  · exact absurd load (by simp)

theorem Owned.filed {files : Directory} (owned : Owned files) : Filed files where
  loads := owned.loads
  named name frame spooled := by
    obtain ⟨bytes, held, _, load⟩ := spooled
    obtain ⟨stored, n, filled, rfl, rfl⟩ := owned name bytes held
    rw [loaded_take filled] at load
    split at load
    · rw [Option.some.inj load]
    · exact absurd load (by simp)

/-- The file names sort as the ids of the frames they hold. -/
theorem Owned.ascending {files : Directory} (owned : Owned files) :
    (SenderSpool.pending files).Pairwise fun a b => a.frameId < b.frameId := by
  -- the paths ascend weakly by the number in the name, and no two names are the same
  have ordered := (spoolPaths_sorted files).and (spoolPaths_distinct files)
  rw [SenderSpool.pending, List.pairwise_filterMap]
  apply ordered.imp_of_mem
  intro file file' member member' apart frame load frame' load'
  obtain ⟨le, distinct⟩ := apart
  obtain ⟨held, extended⟩ := mem_spoolPaths.mp member
  obtain ⟨held', extended'⟩ := mem_spoolPaths.mp member'
  have named := owned.filed.named file.1 frame ⟨file.2, held, extended, load⟩
  have named' := owned.filed.named file'.1 frame' ⟨file'.2, held', extended', load'⟩
  rw [named, named'] at le distinct
  simp only [parseFrameIdFromFileName_filePathFor] at le
  exact UInt64.lt_of_le_of_ne le fun same => distinct (congrArg filePathFor same)

/-- A frame goes with its id and no other. -/
theorem Owned.mem_pending_removeAll {spool : SenderSpool} (owned : Owned spool.files)
    (frameIds : List UInt64) {frame : RawFrame} :
    frame ∈ SenderSpool.pending (spool.removeAll frameIds).files ↔
      frame ∈ SenderSpool.pending spool.files ∧ frame.frameId ∉ frameIds := by
  constructor
  · intro member
    obtain ⟨name, spooled⟩ := mem_pending.mp member
    obtain ⟨before, kept⟩ := spooled.of_removeAll
    rw [owned.filed.named name frame before] at kept
    exact ⟨mem_pending.mpr ⟨name, before⟩, fun removed => kept (List.mem_map_of_mem removed)⟩
  · rintro ⟨member, kept⟩
    obtain ⟨filled, held⟩ := owned.pending member
    refine mem_pending.mpr ⟨filePathFor frame.frameId, spoolFile frame, ?_,
      extension_filePathFor _, loaded_spoolFile filled⟩
    have other : filePathFor frame.frameId ∉ frameIds.map filePathFor := by
      intro removed
      obtain ⟨frameId, listed, same⟩ := List.mem_map.mp removed
      exact kept (filePathFor_injective same ▸ listed)
    rw [removeAll_lookup, if_neg other, held]

/-- Two lists of frames in ascending order are the same when they have the same members. -/
theorem ascending_ext {frames frames' : List RawFrame}
    (ascending : frames.Pairwise fun a b => a.frameId < b.frameId)
    (ascending' : frames'.Pairwise fun a b => a.frameId < b.frameId)
    (same : ∀ frame, frame ∈ frames ↔ frame ∈ frames') : frames = frames' := by
  have distinct : ∀ {frames : List RawFrame},
      frames.Pairwise (fun a b => a.frameId < b.frameId) → frames.Nodup := by
    intro frames ascending
    apply ascending.imp
    intro a b lt equal
    exact UInt64.lt_irrefl b.frameId (equal ▸ lt)
  have perm := (List.perm_ext_iff_of_nodup (distinct ascending) (distinct ascending')).mpr same
  exact perm.eq_of_pairwise (fun a b _ _ lt gt => absurd lt (UInt64.lt_asymm gt)) ascending
    ascending'

end SenderSpool

end PictureReconstruct
