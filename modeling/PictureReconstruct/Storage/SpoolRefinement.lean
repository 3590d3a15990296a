import PictureReconstruct.Storage.SenderSpool
import Mathlib.Logic.Function.Basic

/-! # `SenderSpool` refines a finite map

The purpose of the spool is a map from frame ids to frames; its directory implements it.

* `FrameMap`, `Operation.effect`: the map and what the operations do to it.
* `Refines`: a spool and the map it implements; `perform_refines` is the simulation step.
* `spool_refines_map`: after any sequence of operations the spool shows exactly the map.
-/

namespace PictureReconstruct

open Library.Procedure Library.Text SenderSpool

/-- The frames a spool is meant to hold, by id. -/
abbrev FrameMap := UInt64 → Option RawFrame

inductive Operation
  | persist (frame : RawFrame)
  | removeFrame (frameId : UInt64)
  /-- a new `SenderSpool` over the same directory -/
  | construct
deriving DecidableEq

namespace Operation

def effect : Operation → FrameMap → FrameMap
  | persist frame, map => Function.update map frame.frameId (some frame)
  | removeFrame frameId, map => Function.update map frameId none
  | construct, map => map

/-- The operation on a spool whose disk does not fail. -/
def perform : Operation → EStateM Abort SenderSpool Unit
  | persist frame => do
    let _ ← SenderSpool.persist .none frame
  | removeFrame frameId => modify fun spool => spool.removeFrame frameId
  | construct => modify fun spool => openRoot spool.files

/-- A frame that is persisted has pixels. -/
def Filled : Operation → Prop
  | persist frame => frame.empty = false
  | _ => True

end Operation

/-- What the operations leave in the map, the last one first to be overwritten. -/
def frameMap (operations : List Operation) : FrameMap :=
  operations.foldl (fun map operation => operation.effect map) fun _ => none

/-! ## The simulation -/

/-- `spool` implements `map`: one file for each of its frames and no other. -/
structure Refines (spool : SenderSpool) (map : FrameMap) : Prop where
  unlimited : spool.maxSpoolBytes = 0
  held : ∀ frameId, spool.files.lookup (filePathFor frameId) = (map frameId).map spoolFile
  named : ∀ name ∈ spool.files, ∃ frameId, name = filePathFor frameId
  filed : ∀ frameId frame, map frameId = some frame → frame.frameId = frameId ∧ frame.empty = false

theorem Refines.initial : Refines (openRoot ∅) fun _ => none where
  unlimited := rfl
  held _ := rfl
  named name member := absurd member (AList.notMem_empty name)
  filed _ _ absent := by simp at absent

section Simulation

variable {spool : SenderSpool} {map : FrameMap}

theorem Refines.persist (refines : Refines spool map) {frame : RawFrame}
    (filled : frame.empty = false) (bytesUsed : UInt64) :
    Refines { spool.landed frame (spoolFile frame).length with bytesUsed }
      (Function.update map frame.frameId (some frame)) where
  unlimited := refines.unlimited
  held frameId := by
    rcases eq_or_ne frameId frame.frameId with rfl | other
    · simp [AList.lookup_insert]
    · rw [Function.update_of_ne other, ← refines.held frameId]
      exact AList.lookup_insert_ne (filePathFor_injective.ne other)
  named name member := by
    rcases (AList.mem_insert _).mp member with rfl | old
    · exact ⟨frame.frameId, rfl⟩
    · exact refines.named name old
  filed frameId other known := by
    rcases eq_or_ne frameId frame.frameId with rfl | differs
    · rw [Function.update_self, Option.some.injEq] at known
      exact known ▸ ⟨rfl, filled⟩
    · rw [Function.update_of_ne differs] at known
      exact refines.filed frameId other known

theorem Refines.removeFrame (refines : Refines spool map) (removed : UInt64) :
    Refines (spool.removeFrame removed) (Function.update map removed none) where
  unlimited := by rw [removeFrame_maxSpoolBytes, refines.unlimited]
  held frameId := by
    rw [removeFrame_files]
    rcases eq_or_ne frameId removed with rfl | other
    · rw [AList.lookup_erase, Function.update_self, Option.map_none]
    · rw [AList.lookup_erase_ne (filePathFor_injective.ne other), Function.update_of_ne other,
        refines.held]
  named name member := by
    rw [removeFrame_files, AList.mem_erase] at member
    exact refines.named name member.2
  filed frameId frame known := by
    rcases eq_or_ne frameId removed with rfl | other
    · rw [Function.update_self] at known
      exact absurd known (by simp)
    · rw [Function.update_of_ne other] at known
      exact refines.filed frameId frame known

/-- One operation on the spool does to the map what it is meant to do. -/
theorem perform_refines (refines : Refines spool map) {operation : Operation}
    (filled : operation.Filled) :
    wp operation.perform (fun _ after => Refines after (operation.effect map)) (fun _ _ => False)
      spool := by
  cases operation with
  | persist frame =>
    have room : spool.canPersist (requiredBytes frame) = true := by
      simp [canPersist, refines.unlimited]
    simp only [Operation.perform, wp_bind]
    refine wp_persist (fun refused => ?_) (fun _ _ fault => ?_) (fun _ _ fault => ?_)
      (fun filled _ _ => refines.persist filled _)
    · rcases refused with isEmpty | full | fault
      · exact absurd (filled.symm.trans isEmpty) (by decide)
      · exact absurd (full.symm.trans room) (by decide)
      · exact absurd fault (by decide)
    · exact absurd fault (by simp)
    · exact absurd fault (by simp)
  | removeFrame frameId => exact refines.removeFrame frameId
  | construct => exact ⟨rfl, refines.held, refines.named, refines.filed⟩

/-- Any sequence of operations. -/
theorem performs_refine (operations : List Operation) (refines : Refines spool map)
    (filled : ∀ operation ∈ operations, operation.Filled) :
    wp (operations.forM Operation.perform)
      (fun _ after => Refines after
        (operations.foldl (fun map operation => operation.effect map) map))
      (fun _ _ => False) spool := by
  refine wp_forM
    (fun remaining spool => ∃ map', Refines spool map' ∧
      remaining.foldl (fun map operation => operation.effect map) map' =
        operations.foldl (fun map operation => operation.effect map) map ∧
      ∀ operation ∈ remaining, operation.Filled)
    ?_ ?_ operations spool ⟨map, refines, rfl, filled⟩
  · rintro after ⟨_, refines, rfl, _⟩
    exact refines
  · rintro operation remaining spool ⟨map', refines, same, filled⟩
    refine (perform_refines refines (filled operation List.mem_cons_self)).post
      (fun _ after next => ⟨_, next, same, fun other member =>
        filled other (List.mem_cons_of_mem _ member)⟩)

/-! ## What the spool shows -/

/-- Every file is the whole file of a frame of the map. -/
theorem Refines.file (refines : Refines spool map) {name : List Char} {bytes : List UInt8}
    (held : spool.files.lookup name = some bytes) :
    ∃ frame, map frame.frameId = some frame ∧ frame.empty = false ∧
      name = filePathFor frame.frameId ∧ bytes = spoolFile frame := by
  obtain ⟨frameId, rfl⟩ := refines.named name (AList.lookup_isSome.mp (by rw [held]; rfl))
  obtain ⟨frame, known, rfl⟩ := Option.map_eq_some_iff.mp ((refines.held frameId).symm.trans held)
  obtain ⟨rfl, filled⟩ := refines.filed frameId frame known
  exact ⟨frame, known, filled, rfl, rfl⟩

theorem Refines.owned (refines : Refines spool map) : Owned spool.files := by
  intro name bytes held
  obtain ⟨frame, _, filled, rfl, rfl⟩ := refines.file held
  exact ⟨frame, (spoolFile frame).length, filled, rfl, List.take_length.symm⟩

theorem Refines.mem_pending (refines : Refines spool map) (frame : RawFrame) :
    frame ∈ pending spool.files ↔ map frame.frameId = some frame := by
  rw [SenderSpool.mem_pending]
  constructor
  · rintro ⟨name, bytes, held, _, load⟩
    obtain ⟨stored, known, filled, _, rfl⟩ := refines.file held
    rw [loaded_spoolFile filled, Option.some.injEq] at load
    exact load ▸ known
  · intro known
    have held := refines.held frame.frameId
    rw [known, Option.map_some] at held
    exact ⟨_, _, held, extension_filePathFor _, loaded_spoolFile (refines.filed _ _ known).2⟩

theorem Refines.hasFrame (refines : Refines spool map) (frameId : UInt64) :
    spool.hasFrame frameId = true ↔ ∃ frame ∈ pending spool.files, frame.frameId = frameId := by
  rw [SenderSpool.hasFrame, refines.held, Option.isSome_map, Option.isSome_iff_exists]
  constructor
  · rintro ⟨frame, known⟩
    obtain ⟨rfl, _⟩ := refines.filed frameId frame known
    exact ⟨frame, (refines.mem_pending frame).mpr known, rfl⟩
  · rintro ⟨frame, member, rfl⟩
    exact ⟨frame, (refines.mem_pending frame).mp member⟩

theorem Refines.isEmpty (refines : Refines spool map) :
    spool.isEmpty = true ↔ pending spool.files = [] := by
  rw [SenderSpool.isEmpty, List.isEmpty_iff, List.eq_nil_iff_forall_not_mem,
    List.eq_nil_iff_forall_not_mem]
  constructor
  · rintro nothing frame member
    obtain ⟨name, bytes, held, _⟩ := SenderSpool.mem_pending.mp member
    exact nothing _ (AList.mem_lookup_iff.mp held)
  · rintro nothing ⟨name, bytes⟩ listed
    obtain ⟨frame, known, _⟩ := refines.file (AList.mem_lookup_iff.mpr listed)
    exact nothing frame ((refines.mem_pending frame).mpr known)

end Simulation

/-- The spool after any sequence of operations on an empty directory shows the frames of the
    map, in ascending order. -/
theorem spool_refines_map (operations : List Operation)
    (filled : ∀ operation ∈ operations, operation.Filled) :
    ∃ spool frames, operations.forM Operation.perform (openRoot ∅) = .ok () spool ∧
      spool.loadPendingFrames = .ok frames ∧
      frames.Pairwise (fun a b => a.frameId < b.frameId) ∧
      (∀ frameId frame, frameMap operations frameId = some frame ↔
        frame ∈ frames ∧ frame.frameId = frameId) ∧
      (∀ frameId, spool.hasFrame frameId = true ↔ ∃ frame ∈ frames, frame.frameId = frameId) ∧
      (spool.isEmpty = true ↔ frames = []) := by
  have simulation := performs_refine operations Refines.initial filled
  cases run : operations.forM Operation.perform (openRoot ∅) with
  | error _ _ => exact (simulation.error run).elim
  | ok _ spool =>
    have refines : Refines spool (frameMap operations) := simulation.ok run
    refine ⟨spool, pending spool.files, rfl, ?_, refines.owned.ascending, ?_, refines.hasFrame,
      refines.isEmpty⟩
    · rw [loadPendingFrames_eq, if_pos refines.owned.loads]
    · intro frameId frame
      rw [refines.mem_pending]
      constructor
      · intro known
        obtain ⟨rfl, _⟩ := refines.filed frameId frame known
        exact ⟨known, rfl⟩
      · rintro ⟨known, rfl⟩
        exact known

/-- A frame persisted twice with a restart in between, and one removed. -/
theorem spool_refines_map_overwritten :
    ∃ spool frames,
      [.persist (pixel 42 1), .persist (pixel 7 2), .construct, .persist (pixel 42 3),
        .removeFrame 7].forM Operation.perform (openRoot ∅) = .ok () spool ∧
      spool.loadPendingFrames = .ok frames ∧ pixel 42 3 ∈ frames ∧
      spool.hasFrame 42 = true := by
  obtain ⟨spool, frames, run, loads, _, exact, has, _⟩ := spool_refines_map
    [.persist (pixel 42 1), .persist (pixel 7 2), .construct, .persist (pixel 42 3), .removeFrame 7]
    (by simp [Operation.Filled, RawFrame.empty, pixel])
  have member : pixel 42 3 ∈ frames :=
    ((exact 42 (pixel 42 3)).mp (by simp [frameMap, Operation.effect, Function.update, pixel])).1
  exact ⟨spool, frames, run, loads, member, (has 42).mpr ⟨_, member, rfl⟩⟩

end PictureReconstruct
