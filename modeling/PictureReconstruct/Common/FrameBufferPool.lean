import Mathlib.Data.Fintype.Card
import Mathlib.Data.List.FinRange
import Mathlib.Logic.Function.Basic

/-! # `FrameBufferPool`

The buffers of a pool with the use counts of the `shared_ptr`s that `acquire` hands out.  Each
operation runs under the mutex or on the atomic count.

* `Conserved`: a buffer is free exactly when nobody owns it, and it is free once.
* `acquire_conserved`, `share_conserved`, `drop_conserved`: every operation keeps that.
* `HeldBy`: the use counts against the pointers that are around; `HeldBy.available_iff`: the pool is
  complete when there are none; `HeldBy.available_of_fewer`: fewer pointers than buffers leave one
  free.
-/

namespace PictureReconstruct

structure FrameBufferPool (bufferSize bufferCount : Nat) where
  storage : Fin bufferCount → List UInt8
  sized : ∀ buffer, (storage buffer).length = bufferSize
  freeBuffers : List (Fin bufferCount)
  /-- the use count of the pointer to each buffer -/
  owners : Fin bufferCount → Nat

namespace FrameBufferPool

variable {bufferSize bufferCount : Nat}

/-- A new pool, over memory with any contents. -/
def create (storage : Fin bufferCount → List UInt8)
    (sized : ∀ buffer, (storage buffer).length = bufferSize) :
    FrameBufferPool bufferSize bufferCount where
  storage := storage
  sized := sized
  freeBuffers := List.finRange bufferCount
  owners _ := 0

/-- `acquire`, which waits for a free buffer. -/
def acquire (pool : FrameBufferPool bufferSize bufferCount) :
    Option (Fin bufferCount × FrameBufferPool bufferSize bufferCount) :=
  match pool.freeBuffers with
  | [] => none
  | buffer :: freeBuffers =>
    some (buffer, { pool with freeBuffers, owners := Function.update pool.owners buffer 1 })

/-- A pointer is copied. -/
def share (pool : FrameBufferPool bufferSize bufferCount) (buffer : Fin bufferCount) :
    FrameBufferPool bufferSize bufferCount :=
  { pool with owners := Function.update pool.owners buffer (pool.owners buffer + 1) }

/-- A pointer is destroyed; the last one calls `release`. -/
def drop (pool : FrameBufferPool bufferSize bufferCount) (buffer : Fin bufferCount) :
    FrameBufferPool bufferSize bufferCount :=
  { pool with
    owners := Function.update pool.owners buffer (pool.owners buffer - 1)
    freeBuffers :=
      if pool.owners buffer = 1 then pool.freeBuffers ++ [buffer] else pool.freeBuffers }

def totalCount (_ : FrameBufferPool bufferSize bufferCount) : Nat := bufferCount

def availableCount (pool : FrameBufferPool bufferSize bufferCount) : Nat := pool.freeBuffers.length

/-- One byte is written through a pointer. -/
def write (pool : FrameBufferPool bufferSize bufferCount) (buffer : Fin bufferCount) (index : Nat)
    (byte : UInt8) : FrameBufferPool bufferSize bufferCount :=
  { pool with
    storage := Function.update pool.storage buffer ((pool.storage buffer).set index byte)
    sized := by
      intro other
      by_cases same : other = buffer
      · rw [same, Function.update_self, List.length_set, pool.sized]
      · rw [Function.update_of_ne same, pool.sized] }

/-- The free buffers are those without an owner, each of them once. -/
structure Conserved (pool : FrameBufferPool bufferSize bufferCount) : Prop where
  nodup : pool.freeBuffers.Nodup
  free : ∀ buffer, buffer ∈ pool.freeBuffers ↔ pool.owners buffer = 0

theorem create_conserved (storage : Fin bufferCount → List UInt8)
    (sized : ∀ buffer, (storage buffer).length = bufferSize) : Conserved (create storage sized) :=
  ⟨List.nodup_finRange bufferCount, fun buffer => iff_of_true (List.mem_finRange buffer) rfl⟩

section Operations

variable {pool after : FrameBufferPool bufferSize bufferCount} {buffer : Fin bufferCount}

theorem acquire_cases (acquired : pool.acquire = some (buffer, after)) :
    ∃ rest, pool.freeBuffers = buffer :: rest ∧ after =
      { pool with freeBuffers := rest, owners := Function.update pool.owners buffer 1 } := by
  unfold acquire at acquired
  split at acquired
  · exact absurd acquired nofun
  · next first rest held =>
    obtain ⟨rfl, rfl⟩ := Prod.mk.inj (Option.some.inj acquired)
    exact ⟨rest, held, rfl⟩

/-- `acquire` does not wait while a buffer is free. -/
theorem acquire_of_available (available : 0 < pool.availableCount) :
    ∃ buffer after, pool.acquire = some (buffer, after) := by
  obtain ⟨buffer, rest, held⟩ := List.exists_cons_of_length_pos available
  rw [acquire, held]
  exact ⟨_, _, rfl⟩

theorem acquire_conserved (conserved : Conserved pool)
    (acquired : pool.acquire = some (buffer, after)) : Conserved after := by
  obtain ⟨rest, held, rfl⟩ := acquire_cases acquired
  obtain ⟨nodup, free⟩ := conserved
  rw [held, List.nodup_cons] at nodup
  refine ⟨nodup.2, fun other => ?_⟩
  by_cases same : other = buffer
  · simp only [same, Function.update_self]
    exact iff_of_false nodup.1 Nat.one_ne_zero
  · simp only [Function.update_of_ne same]
    rw [← free other, held, List.mem_cons]
    exact (or_iff_right same).symm

/-- A buffer that was free has no owner. -/
theorem owners_of_acquire (conserved : Conserved pool)
    (acquired : pool.acquire = some (buffer, after)) : pool.owners buffer = 0 := by
  obtain ⟨rest, held, _⟩ := acquire_cases acquired
  exact (conserved.free buffer).mp (held ▸ List.mem_cons_self)

theorem write_conserved (conserved : Conserved pool) (index : Nat) (byte : UInt8) :
    Conserved (pool.write buffer index byte) :=
  ⟨conserved.nodup, conserved.free⟩

theorem share_conserved (conserved : Conserved pool) (owned : 0 < pool.owners buffer) :
    Conserved (pool.share buffer) := by
  refine ⟨conserved.nodup, fun other => ?_⟩
  by_cases same : other = buffer
  · have held : buffer ∉ pool.freeBuffers := fun free =>
      Nat.ne_of_gt owned ((conserved.free buffer).mp free)
    simp only [share, same, Function.update_self]
    exact iff_of_false held (Nat.succ_ne_zero _)
  · simp only [share, Function.update_of_ne same]
    exact conserved.free other

theorem drop_conserved (conserved : Conserved pool) (owned : 0 < pool.owners buffer) :
    Conserved (pool.drop buffer) := by
  have held : buffer ∉ pool.freeBuffers := fun free =>
    Nat.ne_of_gt owned ((conserved.free buffer).mp free)
  by_cases last : pool.owners buffer = 1
  · refine ⟨?_, fun other => ?_⟩
    · simp only [drop, if_pos last]
      rw [List.nodup_append_comm]
      exact List.nodup_cons.mpr ⟨held, conserved.nodup⟩
    · simp only [drop, if_pos last, List.mem_append, List.mem_singleton]
      by_cases same : other = buffer
      · rw [same, Function.update_self, last]
        exact iff_of_true (.inr rfl) rfl
      · rw [Function.update_of_ne same, or_iff_left same]
        exact conserved.free other
  · refine ⟨?_, fun other => ?_⟩
    · simp only [drop, if_neg last]
      exact conserved.nodup
    · simp only [drop, if_neg last]
      by_cases same : other = buffer
      · rw [same, Function.update_self]
        exact iff_of_false held (by omega)
      · rw [Function.update_of_ne same]
        exact conserved.free other

end Operations

/-! ## Pointers -/

/-- The use counts are those of the pointers that are around. -/
structure HeldBy (pool : FrameBufferPool bufferSize bufferCount)
    (pointers : List (Fin bufferCount)) : Prop where
  conserved : Conserved pool
  counted : ∀ buffer, pool.owners buffer = pointers.count buffer

section Pointers

variable {pool after : FrameBufferPool bufferSize bufferCount} {buffer : Fin bufferCount}
  {pointers others : List (Fin bufferCount)}

theorem HeldBy.perm (held : HeldBy pool pointers) (same : pointers.Perm others) :
    HeldBy pool others :=
  ⟨held.conserved, fun buffer => (held.counted buffer).trans (same.count_eq buffer)⟩

theorem HeldBy.owned (held : HeldBy pool pointers) (around : buffer ∈ pointers) :
    0 < pool.owners buffer := by
  rw [held.counted buffer]
  exact List.count_pos_iff.mpr around

theorem HeldBy.share (held : HeldBy pool pointers) (around : buffer ∈ pointers) :
    HeldBy (pool.share buffer) (buffer :: pointers) := by
  refine ⟨share_conserved held.conserved (held.owned around), fun other => ?_⟩
  by_cases same : other = buffer
  · simp only [FrameBufferPool.share, same, Function.update_self, List.count_cons_self]
    rw [held.counted buffer]
  · simp only [FrameBufferPool.share, Function.update_of_ne same]
    rw [List.count_cons_of_ne (Ne.symm same), held.counted other]

theorem HeldBy.drop (held : HeldBy pool (buffer :: pointers)) :
    HeldBy (pool.drop buffer) pointers := by
  refine ⟨drop_conserved held.conserved (held.owned List.mem_cons_self), fun other => ?_⟩
  have counted := held.counted other
  by_cases same : other = buffer
  · simp only [FrameBufferPool.drop, same, Function.update_self]
    rw [same, List.count_cons_self] at counted
    omega
  · simp only [FrameBufferPool.drop, Function.update_of_ne same]
    rw [counted, List.count_cons_of_ne (Ne.symm same)]

/-- The buffer that `acquire` hands out is nobody else's. -/
theorem HeldBy.fresh (held : HeldBy pool pointers)
    (acquired : pool.acquire = some (buffer, after)) : buffer ∉ pointers := by
  intro around
  have owned := held.owned around
  have free := owners_of_acquire held.conserved acquired
  omega

theorem HeldBy.acquire (held : HeldBy pool pointers)
    (acquired : pool.acquire = some (buffer, after)) : HeldBy after (buffer :: pointers) := by
  have fresh := held.fresh acquired
  refine ⟨acquire_conserved held.conserved acquired, fun other => ?_⟩
  obtain ⟨rest, _, rfl⟩ := acquire_cases acquired
  by_cases same : other = buffer
  · simp only [same, Function.update_self, List.count_cons_self]
    rw [List.count_eq_zero.mpr fresh]
  · simp only [Function.update_of_ne same]
    rw [List.count_cons_of_ne (Ne.symm same), held.counted other]

/-- All buffers are back in the pool exactly when no pointer is around. -/
theorem HeldBy.available_iff (held : HeldBy pool pointers) :
    pool.availableCount = pool.totalCount ↔ pointers = [] := by
  obtain ⟨nodup, free⟩ := held.conserved
  constructor
  · intro all
    have full : pool.freeBuffers.toFinset = Finset.univ := by
      apply Finset.eq_univ_of_card
      rw [List.toFinset_card_of_nodup nodup, Fintype.card_fin]
      exact all
    rw [List.eq_nil_iff_forall_not_mem]
    intro buffer around
    have owned := held.owned around
    have back : buffer ∈ pool.freeBuffers := List.mem_toFinset.mp (full ▸ Finset.mem_univ buffer)
    rw [(free buffer).mp back] at owned
    exact Nat.lt_irrefl 0 owned
  · rintro rfl
    have every : ∀ buffer, buffer ∈ pool.freeBuffers ↔ buffer ∈ List.finRange bufferCount := by
      intro buffer
      rw [free, held.counted]
      exact iff_of_true List.count_nil (List.mem_finRange buffer)
    have same := (List.perm_ext_iff_of_nodup nodup (List.nodup_finRange bufferCount)).mpr every
    exact same.length_eq.trans (List.length_finRange)

/-- A buffer is free as long as there are fewer pointers than buffers. -/
theorem HeldBy.available_of_fewer (held : HeldBy pool pointers)
    (fewer : pointers.length < bufferCount) : 0 < pool.availableCount := by
  -- a buffer that no pointer is to has no owner
  have covered : pointers.toFinset.card < (Finset.univ : Finset (Fin bufferCount)).card := by
    rw [Finset.card_fin]
    exact Nat.lt_of_le_of_lt (List.toFinset_card_le pointers) fewer
  obtain ⟨buffer, _, free⟩ := Finset.exists_mem_notMem_of_card_lt_card covered
  have unowned : pool.owners buffer = 0 := by
    rw [held.counted]
    exact List.count_eq_zero.mpr (mt List.mem_toFinset.mpr free)
  exact List.length_pos_of_mem ((held.conserved.free buffer).mpr unowned)

/-- The order of the free buffers is of no concern. -/
theorem HeldBy.reordered (held : HeldBy pool pointers) {freeBuffers : List (Fin bufferCount)}
    (same : pool.freeBuffers.Perm freeBuffers) : HeldBy { pool with freeBuffers } pointers :=
  ⟨⟨same.nodup held.conserved.nodup, fun buffer =>
    same.mem_iff.symm.trans (held.conserved.free buffer)⟩, held.counted⟩

theorem HeldBy.write (held : HeldBy pool pointers) (index : Nat) (byte : UInt8) :
    HeldBy (pool.write buffer index byte) pointers :=
  ⟨write_conserved held.conserved index byte, held.counted⟩

end Pointers

end FrameBufferPool

end PictureReconstruct
