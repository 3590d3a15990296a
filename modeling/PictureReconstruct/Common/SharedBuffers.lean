import Mathlib.Data.List.Perm.Basic
import PictureReconstruct.Common.FrameBufferPool
import PictureReconstruct.Library.Runs

/-! # The buffers of a pool among any number of threads

Threads acquire buffers and copy, move and drop the `shared_ptr`s to them.  A pointer that is
dropped takes itself off the use count; the last one runs the deleter, which pushes the buffer under
the mutex, and any number of steps of other threads may come between the two.

* `SharedBuffers.step`: one step of one thread.
* `returned`: the pool once the deleters that have begun are through; it takes the steps of
  `FrameBufferPool`.
* `pool_exclusive`: in every state, a buffer is free or has an owner, and never both.
-/

namespace PictureReconstruct

open Library.Runs

structure SharedBuffers (bufferSize bufferCount : Nat) where
  pool : FrameBufferPool bufferSize bufferCount
  /-- the `shared_ptr`s, each with the thread that has it -/
  pointers : List (Nat × Fin bufferCount) := []
  /-- the buffers in a deleter that has not pushed yet -/
  releasing : List (Fin bufferCount) := []

inductive PointerAction
  /-- `acquire` by a thread, which waits while no buffer is free -/
  | acquire (thread : Nat)
  /-- a thread gets a copy of a pointer -/
  | copy (pointer thread : Nat)
  /-- a pointer goes to a thread -/
  | move (pointer thread : Nat)
  /-- a pointer is destroyed -/
  | drop (pointer : Nat)
  /-- a deleter calls `release` -/
  | release (deleter : Nat)

namespace SharedBuffers

variable {bufferSize bufferCount : Nat}

def create (storage : Fin bufferCount → List UInt8)
    (sized : ∀ buffer, (storage buffer).length = bufferSize) :
    SharedBuffers bufferSize bufferCount where
  pool := FrameBufferPool.create storage sized

/-- The state after a step, or the same state where the step cannot be taken. -/
def step : PointerAction → SharedBuffers bufferSize bufferCount →
    SharedBuffers bufferSize bufferCount
  | .acquire thread, shared =>
    match shared.pool.acquire with
    | some (buffer, pool) => { shared with pool, pointers := (thread, buffer) :: shared.pointers }
    | none => shared
  | .copy pointer thread, shared =>
    match shared.pointers[pointer]? with
    | some (_, buffer) =>
      { shared with
        pool := shared.pool.share buffer
        pointers := (thread, buffer) :: shared.pointers }
    | none => shared
  | .move pointer thread, shared =>
    match shared.pointers[pointer]? with
    | some (_, buffer) => { shared with pointers := shared.pointers.set pointer (thread, buffer) }
    | none => shared
  | .drop pointer, shared =>
    match shared.pointers[pointer]? with
    | some (_, buffer) =>
      { pool :=
          { shared.pool with
            owners := Function.update shared.pool.owners buffer (shared.pool.owners buffer - 1) }
        pointers := shared.pointers.eraseIdx pointer
        -- the deleter runs behind the last decrement only
        releasing :=
          if shared.pool.owners buffer = 1 then shared.releasing ++ [buffer]
          else shared.releasing }
    | none => shared
  | .release deleter, shared =>
    match shared.releasing[deleter]? with
    | some buffer =>
      { shared with
        pool := { shared.pool with freeBuffers := shared.pool.freeBuffers ++ [buffer] }
        releasing := shared.releasing.eraseIdx deleter }
    | none => shared

/-- The buffers with a live owner, where a pointer lives until its destructor is through. -/
def inUse (shared : SharedBuffers bufferSize bufferCount) : Finset (Fin bufferCount) :=
  (shared.pointers.map Prod.snd ++ shared.releasing).toFinset

/-- The pool once the deleters that have begun are through. -/
def returned (shared : SharedBuffers bufferSize bufferCount) :
    FrameBufferPool bufferSize bufferCount :=
  { shared.pool with freeBuffers := shared.pool.freeBuffers ++ shared.releasing }

/-- The use counts are those of the pointers. -/
def Counted (shared : SharedBuffers bufferSize bufferCount) : Prop :=
  FrameBufferPool.HeldBy shared.returned (shared.pointers.map Prod.snd)

/-! ## Every step is one of the pool -/

section Steps

variable {shared : SharedBuffers bufferSize bufferCount}

theorem create_counted (storage : Fin bufferCount → List UInt8)
    (sized : ∀ buffer, (storage buffer).length = bufferSize) : Counted (create storage sized) := by
  have conserved := FrameBufferPool.create_conserved storage sized
  have held : FrameBufferPool.HeldBy (FrameBufferPool.create storage sized) [] :=
    ⟨conserved, fun _ => List.count_nil.symm⟩
  exact held.reordered (by simp [create])

theorem taken_perm {α : Type} {values : List α} {index : Nat} {value : α}
    (taken : values[index]? = some value) : values.Perm (value :: values.eraseIdx index) := by
  obtain ⟨bound, same⟩ := List.getElem?_eq_some_iff.mp taken
  exact same ▸ (List.getElem_cons_eraseIdx_perm bound).symm

/-- A pointer and the other ones. -/
theorem pointers_perm {pointer thread : Nat} {buffer : Fin bufferCount}
    (held : shared.pointers[pointer]? = some (thread, buffer)) :
    (shared.pointers.map Prod.snd).Perm
      (buffer :: (shared.pointers.eraseIdx pointer).map Prod.snd) :=
  (taken_perm held).map Prod.snd

theorem acquire_counted (counted : Counted shared) (thread : Nat) :
    Counted (shared.step (.acquire thread)) := by
  simp only [step]
  split
  · next buffer pool acquired =>
    obtain ⟨rest, held, rfl⟩ := FrameBufferPool.acquire_cases acquired
    have returned : shared.returned.acquire = some (buffer, { shared.returned with
        freeBuffers := rest ++ shared.releasing
        owners := Function.update shared.pool.owners buffer 1 }) := by
      simp [SharedBuffers.returned, FrameBufferPool.acquire, held]
    exact FrameBufferPool.HeldBy.acquire counted returned
  · exact counted

theorem copy_counted (counted : Counted shared) (pointer thread : Nat) :
    Counted (shared.step (.copy pointer thread)) := by
  simp only [step]
  split
  · next held =>
    have around := (pointers_perm held).mem_iff.mpr List.mem_cons_self
    exact FrameBufferPool.HeldBy.share counted around
  · exact counted

theorem move_counted (counted : Counted shared) (pointer thread : Nat) :
    Counted (shared.step (.move pointer thread)) := by
  simp only [step]
  split
  · next buffer held =>
    have moved := (List.set_perm_cons_eraseIdx (List.getElem?_eq_some_iff.mp held).1
      (thread, buffer)).map Prod.snd
    exact FrameBufferPool.HeldBy.perm counted ((pointers_perm held).trans moved.symm)
  · exact counted

theorem drop_counted (counted : Counted shared) (pointer : Nat) :
    Counted (shared.step (.drop pointer)) := by
  simp only [step]
  split
  · next thread buffer held =>
    have dropped := (FrameBufferPool.HeldBy.perm counted (pointers_perm held)).drop
    have returned : shared.returned.drop buffer =
        { shared.returned with
          owners := Function.update shared.pool.owners buffer (shared.pool.owners buffer - 1)
          freeBuffers := shared.pool.freeBuffers ++
            if shared.pool.owners buffer = 1 then shared.releasing ++ [buffer]
            else shared.releasing } := by
      by_cases last : shared.pool.owners buffer = 1
      · simp [FrameBufferPool.drop, SharedBuffers.returned, last]
      · simp [FrameBufferPool.drop, SharedBuffers.returned, last]
    rw [returned] at dropped
    exact dropped
  · exact counted

theorem release_counted (counted : Counted shared) (deleter : Nat) :
    Counted (shared.step (.release deleter)) := by
  simp only [step]
  split
  · next buffer held =>
    refine FrameBufferPool.HeldBy.reordered counted ?_
    rw [List.append_assoc]
    exact (taken_perm held).append_left shared.pool.freeBuffers
  · exact counted

theorem step_counted (action : PointerAction) (shared : SharedBuffers bufferSize bufferCount)
    (counted : Counted shared) : Counted (shared.step action) := by
  cases action with
  | acquire thread => exact acquire_counted counted thread
  | copy pointer thread => exact copy_counted counted pointer thread
  | move pointer thread => exact move_counted counted pointer thread
  | drop pointer => exact drop_counted counted pointer
  | release deleter => exact release_counted counted deleter

end Steps

/-! ## Free or in use -/

structure Exclusive (shared : SharedBuffers bufferSize bufferCount) : Prop where
  nodup : shared.pool.freeBuffers.Nodup
  disjoint : Disjoint shared.pool.freeBuffers.toFinset shared.inUse
  all : shared.pool.freeBuffers.toFinset ∪ shared.inUse = Finset.univ
  available : shared.pool.availableCount + shared.inUse.card = shared.pool.totalCount
  /-- what `acquire` hands out has no owner -/
  fresh : ∀ buffer pool, shared.pool.acquire = some (buffer, pool) → buffer ∉ shared.inUse

theorem Counted.exclusive {shared : SharedBuffers bufferSize bufferCount}
    (counted : Counted shared) : Exclusive shared := by
  obtain ⟨⟨nodup, free⟩, owners⟩ := counted
  simp only [returned] at nodup free owners
  obtain ⟨unique, _, apart⟩ := List.nodup_append.mp nodup
  have used : ∀ buffer, buffer ∈ shared.inUse ↔
      0 < shared.pool.owners buffer ∨ buffer ∈ shared.releasing := by
    intro buffer
    rw [owners, List.count_pos_iff, inUse, List.mem_toFinset, List.mem_append]
  have disjoint : Disjoint shared.pool.freeBuffers.toFinset shared.inUse := by
    rw [Finset.disjoint_left]
    intro buffer member inUse
    rw [List.mem_toFinset] at member
    cases (used buffer).mp inUse with
    | inl owned =>
      have unowned := (free buffer).mp (List.mem_append_left _ member)
      omega
    | inr releasing => exact apart buffer member buffer releasing rfl
  have all : shared.pool.freeBuffers.toFinset ∪ shared.inUse = Finset.univ := by
    rw [Finset.eq_univ_iff_forall]
    intro buffer
    rw [Finset.mem_union, List.mem_toFinset, used]
    cases Nat.eq_zero_or_pos (shared.pool.owners buffer) with
    | inl unowned =>
      exact (List.mem_append.mp ((free buffer).mpr unowned)).imp_right .inr
    | inr owned => exact .inr (.inl owned)
  refine ⟨unique, disjoint, all, ?_, ?_⟩
  · have cards := Finset.card_union_of_disjoint disjoint
    rw [all, Finset.card_fin, List.toFinset_card_of_nodup unique] at cards
    exact cards.symm
  · intro buffer pool acquired
    obtain ⟨rest, held, _⟩ := FrameBufferPool.acquire_cases acquired
    have member : buffer ∈ shared.pool.freeBuffers.toFinset := by simp [held]
    exact Finset.disjoint_left.mp disjoint member

/-- For every interleaving of any number of threads that acquire buffers and copy, move and drop
    the pointers to them, at every moment. -/
theorem pool_exclusive (storage : Fin bufferCount → List UInt8)
    (sized : ∀ buffer, (storage buffer).length = bufferSize) (actions : List PointerAction) :
    Exclusive (run step actions (create storage sized)) :=
  (run_keeps step_counted actions _ (create_counted storage sized)).exclusive

/-- One buffer is shared by two threads and on its way back while a third thread takes another. -/
theorem pool_exclusive_shared :
    Exclusive (run step
      [.acquire 0, .copy 0 1, .move 0 2, .drop 1, .drop 0, .acquire 2, .release 0, .acquire 1]
      (create (fun _ : Fin 2 => [0]) (fun _ => rfl) : SharedBuffers 1 2)) :=
  pool_exclusive (fun _ => [0]) (fun _ => rfl) _

end SharedBuffers

end PictureReconstruct
