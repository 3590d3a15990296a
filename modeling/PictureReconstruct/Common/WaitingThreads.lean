import PictureReconstruct.Common.BlockingQueue
import PictureReconstruct.Common.FrameBufferPool
import PictureReconstruct.Library.Wakeups

/-! # The threads that wait in `BlockingQueue::pop` and `FrameBufferPool::acquire`

Both classes as monitors: `push` notifies under the mutex, `stop` and `release` behind it.

* `BlockingQueue.pop_settles`, `FrameBufferPool.acquire_settles`: no notification is lost.
-/

namespace PictureReconstruct

open Library.Runs Library.Monitors

namespace BlockingQueue

variable {α : Type}

def clear (blocking : BlockingQueue α) : BlockingQueue α :=
  { blocking with queue := [], bounded := Nat.zero_le _ }

/-- A call that does not wait. -/
inductive Call (α : Type)
  | push (item : α)
  | stop
  | clear

def monitor : Monitor (BlockingQueue α) (Call α) where
  ready := ready
  take blocking := blocking.pop.2
  change
    | .push item, blocking => blocking.push item
    | .stop, blocking => blocking.stop
    | .clear, blocking => blocking.clear
  signal
    | .push _, blocking => if blocking.stopped then .none else .one
    | .stop, _ => .all
    | .clear, _ => .none
  inside
    | .push _ => true
    | .stop | .clear => false

theorem ready_iff (blocking : BlockingQueue α) :
    blocking.ready = true ↔ blocking.stopped = true ∨ 0 < blocking.queue.length := by
  simp [ready, List.length_pos_iff]

theorem push_length_le (blocking : BlockingQueue α) (item : α) :
    (blocking.push item).queue.length ≤ blocking.queue.length + 1 := by
  obtain ⟨_, _, same⟩ | ⟨_, queue, _⟩ | ⟨oldest, rest, _, held, _, queue, _⟩ :=
    push_cases blocking item
  · rw [same]
    exact Nat.le_succ _
  · rw [queue, List.length_append, List.length_singleton]
  · rw [queue, held, List.length_append, List.length_singleton, List.length_cons]
    exact Nat.le_succ _

theorem monitor_signals : Signals (monitor : Monitor (BlockingQueue α) (Call α))
    (fun blocking => blocking.queue.length) stopped where
  ready := ready_iff
  take blocking ready running := by
    obtain ⟨item, rest, held, _, queue, same⟩ | ⟨stopped, _⟩ := pop_cases ready
    · refine ⟨same.trans running, ?_⟩
      simp only [monitor, queue, held, List.length_cons, Nat.le_refl]
    · rw [running] at stopped
      cases stopped
  silent operation blocking silent running := by
    cases operation with
    | push item => simp [monitor, running] at silent
    | stop => cases silent
    | clear => exact ⟨running, Nat.zero_le _⟩
  one operation blocking _ running := by
    cases operation with
    | push item => exact ⟨(push_stopped blocking item).trans running, push_length_le blocking item⟩
    | stop => contradiction
    | clear => contradiction

/-- However many threads push, pop, stop and clear, and however they interleave: the calls that have
    begun take a bounded number of steps more, and a thread that is still in `pop` then waits at an
    empty queue that is not stopped. -/
theorem pop_settles {τ : Type} [DecidableEq τ] [Fintype τ] (maxSize : Nat) (positive : 0 < maxSize)
    (actions : List (MonitorAction τ (Call α)))
    (admits : Admits (effect monitor) Enabled actions (initial (create maxSize positive))) :
    Settles monitor (run (effect monitor) actions (initial (create maxSize positive))) :=
  run_settles monitor_signals (create maxSize positive) actions admits

/-- Two consumers wait; a push wakes one of them, and the other one is woken spuriously. -/
theorem pop_settles_two : Settles monitor (run (effect monitor)
    [.call 0 none, .check 0, .park 0, .call 1 none, .check 1, .park 1, .call 2 (some (.push 7)),
      .change 2, .notify 2 (some 1), .unlock 2, .spurious 0, .relock 0]
    (initial (create 3 (by decide)) : MonitorState (Fin 3) (BlockingQueue Nat) (Call Nat))) :=
  pop_settles 3 (by decide) _
    ⟨⟨rfl, rfl⟩, rfl, rfl, ⟨rfl, rfl⟩, rfl, rfl, ⟨rfl, rfl⟩, ⟨.push 7, rfl⟩,
      ⟨.one, .inl rfl, rfl⟩, ⟨.none, rfl⟩, rfl, ⟨rfl, rfl⟩, trivial⟩

end BlockingQueue

namespace FrameBufferPool

variable {bufferSize bufferCount : Nat}

/-- `release`, which the deleter of the last pointer calls. -/
def release (pool : FrameBufferPool bufferSize bufferCount) (buffer : Fin bufferCount) :
    FrameBufferPool bufferSize bufferCount :=
  { pool with freeBuffers := pool.freeBuffers ++ [buffer] }

def monitor : Monitor (FrameBufferPool bufferSize bufferCount) (Fin bufferCount) where
  ready pool := !pool.freeBuffers.isEmpty
  take pool := (pool.acquire.map Prod.snd).getD pool
  change buffer pool := pool.release buffer
  signal _ _ := .one
  inside _ := false

theorem monitor_signals : Signals
    (monitor : Monitor (FrameBufferPool bufferSize bufferCount) (Fin bufferCount))
    availableCount (fun _ => false) where
  ready pool := by simp [monitor, availableCount, List.length_pos_iff]
  take pool ready _ := by
    refine ⟨rfl, ?_⟩
    cases held : pool.freeBuffers with
    | nil => simp [monitor, held] at ready
    | cons buffer rest =>
      simp only [monitor, availableCount, acquire, held, Option.map_some, Option.getD_some,
        List.length_cons, Nat.le_refl]
  silent _ _ silent := nomatch silent
  one buffer pool _ _ := by
    simp only [monitor, availableCount, release, List.length_append, List.length_singleton,
      Nat.le_refl, and_self]

/-- However many threads acquire and release, and however they interleave: the calls that have begun
    take a bounded number of steps more, and a thread that is still in `acquire` then waits because
    no buffer is free. -/
theorem acquire_settles {τ : Type} [DecidableEq τ] [Fintype τ]
    (pool : FrameBufferPool bufferSize bufferCount)
    (actions : List (MonitorAction τ (Fin bufferCount)))
    (admits : Admits (effect monitor) Enabled actions (initial pool)) :
    Settles monitor (run (effect monitor) actions (initial pool)) :=
  run_settles monitor_signals pool actions admits

/-- A buffer comes back between the predicate of one thread and that of the other. -/
theorem acquire_settles_two : Settles monitor (run (effect monitor)
    [.call 0 none, .check 0, .park 0, .call 1 (some 0), .change 1, .unlock 1, .call 2 none,
      .check 2, .notify 1 (some 0), .take 2, .unlock 2]
    (initial { create (fun _ : Fin 1 => [0]) (fun _ => rfl) with freeBuffers := [] } :
      MonitorState (Fin 3) (FrameBufferPool 1 1) (Fin 1))) :=
  acquire_settles _ _
    ⟨⟨rfl, rfl⟩, rfl, rfl, ⟨rfl, rfl⟩, ⟨0, rfl⟩, ⟨.one, rfl⟩, ⟨rfl, rfl⟩, rfl,
      ⟨.one, .inr rfl, rfl⟩, rfl, ⟨.none, rfl⟩, trivial⟩

end FrameBufferPool

end PictureReconstruct
