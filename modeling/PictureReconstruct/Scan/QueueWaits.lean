import PictureReconstruct.Library.Wakeups
import PictureReconstruct.Scan.ProcessController

/-! # The threads that wait at a `ThreadSafeQueue`

`wait_and_pop` and `wait_and_pop_for` as the waiting operation of a monitor; where the time of the
latter is up, the thread tests the predicate once more before it gives up.

* `waitAndPop_settles`: no notification is lost, also not to a thread that gives up.
-/

namespace PictureReconstruct.Scan.ThreadSafeQueue

open Library.Runs Library.Monitors

variable {α : Type}

/-- A call that does not wait. -/
inductive Call (α : Type)
  | push (value : α)
  | stop

/-- What is left behind the wait. -/
def rest (queue : ThreadSafeQueue α) : ThreadSafeQueue α :=
  match queue.waitAndPop with
  | .value _ rest => rest
  | .waits | .nothing => queue

def monitor : Monitor (ThreadSafeQueue α) (Call α) where
  ready queue := !queue.queue.isEmpty || queue.stopped
  take := rest
  change
    | .push value, queue => queue.push value
    | .stop, queue => queue.stop
  signal
    | .push _, _ => .one
    | .stop, _ => .all
  inside _ := false

/-- The predicate is false exactly where the call waits. -/
theorem ready_eq_false_iff (queue : ThreadSafeQueue α) :
    monitor.ready queue = false ↔ queue.waitAndPop = .waits := by
  cases held : queue.queue with
  | nil => simp [monitor, waitAndPop, held]
  | cons value rest => simp [monitor, waitAndPop, held]

theorem monitor_signals : Signals (monitor : Monitor (ThreadSafeQueue α) (Call α))
    (fun queue => queue.queue.length) stopped where
  ready queue := by
    simp only [monitor, Bool.or_eq_true, Bool.not_eq_true', List.isEmpty_eq_false_iff,
      List.length_pos_iff, or_comm]
  take queue ready running := by
    cases held : queue.queue with
    | nil => simp [monitor, held, running] at ready
    | cons value values =>
      have taken : queue.rest = { queue with queue := values } := by
        simp only [rest, waitAndPop, held]
      simp only [monitor, taken, running, List.length_cons, Nat.le_refl, and_self]
  silent operation queue silent _ := by
    cases operation with
    | push value => cases silent
    | stop => cases silent
  one operation queue one running := by
    cases operation with
    | push value =>
      refine ⟨running, ?_⟩
      simp only [monitor, push, List.length_append, List.length_singleton, Nat.le_refl]
    | stop => cases one

/-- However many threads push, pop with or without a time limit and stop, and however they
    interleave: the calls that have begun take a bounded number of steps more, and a thread that is
    still in a pop then waits at an empty queue that is not stopped. -/
theorem waitAndPop_settles {τ : Type} [DecidableEq τ] [Fintype τ]
    (actions : List (MonitorAction τ (Call α)))
    (admits : Admits (effect monitor) Enabled actions (initial {})) :
    Settles monitor (run (effect monitor) actions (initial {})) :=
  run_settles monitor_signals {} actions admits

/-- The one that is notified finds the event taken by a third thread, and gives up. -/
theorem waitAndPop_settles_three : Settles monitor (run (effect monitor)
    [.call 0 none, .check 0, .park 0, .call 1 (some (.push 7)), .change 1, .unlock 1,
      .notify 1 (some 0), .call 2 none, .check 2, .take 2, .unlock 2, .relock 0, .check 0,
      .expire 0, .unlock 0, .notify 0 none]
    (initial {} : MonitorState (Fin 3) (ThreadSafeQueue Nat) (Call Nat))) :=
  waitAndPop_settles _
    ⟨⟨rfl, rfl⟩, rfl, rfl, ⟨rfl, rfl⟩, ⟨.push 7, rfl⟩, ⟨.one, rfl⟩, ⟨.one, .inr rfl, rfl⟩,
      ⟨rfl, rfl⟩, rfl, rfl, ⟨.none, rfl⟩, ⟨rfl, rfl⟩, rfl, rfl, ⟨.none, rfl⟩,
      ⟨.none, .inr rfl, rfl⟩, trivial⟩

end PictureReconstruct.Scan.ThreadSafeQueue
