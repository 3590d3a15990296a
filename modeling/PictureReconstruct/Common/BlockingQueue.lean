import Mathlib.Data.List.Basic

/-! # `BlockingQueue`

A bounded queue that drops its oldest element for a newer one.  Each operation runs under the mutex
as a whole; `pop` waits until `ready`.

* `push_cases`, `pop_cases`: what the two operations can do.
-/

namespace PictureReconstruct

/-- A `BlockingQueue`, never longer than its bound. -/
structure BlockingQueue (α : Type) where
  queue : List α
  maxSize : Nat
  stopped : Bool
  positive : 0 < maxSize
  bounded : queue.length ≤ maxSize

namespace BlockingQueue

variable {α : Type}

def create (maxSize : Nat) (positive : 0 < maxSize) : BlockingQueue α where
  queue := []
  maxSize := maxSize
  stopped := false
  positive := positive
  bounded := Nat.zero_le maxSize

/-- The element that a push drops. -/
def dropped (blocking : BlockingQueue α) : Option α :=
  if blocking.stopped then none
  else if blocking.maxSize ≤ blocking.queue.length then blocking.queue.head?
  else none

def push (blocking : BlockingQueue α) (item : α) : BlockingQueue α :=
  if blocking.stopped then blocking
  else if full : blocking.maxSize ≤ blocking.queue.length then
    { blocking with
      queue := blocking.queue.tail ++ [item]
      bounded := by
        have positive := blocking.positive
        have bounded := blocking.bounded
        simp only [List.length_append, List.length_tail, List.length_singleton]
        omega }
  else
    { blocking with
      queue := blocking.queue ++ [item]
      bounded := by
        simp only [List.length_append, List.length_singleton]
        omega }

/-- What `pop` waits for. -/
def ready (blocking : BlockingQueue α) : Bool := blocking.stopped || !blocking.queue.isEmpty

/-- `pop` behind its wait: the element, or nothing for `false`. -/
def pop (blocking : BlockingQueue α) : Option α × BlockingQueue α :=
  if blocking.stopped && blocking.queue.isEmpty then (none, blocking)
  else
    (blocking.queue.head?,
      { blocking with
        queue := blocking.queue.tail
        bounded := by
          have bounded := blocking.bounded
          rw [List.length_tail]
          omega })

def stop (blocking : BlockingQueue α) : BlockingQueue α := { blocking with stopped := true }

/-! ## What the operations can do -/

@[simp] theorem push_maxSize (blocking : BlockingQueue α) (item : α) :
    (blocking.push item).maxSize = blocking.maxSize := by
  unfold push
  split
  · rfl
  · split <;> rfl

@[simp] theorem pop_maxSize (blocking : BlockingQueue α) :
    blocking.pop.2.maxSize = blocking.maxSize := by
  unfold pop
  split <;> rfl

theorem push_stopped (blocking : BlockingQueue α) (item : α) :
    (blocking.push item).stopped = blocking.stopped := by
  unfold push
  split
  · rfl
  · split <;> rfl

theorem pop_stopped (blocking : BlockingQueue α) :
    blocking.pop.2.stopped = blocking.stopped := by
  unfold pop
  split <;> rfl

@[simp] theorem stop_maxSize (blocking : BlockingQueue α) :
    blocking.stop.maxSize = blocking.maxSize := rfl

theorem push_cases (blocking : BlockingQueue α) (item : α) :
    (blocking.stopped = true ∧ blocking.dropped = none ∧ blocking.push item = blocking) ∨
    (blocking.dropped = none ∧ (blocking.push item).queue = blocking.queue ++ [item] ∧
      (blocking.push item).stopped = blocking.stopped) ∨
    ∃ oldest rest, blocking.queue.length = blocking.maxSize ∧
      blocking.queue = oldest :: rest ∧ blocking.dropped = some oldest ∧
      (blocking.push item).queue = rest ++ [item] ∧
      (blocking.push item).stopped = blocking.stopped := by
  by_cases stopped : blocking.stopped = true
  · exact .inl ⟨stopped, by simp [dropped, stopped], by simp [push, stopped]⟩
  · by_cases full : blocking.maxSize ≤ blocking.queue.length
    · -- a full queue holds an element, since its bound is positive
      have nonempty : blocking.queue ≠ [] :=
        List.ne_nil_of_length_pos (Nat.lt_of_lt_of_le blocking.positive full)
      obtain ⟨oldest, rest, held⟩ := List.exists_cons_of_ne_nil nonempty
      have exact : blocking.queue.length = blocking.maxSize :=
        Nat.le_antisymm blocking.bounded full
      refine .inr (.inr ⟨oldest, rest, exact, held, ?_, ?_, by simp [push, stopped, full]⟩)
      · rw [dropped, if_neg stopped, if_pos full, held]
        rfl
      · have tail : blocking.queue.tail = rest := by rw [held, List.tail_cons]
        simp only [push, if_neg stopped, dif_pos full, tail]
    · exact .inr (.inl ⟨by simp [dropped, stopped, full], by simp [push, stopped, full],
        by simp [push, stopped, full]⟩)

theorem pop_cases {blocking : BlockingQueue α} (ready : blocking.ready = true) :
    (∃ item rest, blocking.queue = item :: rest ∧ blocking.pop.1 = some item ∧
      blocking.pop.2.queue = rest ∧ blocking.pop.2.stopped = blocking.stopped) ∨
    (blocking.stopped = true ∧ blocking.queue = [] ∧ blocking.pop = (none, blocking)) := by
  cases held : blocking.queue with
  | nil =>
    have stopped : blocking.stopped = true := by simpa [BlockingQueue.ready, held] using ready
    exact .inr ⟨stopped, rfl, by simp [pop, held, stopped]⟩
  | cons item rest =>
    exact .inl ⟨item, rest, rfl, by simp [pop, held], by simp [pop, held], by simp [pop, held]⟩

end BlockingQueue

end PictureReconstruct
