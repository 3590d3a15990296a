import PictureReconstruct.Reconstruct.BoundedQueue

/-! # `setFinished` can miss a consumer

`setFinished` does not take the mutex.  A consumer that has found its predicate false and has not
parked yet is not reached by `notify_all`; it parks afterwards, and nothing wakes it.

* `Stranded`: the state from which `join` does not return.
* `Reaches`: `notify_all` runs while no consumer is on its way to parking.
* `no_consumer_stranded`: a run in which it does strands no consumer.
* `notifyAll_strands`: when all is pushed, `notify_all` at any other moment strands one.
-/

namespace PictureReconstruct.Reconstruct

open Library.Runs QueueState

variable {c p : Nat} {α : Type}

/-- `setFinished` has returned, the queue is empty and stays so, and a consumer is parked. -/
structure Stranded (state : QueueState c p α) : Prop where
  returned : state.finisher = .returned
  nothing : state.object.queue = []
  /-- no push is in progress or to come -/
  pushed : ∀ j, state.position (.producer j) = .outside ∧ state.toPush j = []
  parked : ∃ i, state.position (.consumer i) = .parked

/-- No consumer is between its predicate and its parking when `notify_all` runs. -/
def Reaches (action : QueueAction c p) (state : QueueState c p α) : Prop :=
  action = .notifyAll → ∀ i, state.position (.consumer i) ≠ .refused

/-- Behind `setFinished`, no consumer is parked or on its way there. -/
structure Awake (state : QueueState c p α) : Prop where
  stored : state.finisher ≠ .before → state.object.finished = true
  awake : state.finisher = .returned → ∀ i, state.position (.consumer i) ≠ .refused ∧
    state.position (.consumer i) ≠ .parked

instance (action : QueueAction c p) (state : QueueState c p α) :
    Decidable (Reaches action state) :=
  inferInstanceAs (Decidable (_ → _))

section Steps

variable {state after : QueueState c p α} {action : QueueAction c p} {thread : Thread c p}
  {next : Position}

theorem Awake.moves (awake : Awake state)
    (moves : after.position = Function.update state.position thread next)
    (finisher : after.finisher = state.finisher)
    (finished : after.object.finished = state.object.finished)
    (stays : state.finisher = .returned → ∀ i, thread = .consumer i →
      next ≠ .refused ∧ next ≠ .parked) : Awake after where
  stored begun := finished ▸ awake.stored (finisher ▸ begun)
  awake returned i := by
    rw [finisher] at returned
    rw [moves]
    by_cases this : .consumer i = thread
    · rw [this, Function.update_self]
      exact stays returned i this.symm
    · rw [Function.update_of_ne this]
      exact awake.awake returned i

/-- A consumer that evaluates its predicate behind `setFinished` does not park. -/
theorem effect_awake (enabled : Enabled action state) (reaches : Reaches action state)
    (consistent : Consistent state) (awake : Awake state) : Awake (effect action state) := by
  cases action with
  | lock thread => exact awake.moves rfl rfl rfl fun _ _ _ => by simp
  | check thread =>
    refine awake.moves rfl rfl rfl fun returned i this => ?_
    have finished : state.object.finished = true := awake.stored (by simp [returned])
    subst this
    simp [QueueState.predicate, BoundedQueue.notEmptyOrFinished, finished]
  | park thread =>
    refine awake.moves rfl rfl rfl fun returned i this => ?_
    subst this
    exact absurd enabled (awake.awake returned i).1
  | move thread =>
    cases thread with
    | consumer i =>
      obtain ⟨item, rest, _, same⟩ | ⟨_, _, same⟩ := moveItem_consumer consistent enabled
      · rw [effect, same]
        exact awake.moves rfl rfl rfl fun _ _ _ => by simp
      · rw [effect, same]
        exact awake.moves rfl rfl rfl fun _ _ _ => by simp
    | producer j =>
      obtain ⟨_, item, items, _, same⟩ := moveItem_producer consistent enabled
      rw [effect, same]
      exact awake.moves rfl rfl rfl fun _ _ this => by cases this
  | unlock thread =>
    refine awake.moves rfl rfl rfl fun _ _ _ => ?_
    split
    · simp
    · simp
  | notify thread woken =>
    have back : Awake (state.setPosition thread .outside) :=
      awake.moves rfl rfl rfl fun _ _ _ => by simp
    cases woken with
    | none => exact back
    | some other => exact back.moves rfl rfl rfl fun _ _ _ => by simp
  | store => exact ⟨fun _ => rfl, fun absurd => Finisher.noConfusion absurd⟩
  | notifyAll =>
    have stored : state.finisher = .stored := enabled
    refine ⟨fun _ => awake.stored (by simp [stored]), fun _ i => ?_⟩
    have awaited := reaches rfl i
    simp only [effect, wake]
    by_cases parked : state.position (.consumer i) = .parked
    · rw [if_pos parked]
      simp
    · rw [if_neg parked]
      exact ⟨awaited, parked⟩

/-- When nothing is left to be pushed, the condition cannot be dropped: a consumer that
    `notify_all` misses parks next, and no thread will wake it. -/
theorem notifyAll_strands (consistent : Consistent state)
    (pushed : ∀ j, state.position (.producer j) = .outside ∧ state.toPush j = []) {i : Fin c}
    (missed : state.position (.consumer i) = .refused) :
    Enabled (.park (.consumer i)) (effect .notifyAll state) ∧
      Stranded (effect (.park (.consumer i)) (effect .notifyAll state)) := by
  have next : (effect .notifyAll state).position (.consumer i) = .refused := by
    simp only [effect, missed, wake]
    rfl
  refine ⟨next, rfl, consistent.refused i missed, fun j => ?_, i, ?_⟩
  · simp only [effect, setPosition_position, setPosition_toPush]
    have other : Thread.producer j ≠ .consumer i := by simp
    rw [Function.update_of_ne other]
    exact pushed j
  · simp only [effect, setPosition_position, Function.update_self]

end Steps

/-- In every run of any number of consumers and producers in which `notify_all` reaches every
    consumer that would park, no consumer is stranded. -/
theorem no_consumer_stranded (maxSize : Nat) (items : Fin p → List α)
    (actions : List (QueueAction c p))
    (admits : Admits effect (fun action state => Enabled action state ∧ Reaches action state)
      actions (initial maxSize items)) :
    ¬ Stranded (run effect actions (initial maxSize items)) := by
  have start : Awake (initial maxSize items : QueueState c p α) :=
    ⟨fun begun => absurd rfl begun, fun absurd => Finisher.noConfusion absurd⟩
  obtain ⟨_, awake⟩ : Consistent (run effect actions (initial maxSize items)) ∧
      Awake (run effect actions (initial maxSize items)) :=
    run_invariant (I := fun _ state => Consistent state ∧ Awake state)
      (fun _ _ _ safe admitted => ⟨effect_consistent admitted.1 safe.1,
        effect_awake admitted.1 admitted.2 safe.1 safe.2⟩) actions _
      ⟨.initial maxSize items, start⟩ admits
  intro stranded
  obtain ⟨i, parked⟩ := stranded.parked
  exact (awake.awake stranded.returned i).2 parked

/-- A consumer that has parked when `notify_all` runs wakes up and leaves. -/
theorem no_consumer_stranded_parked :
    ¬ Stranded (run effect
      [.lock (.consumer 0), .check (.consumer 0), .park (.consumer 0), .store, .notifyAll,
        .lock (.consumer 0), .check (.consumer 0), .move (.consumer 0), .unlock (.consumer 0)]
      (initial 50 fun _ => [] : QueueState 1 1 Nat)) :=
  no_consumer_stranded 50 _ _ (by decide)

/-- The stream ends before its first packet, while the worker is about to park. -/
theorem worker_stranded :
    Admits effect Enabled
        [.lock (.consumer 0), .check (.consumer 0), .store, .notifyAll, .park (.consumer 0)]
        (initial 50 fun _ => [] : QueueState 1 1 Nat) ∧
      Stranded (run effect
        [.lock (.consumer 0), .check (.consumer 0), .store, .notifyAll, .park (.consumer 0)]
        (initial 50 fun _ => [] : QueueState 1 1 Nat)) :=
  ⟨by decide, by decide, by decide, by decide, 0, by decide⟩

end PictureReconstruct.Reconstruct
