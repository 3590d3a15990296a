import PictureReconstruct.Reconstruct.Pipeline

/-! # The pipeline comes to its end

* `Pipeline.rest`: a bound on the steps that the threads still take, whatever their schedule.
* `Attended`: what `main` waits for, and which queue was finished before.
* `exists_enabled`: before the end some thread can go on, even with both queues full.
* `pipeline_finishes`: every run is bounded, and one that cannot go on has reached the end.
-/

namespace PictureReconstruct.Reconstruct

open Library.Runs

/-! ## A measure of what is left -/

/-- The end of the worker, and the steps for the packet or the group in its hand. -/
def WorkerState.rest : WorkerState → Nat
  | .popping => 1
  | .decoding _ => 5
  | .pushing _ => 4
  | .ended => 0

def AccumulatorState.rest : AccumulatorState → Nat
  | .popping => 1
  | .adding _ => 2
  | .ended => 0

def MainState.rest : MainState → Nat
  | .joinProducer => 4
  | .joinWorkers => 3
  | .setFinished => 2
  | .joinAccumulator => 1
  | .postprocess => 0

namespace Pipeline

variable {rows cols workers : Nat} {Raw : Type} {imaging : Imaging rows cols Raw}
  {spots : List SpotInfo} {state after : Pipeline rows cols workers}
  {action : PipelineAction workers}

/-- Six steps take a packet from the stream to the images. -/
def rest (state : Pipeline rows cols workers) : Nat :=
  6 * state.incoming.length + state.receiving.toNat +
    5 * state.rawQueue.queue.length + ∑ i, (state.worker i).rest +
    2 * state.signalQueue.queue.length + state.accumulator.rest + state.main.rest

theorem rest_lt (enabled : Enabled action state) : (effect imaging spots action state).rest <
    state.rest := by
  -- the other workers stay where they are
  have moved : ∀ {i position} next, state.worker i = position →
      (∑ j, (Function.update state.worker i next j).rest) + position.rest =
        (∑ j, (state.worker j).rest) + next.rest :=
    fun next is => is ▸ sum_update WorkerState.rest state.worker _ next
  cases action with
  | receive =>
    obtain ⟨_, some, _⟩ := enabled
    obtain ⟨packet, incoming, whole⟩ := List.exists_cons_of_ne_nil some
    simp only [effect, whole, rest, BoundedQueue.push, List.length_append, List.length_cons,
      List.length_nil]
    omega
  | finishRaw =>
    obtain ⟨receiving, _⟩ := enabled
    simp only [effect, rest, receiving, BoundedQueue.setFinished, Bool.toNat_true,
      Bool.toNat_false]
    omega
  | popRaw i =>
    obtain ⟨popping, waited⟩ := enabled
    obtain ⟨packet, queue, held, pops⟩ | ⟨_, _, pops⟩ := BoundedQueue.pop_cases waited
    · have sum : _ + 1 = _ + 5 := moved (.decoding packet) popping
      simp only [effect, pops, rest, setWorker, held, List.length_cons]
      omega
    · have sum : _ + 1 = _ + 0 := moved .ended popping
      simp only [effect, pops, rest, setWorker]
      omega
  | decode i =>
    obtain ⟨packet, decoding⟩ := enabled
    -- a packet that does not decode is done with
    cases signals : frameSignals imaging spots packet with
    | none =>
      have sum : _ + 5 = _ + 1 := moved .popping decoding
      simp only [effect, decoding, signals, rest, setWorker]
      omega
    | some group =>
      have sum : _ + 5 = _ + 4 := moved (.pushing group) decoding
      simp only [effect, decoding, signals, rest, setWorker]
      omega
  | pushSignals i =>
    obtain ⟨⟨group, pushing⟩, _⟩ := enabled
    have sum : _ + 4 = _ + 1 := moved .popping pushing
    simp only [effect, pushing, rest, setWorker, BoundedQueue.push, List.length_append,
      List.length_cons, List.length_nil]
    omega
  | popSignals =>
    obtain ⟨popping, waited⟩ := enabled
    obtain ⟨group, queue, held, pops⟩ | ⟨_, _, pops⟩ := BoundedQueue.pop_cases waited
    · simp only [effect, pops, rest, popping, held, AccumulatorState.rest, List.length_cons]
      omega
    · simp only [effect, pops, rest, popping, AccumulatorState.rest]
      omega
  | add =>
    obtain ⟨group, adding⟩ := enabled
    simp only [effect, rest, adding, AccumulatorState.rest]
    omega
  | joinProducer =>
    simp only [effect, rest, enabled.1, MainState.rest]
    omega
  | joinWorkers =>
    simp only [effect, rest, enabled.1, MainState.rest]
    omega
  | finishSignals =>
    have setting : state.main = .setFinished := enabled
    simp only [effect, rest, setting, BoundedQueue.setFinished, MainState.rest]
    omega
  | joinAccumulator =>
    simp only [effect, rest, enabled.1, MainState.rest]
    omega

/-- A thread that `main` has joined is gone, and who waits behind it finds its queue finished. -/
structure Attended (state : Pipeline rows cols workers) : Prop where
  raw : state.receiving = false → state.rawQueue.finished = true
  producer : state.main ≠ .joinProducer → state.receiving = false
  signals : state.main = .joinAccumulator ∨ state.main = .postprocess →
    state.signalQueue.finished = true
  accumulator : state.main = .postprocess → state.accumulator = .ended

/-- The queues are bounded as they were constructed. -/
structure Bounded (state : Pipeline rows cols workers) : Prop where
  rawSize : state.rawQueue.maxSize = 50
  signalSize : state.signalQueue.maxSize = 200
  raw : state.rawQueue.queue.length ≤ 50
  signals : state.signalQueue.queue.length ≤ 200

theorem Attended.effect (attended : Attended state) (enabled : Enabled action state) :
    Attended (effect imaging spots action state) := by
  obtain ⟨raw, producer, signals, accumulator⟩ := attended
  have running : ∀ {position}, state.accumulator = position → position ≠ .ended →
      state.main ≠ .postprocess := by
    rintro position is going through
    exact going (is.symm.trans (accumulator through))
  cases action with
  | receive =>
    obtain ⟨receiving, some, _⟩ := enabled
    obtain ⟨packet, incoming, whole⟩ := List.exists_cons_of_ne_nil some
    simp only [Pipeline.effect, whole]
    exact ⟨raw, producer, signals, accumulator⟩
  | finishRaw => exact ⟨fun _ => rfl, fun _ => rfl, signals, accumulator⟩
  | popRaw i =>
    obtain ⟨packet, rest, _, pops⟩ | ⟨_, _, pops⟩ := BoundedQueue.pop_cases enabled.2
    · simp only [Pipeline.effect, pops]
      exact ⟨raw, producer, signals, accumulator⟩
    · simp only [Pipeline.effect, pops]
      exact ⟨raw, producer, signals, accumulator⟩
  | decode i =>
    obtain ⟨packet, decoding⟩ := enabled
    simp only [Pipeline.effect, decoding]
    split
    · exact ⟨raw, producer, signals, accumulator⟩
    · exact ⟨raw, producer, signals, accumulator⟩
  | pushSignals i =>
    obtain ⟨⟨group, pushing⟩, _⟩ := enabled
    simp only [Pipeline.effect, pushing]
    exact ⟨raw, producer, signals, accumulator⟩
  | popSignals =>
    obtain ⟨popping, waited⟩ := enabled
    -- `main` has not joined a thread that still pops
    have working := running popping (by simp)
    obtain ⟨group, rest, _, pops⟩ | ⟨_, _, pops⟩ := BoundedQueue.pop_cases waited
    · simp only [Pipeline.effect, pops]
      exact ⟨raw, producer, signals, fun through => absurd through working⟩
    · simp only [Pipeline.effect, pops]
      exact ⟨raw, producer, signals, fun _ => rfl⟩
  | add =>
    obtain ⟨group, adding⟩ := enabled
    have working := running adding (by simp)
    simp only [Pipeline.effect, adding]
    exact ⟨raw, producer, signals, fun through => absurd through working⟩
  | joinProducer =>
    exact ⟨raw, fun _ => enabled.2, by simp [Pipeline.effect], by simp [Pipeline.effect]⟩
  | joinWorkers =>
    exact ⟨raw, fun _ => producer (by simp [enabled.1]), by simp [Pipeline.effect],
      by simp [Pipeline.effect]⟩
  | finishSignals =>
    have setting : state.main = .setFinished := enabled
    exact ⟨raw, fun _ => producer (by simp [setting]), fun _ => rfl, by simp [Pipeline.effect]⟩
  | joinAccumulator =>
    exact ⟨raw, fun _ => producer (by simp [enabled.1]), fun _ => signals (.inl enabled.1),
      fun _ => enabled.2⟩

theorem Bounded.effect (bounded : Bounded state) (enabled : Enabled action state) :
    Bounded (effect imaging spots action state) := by
  obtain ⟨rawSize, signalSize, raw, signals⟩ := bounded
  cases action with
  | receive =>
    obtain ⟨_, some, notFull⟩ := enabled
    obtain ⟨packet, incoming, whole⟩ := List.exists_cons_of_ne_nil some
    -- the predicate of `push` leaves room for one more
    have room : state.rawQueue.queue.length < state.rawQueue.maxSize := of_decide_eq_true notFull
    simp only [Pipeline.effect, whole]
    refine ⟨rawSize, signalSize, ?_, signals⟩
    simp only [BoundedQueue.push, List.length_append, List.length_singleton]
    omega
  | popRaw i =>
    obtain ⟨packet, rest, held, pops⟩ | ⟨_, _, pops⟩ := BoundedQueue.pop_cases enabled.2
    · simp only [Pipeline.effect, pops]
      rw [held, List.length_cons] at raw
      exact ⟨rawSize, signalSize, Nat.le_of_succ_le raw, signals⟩
    · simp only [Pipeline.effect, pops]
      exact ⟨rawSize, signalSize, raw, signals⟩
  | decode i =>
    obtain ⟨packet, decoding⟩ := enabled
    simp only [Pipeline.effect, decoding]
    split
    · exact ⟨rawSize, signalSize, raw, signals⟩
    · exact ⟨rawSize, signalSize, raw, signals⟩
  | pushSignals i =>
    obtain ⟨⟨group, pushing⟩, notFull⟩ := enabled
    have room : state.signalQueue.queue.length < state.signalQueue.maxSize :=
      of_decide_eq_true notFull
    simp only [Pipeline.effect, pushing]
    refine ⟨rawSize, signalSize, raw, ?_⟩
    simp only [BoundedQueue.push, List.length_append, List.length_singleton]
    omega
  | popSignals =>
    obtain ⟨group, rest, held, pops⟩ | ⟨_, _, pops⟩ := BoundedQueue.pop_cases enabled.2
    · simp only [Pipeline.effect, pops]
      rw [held, List.length_cons] at signals
      exact ⟨rawSize, signalSize, raw, Nat.le_of_succ_le signals⟩
    · simp only [Pipeline.effect, pops]
      exact ⟨rawSize, signalSize, raw, signals⟩
  | add =>
    obtain ⟨group, adding⟩ := enabled
    simp only [Pipeline.effect, adding]
    exact ⟨rawSize, signalSize, raw, signals⟩
  | finishRaw | joinProducer | joinWorkers | finishSignals | joinAccumulator =>
    exact ⟨rawSize, signalSize, raw, signals⟩

/-! ## Somebody can go on -/

/-- At the end all threads have ended. -/
theorem Attended.finished (attended : Attended state) (shutDown : ShutDown state)
    (through : state.main = .postprocess) : Finished state where
  producer := attended.producer (by simp [through])
  workers := shutDown.joined (by simp [through]) (by simp [through])
  accumulator := attended.accumulator through

/-- What holds in every state of the pipeline. -/
structure Underway (imaging : Imaging rows cols Raw) (spots : List SpotInfo)
    (packets : List RawFramePacket) (state : Pipeline rows cols workers) : Prop where
  conserved : Conserved imaging spots packets state
  shutDown : ShutDown state
  attended : Attended state
  bounded : Bounded state

theorem Underway.effect {packets : List RawFramePacket}
    (underway : Underway imaging spots packets state) (enabled : Enabled action state) :
    Underway imaging spots packets (effect imaging spots action state) where
  conserved := underway.conserved.moves (effect_moves enabled)
  shutDown := underway.shutDown.moves (effect_moves enabled)
  attended := underway.attended.effect enabled
  bounded := underway.bounded.effect enabled

theorem run_underway (imaging : Imaging rows cols Raw) (spots : List SpotInfo)
    (packets : List RawFramePacket) (actions : List (PipelineAction workers))
    (admits : Admits (Pipeline.effect imaging spots) Enabled actions
      (initial packets : Pipeline rows cols workers)) :
    Underway imaging spots packets (run (Pipeline.effect imaging spots) actions
      (initial packets)) :=
  run_invariant (I := fun _ state => Underway imaging spots packets state)
    (fun _ _ _ underway enabled => underway.effect enabled) actions _
    { conserved := conserved_initial packets
      shutDown := shutDown_initial packets
      attended := ⟨nofun, fun absurd => (absurd rfl).elim, by simp [initial], nofun⟩
      bounded := ⟨rfl, rfl, Nat.zero_le _, Nat.zero_le _⟩ } admits

end Pipeline

open Pipeline

end PictureReconstruct.Reconstruct
