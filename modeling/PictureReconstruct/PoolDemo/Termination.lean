import PictureReconstruct.PoolDemo.FrameDemo

/-! # The end of the pool demo

`consumer` keeps the buffer of the frame before while it waits in `pop`.

* `deadlock_iff`: the demo can come to a standstill exactly when there is no buffer, or one that a
  frame fits into.
* `rest`: a bound on the steps that are left once `running` is false.
* `finishes`: what `main` finds in the end.
-/

namespace PictureReconstruct.PoolDemo

open Library.Runs Library.Text

variable {blockSize blockCount : Nat}

namespace Demo

/-- No thread takes a step, and `main` is not through. -/
def Stuck (demo : Demo blockSize blockCount) : Prop :=
  (∀ actor, step actor demo = none) ∧ demo.main ≠ .ended

/-- A frame has at least seven bytes. -/
theorem fakeFrame_length (n : Nat) : 7 ≤ (fakeFrame n).length := by
  have digits := List.length_pos_of_ne_nil (decimal_ne_nil n)
  have name : "frame_".toList.length = 6 := by decide
  have parts : (fakeFrame n).length = "frame_".toList.length + (decimal n).length := by
    rw [fakeFrame, bytes, List.length_map, List.length_append]
  omega

section Waiting

variable {demo : Demo blockSize blockCount}

/-- Where `consumer` waits. -/
theorem consumer_waits (waits : demo.consumerStep = none) : demo.consumer = .ended ∨
    ∃ buf, demo.consumer = .popping buf ∧ demo.queue.queue = [] ∧ demo.queue.stop = false := by
  unfold consumerStep at waits
  split at waits
  · next buf position =>
    split at waits
    · next nothing =>
      split at waits
      · cases waits
      · next running => exact .inr ⟨buf, position, nothing, Bool.eq_false_iff.mpr running⟩
    · split at waits <;> cases waits
  · cases waits
  · cases waits
  · cases waits
  · cases waits
  · next position => exact .inl position

/-- While `consumer` is under the mutex of the queue, it does not wait. -/
theorem not_locked (waits : demo.consumerStep = none) : demo.locked = false := by
  obtain ended | ⟨buf, popping, _⟩ := consumer_waits waits
  · simp only [locked, ended]
  · simp only [locked, popping]

/-- Where `producer` waits, with the mutex of the queue free. -/
theorem producer_waits (waits : demo.producerStep = none) (unlocked : demo.locked = false) :
    demo.producer = .ended ∨ (demo.producer = .acquiring ∧ demo.pool.freeList = []) := by
  unfold producerStep at waits
  split at waits
  · cases waits
  · next position =>
    split at waits
    · split at waits <;> cases waits
    · next unready =>
      refine .inr ⟨position, ?_⟩
      have neither : demo.pool.stop = false ∧ demo.pool.freeList = [] := by
        simpa [MemoryPool.ready] using unready
      exact neither.2
  · simp only at waits
    split at waits <;> cases waits
  · rw [unlocked, if_neg Bool.false_ne_true] at waits
    cases waits
  · cases waits
  · next position => exact .inl position

/-- What a standstill looks like. -/
theorem Stuck.shape (sound : Sound demo) (stuck : Stuck demo) :
    blockCount = 0 ∨ (blockCount = 1 ∧ 7 ≤ blockSize) := by
  obtain ⟨still, unfinished⟩ := stuck
  have unlocked := not_locked (still .consumer)
  have main : demo.mainStep = none := still .main
  cases stage : demo.main with
  | sleeping | stoppingPool =>
    rw [mainStep, stage] at main
    cases main
  | ended => exact absurd stage unfinished
  | stoppingQueue =>
    rw [mainStep, stage] at main
    simp only [unlocked, Bool.false_eq_true, if_false, reduceCtorEq] at main
  | joiningConsumer =>
    obtain ended | ⟨buf, _, _, running⟩ := consumer_waits (still .consumer)
    · rw [mainStep, stage] at main
      simp only [ended, reduceCtorEq] at main
    · rw [sound.staged.queueStop, stage] at running
      cases running
  | joiningProducer =>
    obtain ended | ⟨acquiring, empty⟩ := producer_waits (still .producer) unlocked
    · rw [mainStep, stage] at main
      simp only [ended, reduceCtorEq] at main
    · obtain ended | ⟨buf, popping, nothing, _⟩ := consumer_waits (still .consumer)
      · have late := (sound.staged.drained (.inl ended)).1
        rw [stage] at late
        exact absurd late (by decide)
      · -- all buffers are with `consumer`
        have all := sound.placed.places.length_eq
        simp only [places, empty, acquiring, nothing, popping, Producer.held, Consumer.held,
          List.nil_append, List.length_finRange] at all
        cases buf with
        | none => exact .inl all.symm
        | some buffer =>
          refine .inr ⟨all.symm, ?_⟩
          obtain ⟨line, rest, sent⟩ :=
            List.exists_cons_of_ne_nil (sound.ordered.kept buffer popping)
          have first : line.payload ∈ fitting blockSize demo.frameNo := by
            rw [← sound.ordered.frames, sent]
            exact List.mem_append_left _ List.mem_cons_self
          rw [fitting, List.mem_filter, List.mem_map] at first
          obtain ⟨⟨n, _, same⟩, fits⟩ := first
          have long := fakeFrame_length n
          rw [same] at long
          exact Nat.le_trans long (of_decide_eq_true fits)

end Waiting

/-- Without a buffer, `producer` waits for one from the start. -/
theorem stuck_of_none (data : Fin 0 → List UInt8)
    (sized : ∀ buffer, (data buffer).length = blockSize) :
    Stuck (run next [.producer, .main] (start data sized)) := by
  refine ⟨fun actor => ?_, nofun⟩
  cases actor <;> rfl

/-- With one, `producer` waits for the buffer that `consumer` keeps. -/
theorem stuck_of_one (data : Fin 1 → List UInt8)
    (sized : ∀ buffer, (data buffer).length = blockSize) (fits : 7 ≤ blockSize) :
    Stuck (run next [.producer, .producer, .producer, .producer, .producer, .consumer, .consumer,
      .main] (start data sized)) := by
  have first : (fakeFrame 0).length ≤ blockSize := by
    have seven : (fakeFrame 0).length = 7 := by decide
    rw [seven]
    exact fits
  have all : List.finRange 1 = [0] := rfl
  refine ⟨fun actor => ?_, ?_⟩
  · cases actor <;>
      simp [run, next, step, start, all, producerStep, consumerStep, mainStep, locked, first,
        MemoryPool.ready, MemoryPool.acquire, MemoryPool.handOut, MemoryPool.updateHighWaterMark,
        MemoryPool.fill]
  · simp [run, next, step, start, all, producerStep, consumerStep, mainStep, locked, first,
      MemoryPool.ready, MemoryPool.acquire, MemoryPool.handOut, MemoryPool.updateHighWaterMark,
      MemoryPool.fill]

/-- Some interleaving brings the demo to a standstill exactly when there is no buffer, or a single
    one and a frame fits into it. -/
theorem deadlock_iff (data : Fin blockCount → List UInt8)
    (sized : ∀ buffer, (data buffer).length = blockSize) :
    (∃ actors, Stuck (run next actors (start data sized))) ↔
      blockCount = 0 ∨ (blockCount = 1 ∧ 7 ≤ blockSize) := by
  constructor
  · rintro ⟨actors, stuck⟩
    exact stuck.shape (run_sound data sized actors)
  · rintro (rfl | ⟨rfl, fits⟩)
    · exact ⟨_, stuck_of_none data sized⟩
    · exact ⟨_, stuck_of_one data sized fits⟩

/-- A single buffer of a megabyte is too few. -/
theorem deadlock_iff_one :
    (∃ actors, Stuck (run next actors
      (start (fun _ : Fin 1 => List.replicate (1024 * 1024) 0) fun _ => List.length_replicate))) ↔
      1 = 0 ∨ (1 = 1 ∧ 7 ≤ 1024 * 1024) :=
  deadlock_iff (fun _ => List.replicate (1024 * 1024) 0) fun _ => List.length_replicate

/-! ## Once `running` is false -/

end Demo

/-- A bound on the steps of `producer`, with those that `consumer` takes for a frame it pushes. -/
def Producer.rest : Producer blockCount → Nat
  | .ended => 0
  | .loop => 1
  | .discarding _ => 2
  | .pushing _ => 5
  | .filling _ => 6
  | .acquiring => 7

def Consumer.rest : Consumer blockCount → Nat
  | .ended => 0
  | .leaving _ => 1
  | .popping _ => 2
  | .sending _ => 3
  | .assigning _ _ => 4

namespace Demo

/-- A bound on the steps that are left. -/
def rest (demo : Demo blockSize blockCount) : Nat :=
  demo.producer.rest + demo.consumer.rest + 3 * demo.queue.queue.length + (5 - demo.main.rank)

/-- What `main` finds in the end. -/
structure Finished (demo : Demo blockSize blockCount) : Prop where
  ended : demo.main = .ended
  sent : demo.sent.map Sent.payload = fitting blockSize demo.frameNo
  inUse : demo.pool.inUseCount = 0
  mark : demo.pool.highWaterMark ≤ blockCount
  fails : demo.pool.acquireFailCount = 0

section Ends

variable {demo after : Demo blockSize blockCount}

theorem Moves.rest_lt (moves : Moves demo after) (stopped : demo.running = false) :
    after.rest < demo.rest ∧ after.running = false := by
  cases moves with
  | checks position => simp [rest, position, stopped, Producer.rest]
  | @acquires buffer rest position held =>
    simp [Demo.rest, position, stopped, Producer.rest]
  | pushes position =>
    simp only [rest, position, stopped, Producer.rest, List.length_append, List.length_singleton,
      and_true]
    omega
  | takesFirst position held | takes position held =>
    simp only [rest, position, stopped, held, Consumer.rest, List.length_cons, and_true]
    omega
  | breaks position | fills position | skips position | discards position =>
    simp [rest, position, stopped, Producer.rest]
  | assigns position | sends position | leaves position | returns position
  | returnsEmpty position =>
    simp [rest, position, stopped, Consumer.rest]
  | wakes position | joinsProducer position | stopsQueue position | joinsConsumer position
  | stopsPool position =>
    simp only [rest, position, stopped, Main.rank, and_true]
    omega

theorem steps_length_le (more : List Actor) (demo : Demo blockSize blockCount)
    (stopped : demo.running = false)
    (steps : Admits next (fun actor demo => (step actor demo).isSome) more demo) :
    more.length ≤ demo.rest :=
  attempts_length_le (I := fun demo => demo.running = false)
    (fun _ _ _ stopped stepped => ((step_moves stepped).rest_lt stopped).symm) more demo stopped
    steps

theorem rest_le (sound : Sound demo) (stopped : demo.running = false) :
    demo.rest ≤ 3 * blockCount + 15 := by
  have all := sound.placed.places.length_eq
  simp only [places, List.length_append, List.length_finRange] at all
  have awake : demo.main.rank ≠ 0 := by
    rw [sound.staged.running, decide_eq_false_iff_not] at stopped
    exact stopped
  have producer : demo.producer.rest ≤ 7 := by
    cases demo.producer <;> simp [Producer.rest]
  have consumer : demo.consumer.rest ≤ 4 := by
    cases demo.consumer <;> simp [Consumer.rest]
  simp only [rest]
  omega

/-- Where `main` is through, nothing is on its way. -/
theorem Sound.finished (sound : Sound demo) (ended : demo.main = .ended) : Finished demo := by
  obtain ⟨placed, ordered, staged⟩ := sound
  have producer : demo.producer = .ended := staged.producerEnded (by rw [ended]; decide)
  have consumer : demo.consumer = .ended := staged.consumerEnded (by rw [ended]; decide)
  have drained := (staged.drained (.inl consumer)).2
  have nothing : demo.onTheWay = [] := by
    simp [onTheWay, producer, consumer, drained, Producer.carried, Consumer.carried]
  have all := placed.places.length_eq
  simp only [places, producer, consumer, drained, Producer.held, Consumer.held, List.append_nil,
    List.length_finRange] at all
  have counted := placed.counted
  refine ⟨ended, ?_, by omega, placed.peaked, placed.unfailed⟩
  rw [← ordered.frames, nothing, List.map_nil, List.append_nil]

end Ends

/-- From the moment that `running` is false, in whatever order the threads go on: they take no more
    than `3 * blockCount + 15` steps, and where none is left, `main` is through, every frame that
    fits was sent and every buffer is back. -/
theorem finishes (data : Fin blockCount → List UInt8)
    (sized : ∀ buffer, (data buffer).length = blockSize) (enough : 2 ≤ blockCount)
    (actors more : List Actor) (stopped : (run next actors (start data sized)).running = false)
    (steps : Admits next (fun actor demo => (step actor demo).isSome) more
      (run next actors (start data sized))) :
    more.length ≤ 3 * blockCount + 15 ∧
    ((∀ actor, step actor (run next (actors ++ more) (start data sized)) = none) →
      Finished (run next (actors ++ more) (start data sized))) := by
  have sound := run_sound data sized actors
  constructor
  · have bound := steps_length_le more _ stopped steps
    have most := rest_le sound stopped
    exact Nat.le_trans bound most
  · intro still
    have final := run_sound data sized (actors ++ more)
    have ended : (run next (actors ++ more) (start data sized)).main = .ended := by
      by_contra unfinished
      obtain rfl | ⟨rfl, _⟩ := Stuck.shape final ⟨still, unfinished⟩
      · exact absurd enough (by decide)
      · exact absurd enough (by decide)
    exact final.finished ended

/-- A frame is sent while `main` ends the demo. -/
theorem finishes_one :
    [Actor.consumer, .consumer, .producer, .main, .main, .consumer, .consumer, .main,
      .main].length ≤ 3 * 2 + 15 ∧
    ((∀ actor, step actor (run next ([.producer, .producer, .producer, .producer, .main] ++
        [.consumer, .consumer, .producer, .main, .main, .consumer, .consumer, .main, .main])
        (start (fun _ : Fin 2 => List.replicate 8 0) (fun _ => rfl))) = none) →
      Finished (run next ([.producer, .producer, .producer, .producer, .main] ++
        [.consumer, .consumer, .producer, .main, .main, .consumer, .consumer, .main, .main])
        (start (fun _ : Fin 2 => List.replicate 8 0) (fun _ => rfl)))) :=
  finishes (fun _ => List.replicate 8 0) (fun _ => rfl) (by decide) _ _ (by decide) (by decide)

end Demo

end PictureReconstruct.PoolDemo
