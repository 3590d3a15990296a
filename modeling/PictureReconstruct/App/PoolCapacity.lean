import PictureReconstruct.App.Shutdown

/-! # The number of buffers against the bound of the queue

`captureLoop` has no buffer when it acquires one, so all pointers are in the queue and in
`sendLoop`, which has one frame at most.

* `step_maxSize`: the bound of the queue stays what the constructor made it.
* `acquire_never_waits`: with two buffers more than the queue holds, one is free whenever
  `captureLoop` acquires one.
-/

namespace PictureReconstruct.App

open Library.Runs

variable {n : Nat} {fragmentSize : UInt32}

/-! ## The bound of the queue -/

theorem step_maxSize {state after : SenderState n} {action : SenderAction}
    (stepped : SenderState.step fragmentSize action state = some after) :
    after.queue.maxSize = state.queue.maxSize := by
  obtain same | ⟨_, stopped⟩ | ⟨frame, pushed⟩ | popped := step_queue stepped
  · rw [same]
  · rw [stopped, BlockingQueue.stop_maxSize]
  · rw [pushed, BlockingQueue.push_maxSize]
  · rw [popped, BlockingQueue.pop_maxSize]

theorem advance_maxSize (action : SenderAction) (state : SenderState n) :
    (SenderState.advance fragmentSize action state).queue.maxSize = state.queue.maxSize := by
  obtain stepped | same := advance_cases fragmentSize action state
  · exact step_maxSize stepped
  · rw [same]

namespace CameraNetworkSender

theorem proceed_maxSize (sender : CameraNetworkSender n) :
    sender.proceed.threads.queue.maxSize = sender.threads.queue.maxSize := by
  unfold CameraNetworkSender.proceed
  split
  · split <;> rfl
  · split <;> rfl
  · rfl
  · split <;> rfl
  · rfl

theorem step_maxSize (action : LifecycleAction) (sender : CameraNetworkSender n) :
    (sender.step fragmentSize action).threads.queue.maxSize = sender.threads.queue.maxSize := by
  cases action with
  | thread action =>
    simp only [CameraNetworkSender.step]
    split
    · exact advance_maxSize action sender.threads
    · rfl
  | openCamera opened =>
    obtain ⟨capture, capturing, opened', same⟩ := openCamera_cases fragmentSize opened sender
    rw [same]
  | proceed => exact sender.proceed_maxSize
  | start | stop =>
    simp only [CameraNetworkSender.step]
    split <;> rfl
  | destroy =>
    simp only [CameraNetworkSender.step]
    split
    · split <;> rfl
    · rfl

theorem run_maxSize (actions : List LifecycleAction) (sender : CameraNetworkSender n) :
    (run (CameraNetworkSender.step fragmentSize) actions sender).threads.queue.maxSize =
      sender.threads.queue.maxSize := by
  induction actions generalizing sender with
  | nil => rfl
  | cons action actions ih => rw [run, ih, step_maxSize]

end CameraNetworkSender

/-! ## The pointers while `captureLoop` acquires a buffer -/

/-- `sendLoop` has one frame at most. -/
theorem SendPosition.frames_length (send : SendPosition n) : send.frames.length ≤ 1 := by
  cases send with
  | testing | popping | ended => exact Nat.zero_le 1
  | checking | starting | sending | leaving => exact Nat.le_refl 1

theorem PointersCounted.available {state : SenderState n} (counted : PointersCounted state)
    (room : state.queue.maxSize + 2 ≤ n) (unheld : state.capture.pointers = []) :
    0 < state.pool.availableCount := by
  have queue := state.queue.bounded
  have send := state.send.frames_length
  -- the pointers are those of the queue and of `sendLoop`
  apply counted.held.available_of_fewer
  rw [unheld, List.nil_append, List.length_map, SenderState.shared, List.length_append]
  omega

/-- For every bound of the queue and every pool with two buffers more, in every run: whenever
    `captureLoop` comes to `acquire`, a buffer is free and its step can be taken. -/
theorem acquire_never_waits (requested : UInt32) (storage : Fin n → List UInt8)
    (sized : ∀ buffer, (storage buffer).length = bufferSize) (maxSize : Nat)
    (positive : 0 < maxSize) (room : maxSize + 2 ≤ n) (actions : List LifecycleAction)
    (image : CameraImage)
    (acquiring : (run (CameraNetworkSender.step (RawFrameSender.setFragmentSize requested)) actions
      (CameraNetworkSender.create (FrameBufferPool.create storage sized) maxSize
        positive)).threads.capture = .acquiring image) :
    0 < (run (CameraNetworkSender.step (RawFrameSender.setFragmentSize requested)) actions
        (CameraNetworkSender.create (FrameBufferPool.create storage sized) maxSize
          positive)).threads.pool.availableCount ∧
      ∃ after, SenderState.step (RawFrameSender.setFragmentSize requested) .acquire
        (run (CameraNetworkSender.step (RawFrameSender.setFragmentSize requested)) actions
          (CameraNetworkSender.create (FrameBufferPool.create storage sized) maxSize
            positive)).threads = some after := by
  have orderly := run_keeps (@Orderly.step n (RawFrameSender.setFragmentSize requested)) actions _
    (Orderly.create storage sized positive)
  have available := orderly.accounted.counted.available
    (by rw [CameraNetworkSender.run_maxSize]; exact room) (by rw [acquiring]; rfl)
  refine ⟨available, ?_⟩
  obtain ⟨buffer, pool, acquired⟩ := FrameBufferPool.acquire_of_available available
  simp only [SenderState.step, acquiring, acquired]
  exact ⟨_, rfl⟩

/-- `sendLoop` is stuck with one frame, the queue is full with another, a third is captured. -/
def crowding : List LifecycleAction :=
  [.start true, .openCamera true] ++
    (headerActions ++ headerActions.take 8 ++ headerActions.take 2).map .thread

theorem acquire_never_waits_crowded :
    0 < (run (CameraNetworkSender.step (RawFrameSender.setFragmentSize 1024)) crowding
        (CameraNetworkSender.create (FrameBufferPool.create blank (@blank_length 3)) 1
          Nat.one_pos)).threads.pool.availableCount ∧
      ∃ after, SenderState.step (RawFrameSender.setFragmentSize 1024) .acquire
        (run (CameraNetworkSender.step (RawFrameSender.setFragmentSize 1024)) crowding
          (CameraNetworkSender.create (FrameBufferPool.create blank (@blank_length 3)) 1
            Nat.one_pos)).threads = some after :=
  acquire_never_waits 1024 blank blank_length 1 Nat.one_pos (by decide) crowding dot (by rfl)

end PictureReconstruct.App
