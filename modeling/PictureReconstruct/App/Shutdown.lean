import PictureReconstruct.App.CaptureIntegrity

/-! # From the constructor of a `CameraNetworkSender` to the destructor of its pool

`stop` joins the two threads one after the other and leaves the queue as it is.  The members are
destroyed from the last to the first, so the pool goes before the queue.

* `CameraNetworkSender.step`: the owner of the object, step by step, next to its two threads.
* `Orderly`: what holds in every state, and what the owner knows of the threads it has joined.
* `outlives_iff`: when the destructor of the pool runs, all buffers are back in it exactly when
  every captured frame has left the queue.
-/

namespace PictureReconstruct.App

open Library.Runs

variable {n : Nat}

/-- Where the thread is that owns the `CameraNetworkSender`. -/
inductive OwnerPosition
  /-- no thread has been started -/
  | constructed
  | started
  /-- in `stop`, before `camera_.stop()` -/
  | stoppingCamera
  | joiningCamera
  | stoppingQueue
  | joiningSender
  | stopped
  /-- the destructor of `bufferPool_` runs -/
  | destroyingPool
  /-- the destructor of `camera_` has found a thread that was not joined -/
  | terminated
deriving DecidableEq

structure CameraNetworkSender (bufferCount : Nat) where
  threads : SenderState bufferCount
  owner : OwnerPosition := .constructed
  /-- `captureLoop` has opened the camera -/
  opened : Bool := false
  /-- `worker_` of the camera has been started and not been joined -/
  joinable : Bool := false

inductive LifecycleAction
  /-- `start`, which does nothing without a connection -/
  | start (connected : Bool)
  | openCamera (opened : Bool)
  /-- one of the two threads takes a step -/
  | thread (action : SenderAction)
  | stop
  /-- the next step of `stop` -/
  | proceed
  /-- the destructor, behind the call of `stop` that it starts with -/
  | destroy

/-- A step of the two threads; `captureLoop` comes to its loop with the camera open. -/
def SenderAction.ofThread (opened : Bool) : SenderAction → Bool
  | stopCamera | stopSender | stopQueue => false
  | testCapturing => opened
  | _ => true

/-- The threads exist. -/
def OwnerPosition.running : OwnerPosition → Bool
  | constructed | destroyingPool | terminated => false
  | _ => true

namespace CameraNetworkSender

def create (pool : FrameBufferPool bufferSize n) (maxSize : Nat) (positive : 0 < maxSize) :
    CameraNetworkSender n where
  threads := { SenderState.create pool maxSize positive with capturing := false, running := false }

/-- The next step of `stop`. -/
def proceed (sender : CameraNetworkSender n) : CameraNetworkSender n :=
  match sender.owner with
  | .stoppingCamera =>
    -- `camera_.stop()` returns at once when `captureLoop` could not open the camera
    if sender.threads.capturing then
      { sender with owner := .joiningCamera, threads := { sender.threads with capturing := false } }
    else { sender with owner := .stoppingQueue }
  | .joiningCamera =>
    match sender.threads.capture with
    | .ended => { sender with owner := .stoppingQueue, joinable := false }
    | _ => sender
  | .stoppingQueue =>
    { sender with
      owner := .joiningSender
      threads := { sender.threads with queue := sender.threads.queue.stop } }
  | .joiningSender =>
    match sender.threads.send with
    | .ended => { sender with owner := .stopped }
    | _ => sender
  | _ => sender

/-- The state after a step, or the same state where the step cannot be taken. -/
def step (fragmentSize : UInt32) : LifecycleAction → CameraNetworkSender n → CameraNetworkSender n
  | .start connected, sender =>
    if sender.owner = .constructed ∧ connected then
      { sender with
        owner := .started
        joinable := true
        threads := { sender.threads with capturing := true, running := true } }
    else sender
  | .openCamera opened, sender =>
    match sender.threads.capture with
    | .testing =>
      if sender.owner.running ∧ sender.opened = false then
        if opened then { sender with opened := true }
        else
          { sender with
            threads := { sender.threads with capture := .ended, capturing := false } }
      else sender
    | _ => sender
  | .thread action, sender =>
    if sender.owner.running ∧ action.ofThread sender.opened then
      { sender with threads := SenderState.advance fragmentSize action sender.threads }
    else sender
  | .stop, sender =>
    if sender.owner = .started then
      { sender with owner := .stoppingCamera, threads := { sender.threads with running := false } }
    else sender
  | .proceed, sender => sender.proceed
  | .destroy, sender =>
    if sender.owner = .constructed ∨ sender.owner = .stopped then
      if sender.joinable then { sender with owner := .terminated }
      else { sender with owner := .destroyingPool }
    else sender

/-- Opening the camera is a matter of `captureLoop` alone. -/
theorem openCamera_cases (fragmentSize : UInt32) (opened : Bool) (sender : CameraNetworkSender n) :
    ∃ capture capturing opened', sender.step fragmentSize (.openCamera opened) =
      { sender with
        opened := opened', threads := { sender.threads with capture, capturing } } := by
  simp only [step]
  split
  · split
    · split <;> exact ⟨_, _, _, rfl⟩
    · exact ⟨_, _, _, rfl⟩
  · exact ⟨_, _, _, rfl⟩

end CameraNetworkSender

/-! ## The threads that have ended -/

section Ended

variable {fragmentSize : UInt32} {state after : SenderState n} {action : SenderAction}

theorem step_captureEnded (stepped : SenderState.step fragmentSize action state = some after)
    (ended : state.capture = .ended) : after.capture = .ended := by
  cases action with
  | testCapturing | acquire | copyByte | number | push | dropFrame | dropBuffer =>
    simp [SenderState.step, ended] at stepped
  | read image => cases image <;> simp [SenderState.step, ended] at stepped
  | _ =>
    -- the steps of the others leave `captureLoop` where it is
    simp only [SenderState.step] at stepped
    grind [SenderState.fail]

theorem step_sendEnded (stepped : SenderState.step fragmentSize action state = some after)
    (ended : state.send = .ended) : after.send = .ended := by
  cases action with
  | testRunning | pop | check | sendHeader | sendBytes | returnSent | dropSent =>
    simp [SenderState.step, ended] at stepped
  | _ =>
    simp only [SenderState.step] at stepped
    grind [SenderState.pushFrame]

theorem advance_captureEnded (ended : state.capture = .ended) :
    (SenderState.advance fragmentSize action state).capture = .ended := by
  obtain stepped | same := advance_cases fragmentSize action state
  · exact step_captureEnded stepped ended
  · rwa [same]

theorem advance_sendEnded (ended : state.send = .ended) :
    (SenderState.advance fragmentSize action state).send = .ended := by
  obtain stepped | same := advance_cases fragmentSize action state
  · exact step_sendEnded stepped ended
  · rwa [same]

end Ended

/-! ## Steps of the owner as moves of the threads -/

section Chains

variable {fragmentSize : UInt32}

theorem advance_chain (action : SenderAction) (threads : SenderState n) :
    Relation.ReflTransGen (Moves fragmentSize) threads
      (SenderState.advance fragmentSize action threads) := by
  obtain stepped | same := advance_cases fragmentSize action threads
  · exact .single (step_moves stepped)
  · rw [same]

/-- `captureLoop` gives up before it has read an image. -/
theorem unopened_chain {threads : SenderState n} (testing : threads.capture = .testing) :
    Relation.ReflTransGen (Moves fragmentSize) threads
      { threads with capture := .ended, capturing := false } := by
  have idle : threads.capture.Idle := testing ▸ .testing
  have ended : Moves fragmentSize threads { threads with capture := .ended } :=
    .captureIdled idle .ended
  exact .tail (.single ended) (@Moves.flagged n fragmentSize _ false threads.running)

theorem CameraNetworkSender.proceed_chain (sender : CameraNetworkSender n) :
    Relation.ReflTransGen (Moves fragmentSize) sender.threads sender.proceed.threads := by
  unfold CameraNetworkSender.proceed
  split
  · split
    · exact .single (@Moves.flagged n fragmentSize _ false sender.threads.running)
    · exact .refl
  · split <;> exact .refl
  · exact .single .queueStopped
  · split <;> exact .refl
  · exact .refl

theorem CameraNetworkSender.step_chain (action : LifecycleAction)
    (sender : CameraNetworkSender n) :
    Relation.ReflTransGen (Moves fragmentSize) sender.threads
      (sender.step fragmentSize action).threads := by
  cases action with
  | start connected =>
    simp only [CameraNetworkSender.step]
    split
    · exact .single (@Moves.flagged n fragmentSize _ true true)
    · exact .refl
  | openCamera opened =>
    simp only [CameraNetworkSender.step]
    split
    · next testing =>
      split
      · split
        · exact .refl
        · exact unopened_chain testing
      · exact .refl
    · exact .refl
  | thread action =>
    simp only [CameraNetworkSender.step]
    split
    · exact advance_chain action sender.threads
    · exact .refl
  | stop =>
    simp only [CameraNetworkSender.step]
    split
    · exact .single (@Moves.flagged n fragmentSize _ sender.threads.capturing false)
    · exact .refl
  | proceed => exact sender.proceed_chain
  | destroy =>
    simp only [CameraNetworkSender.step]
    split
    · split <;> exact .refl
    · exact .refl

end Chains

/-! ## Every state -/

/-- The pointers are counted and every captured id has a fate. -/
structure Accounted (threads : SenderState n) : Prop where
  counted : PointersCounted threads
  fates : FatesDisjoint threads

theorem Accounted.moves {fragmentSize : UInt32} {threads after : SenderState n}
    (accounted : Accounted threads) (moves : Moves fragmentSize threads after) : Accounted after :=
  ⟨step_pointersCounted moves accounted.counted, step_fates moves accounted.fates⟩

theorem Accounted.chain {fragmentSize : UInt32} {threads after : SenderState n}
    (chain : Relation.ReflTransGen (Moves fragmentSize) threads after)
    (accounted : Accounted threads) : Accounted after := by
  induction chain with
  | refl => exact accounted
  | tail _ moves accounted => exact accounted.moves moves

/-- What the owner knows of the two threads. -/
def Joined (sender : CameraNetworkSender n) : Prop :=
  match sender.owner with
  | .constructed | .destroyingPool => sender.threads.capture.Idle ∧ sender.threads.send.Idle
  | .stoppingQueue | .joiningSender => sender.joinable = false → sender.threads.capture = .ended
  | .stopped =>
    (sender.joinable = false → sender.threads.capture = .ended) ∧ sender.threads.send = .ended
  | .started | .stoppingCamera => sender.joinable = true
  | .joiningCamera | .terminated => True

structure Orderly (sender : CameraNetworkSender n) : Prop where
  accounted : Accounted sender.threads
  joined : Joined sender

section Orderly

variable {fragmentSize : UInt32} {sender : CameraNetworkSender n}

theorem Orderly.create (storage : Fin n → List UInt8)
    (sized : ∀ buffer, (storage buffer).length = bufferSize) {maxSize : Nat}
    (positive : 0 < maxSize) :
    Orderly (CameraNetworkSender.create (FrameBufferPool.create storage sized) maxSize
      positive) where
  accounted :=
    { counted := ⟨⟨FrameBufferPool.create_conserved storage sized, fun _ => rfl⟩, nofun⟩
      fates := ⟨List.Sublist.refl [], List.Perm.refl []⟩ }
  joined := ⟨.testing, .testing⟩

theorem Joined.thread (joined : Joined sender) (running : sender.owner.running = true)
    (action : SenderAction) :
    Joined { sender with threads := SenderState.advance fragmentSize action sender.threads } := by
  unfold Joined at joined ⊢
  cases position : sender.owner with
  | constructed | destroyingPool | terminated =>
    rw [position] at running
    cases running
  | started | stoppingCamera =>
    simpa only [position] using joined
  | joiningCamera => trivial
  | stoppingQueue | joiningSender =>
    simp only [position] at joined
    exact fun unjoinable => advance_captureEnded (joined unjoinable)
  | stopped =>
    simp only [position] at joined
    exact ⟨fun unjoinable => advance_captureEnded (joined.1 unjoinable),
      advance_sendEnded joined.2⟩

theorem Joined.unopened (joined : Joined sender) (running : sender.owner.running = true) :
    Joined { sender with
      threads := { sender.threads with capture := .ended, capturing := false } } := by
  unfold Joined at joined ⊢
  cases position : sender.owner with
  | constructed | destroyingPool | terminated =>
    rw [position] at running
    cases running
  | started | stoppingCamera =>
    simpa only [position] using joined
  | joiningCamera => trivial
  | stoppingQueue | joiningSender => exact fun _ => rfl
  | stopped =>
    simp only [position] at joined
    exact ⟨fun _ => rfl, joined.2⟩

theorem Joined.proceed (joined : Joined sender) : Joined sender.proceed := by
  unfold CameraNetworkSender.proceed
  unfold Joined at joined
  cases position : sender.owner with
  | stoppingCamera =>
    simp only [position] at joined
    dsimp only
    split
    · trivial
    · exact fun unjoinable => absurd (joined.symm.trans unjoinable) Bool.noConfusion
  | joiningCamera =>
    dsimp only
    split
    · next ended => exact fun _ => ended
    · rw [Joined, position]
      trivial
  | stoppingQueue =>
    simp only [position] at joined
    exact joined
  | joiningSender =>
    simp only [position] at joined
    dsimp only
    split
    · next ended => exact ⟨joined, ended⟩
    · rw [Joined, position]
      exact joined
  | constructed | started | stopped | destroyingPool =>
    rw [Joined, position]
    simpa only [position] using joined
  | terminated =>
    rw [Joined, position]
    trivial

theorem Joined.destroy (joined : Joined sender)
    (ready : sender.owner = .constructed ∨ sender.owner = .stopped)
    (unjoinable : sender.joinable = false) : Joined { sender with owner := .destroyingPool } := by
  unfold Joined at joined
  cases ready with
  | inl constructed =>
    simp only [constructed] at joined
    exact joined
  | inr stopped =>
    simp only [stopped] at joined
    have captureEnded : sender.threads.capture.Idle := joined.1 unjoinable ▸ .ended
    have sendEnded : sender.threads.send.Idle := joined.2 ▸ .ended
    exact ⟨captureEnded, sendEnded⟩

theorem Joined.step (joined : Joined sender) (action : LifecycleAction) :
    Joined (sender.step fragmentSize action) := by
  cases action with
  | start connected =>
    simp only [CameraNetworkSender.step]
    split
    · rfl
    · exact joined
  | openCamera opened =>
    simp only [CameraNetworkSender.step]
    split
    · split
      · next alive =>
        split
        · exact joined
        · exact joined.unopened alive.1
      · exact joined
    · exact joined
  | thread action =>
    simp only [CameraNetworkSender.step]
    split
    · next alive => exact joined.thread alive.1 action
    · exact joined
  | stop =>
    simp only [CameraNetworkSender.step]
    split
    · next started =>
      simp only [Joined, started] at joined
      exact joined
    · exact joined
  | proceed => exact joined.proceed
  | destroy =>
    simp only [CameraNetworkSender.step]
    split
    · next ready =>
      split
      · trivial
      · next unjoinable => exact joined.destroy ready (Bool.not_eq_true _ ▸ unjoinable)
    · exact joined

theorem Orderly.step (action : LifecycleAction) (sender : CameraNetworkSender n)
    (orderly : Orderly sender) : Orderly (sender.step fragmentSize action) :=
  ⟨orderly.accounted.chain (sender.step_chain action), orderly.joined.step action⟩

end Orderly

/-! ## The destructor of the pool -/

/-- All buffers are back in the pool, and no frame in the queue or in a thread has one. -/
structure Outlives (sender : CameraNetworkSender n) : Prop where
  available : sender.threads.pool.availableCount = sender.threads.pool.totalCount
  queue : sender.threads.queue.queue = []
  capture : sender.threads.capture.pointers = []
  send : sender.threads.send.frames = []

/-- Every captured frame was popped, dropped for a newer one or refused by the stopped queue. -/
def TakenOut (sender : CameraNetworkSender n) : Prop :=
  sender.threads.captured.length = sender.threads.popped.length + sender.threads.evicted.length +
    sender.threads.refused.length

instance (sender : CameraNetworkSender n) : Decidable (TakenOut sender) :=
  inferInstanceAs (Decidable (_ = _))

theorem Orderly.outlives {sender : CameraNetworkSender n} (orderly : Orderly sender)
    (destroying : sender.owner = .destroyingPool) : Outlives sender ↔ TakenOut sender := by
  obtain ⟨⟨counted, fates⟩, joined⟩ := orderly
  simp only [Joined, destroying] at joined
  obtain ⟨capture, send⟩ := joined
  -- what is left of the captured frames is in the queue
  have lengths := fates.accounted.length_eq
  simp only [SenderState.capturedIds, SenderState.ids, capture.frames, List.length_append,
    List.length_map, List.length_nil] at lengths
  have held := counted.held
  simp only [SenderState.shared, capture.pointers, send.frames, List.append_nil,
    List.nil_append] at held
  constructor
  · intro outlives
    rw [outlives.queue, List.length_nil] at lengths
    rw [TakenOut]
    omega
  · intro taken
    rw [TakenOut] at taken
    have empty : sender.threads.queue.queue = [] := by
      apply List.eq_nil_of_length_eq_zero
      omega
    refine ⟨held.available_iff.mpr ?_, empty, capture.pointers, send.frames⟩
    rw [empty, List.map_nil]

/-- For every run, whatever the threads do and whenever the object is stopped: when the destructor
    of the pool runs, the pool outlives its buffers exactly when every captured frame has left the
    queue. -/
theorem outlives_iff (requested : UInt32) (storage : Fin n → List UInt8)
    (sized : ∀ buffer, (storage buffer).length = bufferSize) (maxSize : Nat)
    (positive : 0 < maxSize) (actions : List LifecycleAction)
    (destroying : (run (CameraNetworkSender.step (RawFrameSender.setFragmentSize requested)) actions
      (CameraNetworkSender.create (FrameBufferPool.create storage sized) maxSize
        positive)).owner = .destroyingPool) :
    Outlives (run (CameraNetworkSender.step (RawFrameSender.setFragmentSize requested)) actions
        (CameraNetworkSender.create (FrameBufferPool.create storage sized) maxSize positive)) ↔
      TakenOut (run (CameraNetworkSender.step (RawFrameSender.setFragmentSize requested)) actions
        (CameraNetworkSender.create (FrameBufferPool.create storage sized) maxSize positive)) := by
  have orderly := run_keeps (@Orderly.step n (RawFrameSender.setFragmentSize requested)) actions _
    (Orderly.create storage sized positive)
  exact orderly.outlives destroying

/-- `start`, and one image into the queue. -/
def capturing : List LifecycleAction :=
  [.start true, .openCamera true] ++ (headerActions.take 8).map .thread

/-- `stop` and the destructor, while the two loops come to their ends. -/
def stopping : List LifecycleAction :=
  [.stop, .proceed, .thread .testCapturing, .proceed, .proceed, .thread .testRunning, .proceed,
    .destroy]

/-- The frame is popped before the end and cannot be sent. -/
theorem outlives_iff_popped :
    Outlives (run (CameraNetworkSender.step (RawFrameSender.setFragmentSize 1024))
        (capturing ++ [.thread .testRunning, .thread .pop, .thread (.check false),
          .thread .dropSent] ++ stopping)
        (CameraNetworkSender.create (FrameBufferPool.create blank (@blank_length 16)) 10
          (by decide))) ↔
      TakenOut (run (CameraNetworkSender.step (RawFrameSender.setFragmentSize 1024))
        (capturing ++ [.thread .testRunning, .thread .pop, .thread (.check false),
          .thread .dropSent] ++ stopping)
        (CameraNetworkSender.create (FrameBufferPool.create blank (@blank_length 16)) 10
          (by decide))) :=
  outlives_iff 1024 blank blank_length 10 (by decide) _ (by decide +kernel)

/-- The frame is still in the queue when the pool is destroyed. -/
theorem queued_frame_outlives_pool :
    (run (CameraNetworkSender.step (RawFrameSender.setFragmentSize 1024)) (capturing ++ stopping)
      (CameraNetworkSender.create (FrameBufferPool.create blank (@blank_length 16)) 10
        (by decide))).owner = .destroyingPool ∧
    ¬ Outlives (run (CameraNetworkSender.step (RawFrameSender.setFragmentSize 1024))
      (capturing ++ stopping)
      (CameraNetworkSender.create (FrameBufferPool.create blank (@blank_length 16)) 10
        (by decide))) := by
  refine ⟨by decide +kernel, fun outlives => ?_⟩
  exact absurd outlives.available (by decide +kernel)

end PictureReconstruct.App
