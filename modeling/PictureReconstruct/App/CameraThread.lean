import PictureReconstruct.Capture.CameraCapture
import PictureReconstruct.App.Restart

/-! # The camera thread under a `CameraNetworkSender`

`RestartedSender` takes `start` and `stop` of its camera and the end of `captureLoop` as one step
each.  Here these are runs of `CameraCapture`, whose owner and whose loop take every step alone.

* `CameraNetworkSender.camera`: the camera of a sender.
* `cameraEvents`: the steps of the camera in one step of the sender.
* `cycles_tracked`: every run of the sender is a run of its camera.
* `opened_sender_never_terminates`: a sender whose camera can be opened does not end in
  `std::terminate`, whatever is started again.
-/

namespace PictureReconstruct.App

open Library.Runs Capture

variable {n : Nat}

/-- The call of the camera in which the owner of the sender is. -/
def OwnerPosition.call : OwnerPosition → OwnerCall
  | joiningCamera => .joining false
  | destroyingPool => .destroyed
  | terminated => .terminated
  | _ => .idle

namespace CameraNetworkSender

/-- Where the `captureLoop` of the sender is in the one of the camera. -/
def loop (sender : CameraNetworkSender n) : CaptureLoop :=
  match sender.threads.capture with
  | .ended => if sender.opened then .ended else .gaveUp
  | _ => if sender.opened then .looping else .opening

def camera (sender : CameraNetworkSender n) : CameraCapture where
  running := sender.threads.capturing
  worker := if sender.joinable then some sender.loop else none
  owner := sender.owner.call

theorem loop_of_alive {sender : CameraNetworkSender n} (alive : sender.threads.capture ≠ .ended) :
    sender.loop = if sender.opened then .looping else .opening := by
  unfold loop
  split
  · next ended => exact absurd ended alive
  · rfl

end CameraNetworkSender

/-- `captureLoop` from the open camera to its loop: ten images to warm up, as long as `running_`
    is set. -/
def warmingUp (running : Bool) : List CameraEvent :=
  List.replicate (if running then 11 else 1) .work

theorem run_warming {camera : CameraCapture} (running : camera.running = true) (left reads : Nat)
    (total : reads + left = 10) (warming : camera.worker = some (.warming reads)) :
    run CameraCapture.step (List.replicate (left + 1) .work) camera =
      { camera with worker := some .looping } := by
  induction left generalizing camera reads with
  | zero =>
    obtain rfl : reads = 10 := total
    simp [run, CameraCapture.step, CameraCapture.work, warming]
  | succ left ih =>
    have next : camera.work = { camera with worker := some (.warming (reads + 1)) } := by
      simp only [CameraCapture.work, warming]
      rw [if_pos ⟨by omega, running⟩]
    rw [List.replicate_succ, run, CameraCapture.step, next]
    exact ih running (reads + 1) (by omega) rfl

theorem run_warmingUp (running : Bool) (owner : OwnerCall) :
    run CameraCapture.step (warmingUp running) ⟨running, some (.warming 0), owner⟩ =
      ⟨running, some .looping, owner⟩ := by
  cases running with
  | true => exact run_warming rfl 10 0 rfl rfl
  | false => rfl

/-- The steps of the camera in a step of the sender. -/
def cameraEvents (action : LifecycleAction) (restarted : RestartedSender n) : List CameraEvent :=
  match action, restarted.sender.owner with
  | .start connects, .constructed | .start connects, .stopped =>
    if restarted.connected || connects then [.start, .proceed, .proceed] else []
  | .openCamera opened, owner =>
    match restarted.sender.threads.capture with
    | .testing =>
      if owner.running ∧ restarted.sender.opened = false then
        .openCamera opened ::
          if opened then warmingUp restarted.sender.threads.capturing else [.work]
      else []
    | _ => []
  | .thread .testCapturing, owner =>
    match restarted.sender.threads.capture with
    | .testing =>
      -- the loop is left, and the camera is released
      if owner.running ∧ restarted.sender.opened ∧ restarted.sender.threads.capturing = false then
        [.work, .work]
      else []
    | _ => []
  | .proceed, .stoppingCamera =>
    if restarted.sender.threads.capturing then [.stop, .proceed] else [.stop]
  | .proceed, .joiningCamera =>
    match restarted.sender.threads.capture with
    | .ended => [.proceed]
    | _ => []
  | .destroy, .constructed | .destroy, .stopped => [.destroy, .proceed]
  | _, _ => []

/-! ## What the sender knows of its camera -/

/-- What the owner of the sender relies on when it calls its camera. -/
structure Attended (sender : CameraNetworkSender n) : Prop where
  fresh : sender.owner = .constructed → sender.joinable = false ∧ sender.opened = false ∧
    sender.threads.capture = .testing
  /-- the loop is not entered before the camera is open -/
  unopened : sender.opened = false →
    sender.threads.capture = .testing ∨ sender.threads.capture = .ended
  /-- a thread that is gone has ended -/
  joined : sender.owner.running = true → sender.joinable = false →
    sender.threads.capture = .ended
  /-- `running_` of the camera is set between its `start` and its `stop` only -/
  stopped : sender.owner ≠ .started → sender.owner ≠ .stoppingCamera →
    sender.threads.capturing = false

theorem OwnerPosition.standing {owner : OwnerPosition} (running : owner.running = true) :
    owner ≠ .constructed ∧ owner ≠ .terminated := by
  constructor
  · rintro rfl
    cases running
  · rintro rfl
    cases running

section Attended

variable {sender : CameraNetworkSender n}

/-- A thread that has not ended can be joined. -/
theorem Attended.joinable (attended : Attended sender)
    (running : sender.owner.running = true) (alive : sender.threads.capture ≠ .ended) :
    sender.joinable = true := by
  by_contra unjoinable
  exact alive (attended.joined running (Bool.not_eq_true _ ▸ unjoinable))

/-- Behind a `start` the thread has not opened the camera yet. -/
theorem Attended.started (started : sender.owner = .started)
    (joinable : sender.joinable = true) (testing : sender.threads.capture = .testing) :
    Attended sender where
  fresh constructed := by
    rw [started] at constructed
    cases constructed
  unopened _ := .inl testing
  joined _ unjoinable := by
    rw [joinable] at unjoinable
    cases unjoinable
  stopped other := absurd started other

/-- The owner goes on, and `captureLoop` stays where it is. -/
theorem Attended.onward (attended : Attended sender)
    (running : sender.owner.running = true) {owner : OwnerPosition} (called : owner ≠ .constructed)
    {threads : SenderState n} (capture : threads.capture = sender.threads.capture)
    (stopped : owner ≠ .started → owner ≠ .stoppingCamera → threads.capturing = false) :
    Attended { sender with owner, threads } where
  fresh constructed := absurd constructed called
  unopened closed := capture ▸ attended.unopened closed
  joined _ unjoinable := capture ▸ attended.joined running unjoinable
  stopped

/-- Neither of the two threads is there any more. -/
theorem Attended.finished (attended : Attended sender)
    (idle : sender.threads.capturing = false) {owner : OwnerPosition}
    (finished : owner = .destroyingPool ∨ owner = .terminated) :
    Attended { sender with owner } where
  fresh constructed := by
    rw [show owner = .constructed from constructed] at finished
    rcases finished with same | same <;> cases same
  unopened := attended.unopened
  joined running := by
    rcases finished with rfl | rfl <;> cases running
  stopped _ _ := idle

end Attended

/-- The camera is the one of the sender; behind `std::terminate` its members do not matter. -/
structure Tracks (sender : CameraNetworkSender n) (camera : CameraCapture) : Prop where
  attended : Attended sender
  owner : camera.owner = sender.owner.call
  same : sender.owner ≠ .terminated → camera = sender.camera

/-! ## Steps of the two threads -/

/-- Only the test of `running_` ends the loop or enters it. -/
theorem step_loop {fragmentSize : UInt32} {state after : SenderState n} {action : SenderAction}
    (stepped : SenderState.step fragmentSize action state = some after)
    (thread : action ≠ .stopCamera) (test : action ≠ .testCapturing) :
    after.capturing = state.capturing ∧ (after.capture = state.capture ∨
      state.capture ≠ .testing ∧ state.capture ≠ .ended ∧ after.capture ≠ .ended) := by
  cases action with
  | stopCamera => exact absurd rfl thread
  | testCapturing => exact absurd rfl test
  | _ =>
    simp only [SenderState.step] at stepped
    grind [SenderState.fail, SenderState.pushFrame]

theorem advance_testCapturing (fragmentSize : UInt32) (state : SenderState n) :
    SenderState.advance fragmentSize .testCapturing state =
      { state with
        capture :=
          match state.capture with
          | .testing => if state.capturing then .reading else .ended
          | capture => capture } := by
  obtain ⟨_, _, capturing, _, _, capture, _⟩ := state
  cases capture with
  | testing => cases capturing <;> rfl
  | _ => rfl

/-! ## Every step of the sender -/

section Tracks

variable {fragmentSize : UInt32} {restarted : RestartedSender n} {camera : CameraCapture}

theorem Tracks.of_run {sender after : CameraNetworkSender n} {events : List CameraEvent}
    (attended : Attended after)
    (same : run CameraCapture.step events sender.camera = after.camera) :
    Tracks after (run CameraCapture.step events sender.camera) where
  attended
  owner := congrArg CameraCapture.owner same
  same _ := same

/-- A step of the threads in which `captureLoop` neither comes to its end nor gives up. -/
theorem Tracks.quiet {sender : CameraNetworkSender n} (tracks : Tracks sender camera)
    {threads : SenderState n} (capturing : threads.capturing = sender.threads.capturing)
    (capture : threads.capture = sender.threads.capture ∨ sender.opened = true ∧
      sender.threads.capture ≠ .ended ∧ threads.capture ≠ .ended) :
    Tracks { sender with threads } camera := by
  obtain ⟨⟨fresh, unopened, joined, stopped⟩, owner, same⟩ := tracks
  have stopped' : sender.owner ≠ .started → sender.owner ≠ .stoppingCamera →
      threads.capturing = false := fun other another => capturing.trans (stopped other another)
  cases capture with
  | inl capture =>
    refine ⟨⟨?_, ?_, ?_, stopped'⟩, owner, fun standing => ?_⟩
    · rwa [capture]
    · rwa [capture]
    · rwa [capture]
    · rw [same standing]
      simp only [CameraNetworkSender.camera, CameraNetworkSender.loop, capturing, capture]
  | inr inside =>
    obtain ⟨opened, alive, alive'⟩ := inside
    refine ⟨⟨fun constructed => ?_, fun closed => ?_, fun running unjoinable => ?_, stopped'⟩,
      owner, fun standing => ?_⟩
    · exact absurd (opened.symm.trans (fresh constructed).2.1) Bool.noConfusion
    · exact absurd (opened.symm.trans closed) Bool.noConfusion
    · exact absurd (joined running unjoinable) alive
    · rw [same standing]
      simp only [CameraNetworkSender.camera, capturing, CameraNetworkSender.loop_of_alive alive]
      rw [CameraNetworkSender.loop_of_alive alive']

theorem Tracks.start (tracks : Tracks restarted.sender camera) (connects : Bool) :
    Tracks (restarted.start fragmentSize connects).sender
      (run CameraCapture.step (cameraEvents (.start connects) restarted) camera) := by
  cases position : restarted.sender.owner with
  | constructed =>
    obtain rfl := tracks.same (by simp [position])
    obtain ⟨unjoinable, unopened, testing⟩ := tracks.attended.fresh position
    have idle := tracks.attended.stopped (by simp [position]) (by simp [position])
    simp only [RestartedSender.start, cameraEvents, position, CameraNetworkSender.step, true_and]
    split
    · refine .of_run (.started rfl rfl testing) ?_
      simp only [CameraNetworkSender.camera, CameraNetworkSender.loop, position, unjoinable,
        unopened, testing, idle]
      rfl
    · exact tracks
  | stopped =>
    obtain rfl := tracks.same (by simp [position])
    have idle := tracks.attended.stopped (by simp [position]) (by simp [position])
    simp only [RestartedSender.start, cameraEvents, position]
    split
    · split
      · next joinable =>
        -- `worker_` is assigned over a thread that was not joined
        refine ⟨tracks.attended.finished idle (.inr rfl), ?_, fun alive => absurd rfl alive⟩
        simp only [CameraNetworkSender.camera, position, if_pos joinable, idle]
        rfl
      · next unjoinable =>
        refine .of_run (.started rfl rfl rfl) ?_
        simp only [CameraNetworkSender.camera, position, if_neg unjoinable, idle]
        rfl
    · exact tracks
  | _ =>
    simp only [RestartedSender.start, cameraEvents, position]
    exact tracks

theorem Tracks.openCamera (tracks : Tracks restarted.sender camera) (opened : Bool) :
    Tracks (restarted.sender.step fragmentSize (.openCamera opened))
      (run CameraCapture.step (cameraEvents (.openCamera opened) restarted) camera) := by
  cases testing : restarted.sender.threads.capture with
  | testing =>
    simp only [CameraNetworkSender.step, cameraEvents, testing]
    split
    · next alive =>
      obtain ⟨running, unopened⟩ := alive
      obtain ⟨started, standing⟩ := OwnerPosition.standing running
      obtain rfl := tracks.same standing
      have joinable := tracks.attended.joinable running (by simp [testing])
      cases opened with
      | true =>
        simp only [if_true]
        refine .of_run ⟨fun same => absurd same started, fun closed => (by cases closed),
          tracks.attended.joined, tracks.attended.stopped⟩ ?_
        -- the loop begins behind the images that warm the camera up
        simp only [CameraNetworkSender.camera, CameraNetworkSender.loop, joinable, unopened,
          testing]
        exact run_warmingUp restarted.sender.threads.capturing restarted.sender.owner.call
      | false =>
        simp only [Bool.false_eq_true, if_false]
        refine .of_run ⟨fun same => absurd same started, fun _ => .inr rfl, fun _ _ => rfl,
          fun _ _ => rfl⟩ ?_
        simp only [CameraNetworkSender.camera, CameraNetworkSender.loop, joinable, unopened,
          testing]
        rfl
    · exact tracks
  | _ =>
    simp only [CameraNetworkSender.step, cameraEvents, testing]
    exact tracks

theorem Tracks.stop (tracks : Tracks restarted.sender camera) :
    Tracks (restarted.sender.step fragmentSize .stop)
      (run CameraCapture.step (cameraEvents .stop restarted) camera) := by
  simp only [CameraNetworkSender.step, cameraEvents]
  split
  · next started =>
    obtain rfl := tracks.same (by simp [started])
    have running : restarted.sender.owner.running = true := started ▸ rfl
    refine .of_run (tracks.attended.onward running (by decide) rfl fun _ other => absurd rfl other)
      ?_
    simp only [CameraNetworkSender.camera, CameraNetworkSender.loop, started]
    rfl
  · exact tracks

theorem Tracks.destroy (tracks : Tracks restarted.sender camera) :
    Tracks (restarted.sender.step fragmentSize .destroy)
      (run CameraCapture.step (cameraEvents .destroy restarted) camera) := by
  cases position : restarted.sender.owner with
  | constructed | stopped =>
    obtain rfl := tracks.same (by simp [position])
    have idle := tracks.attended.stopped (by simp [position]) (by simp [position])
    simp only [CameraNetworkSender.step, cameraEvents, position]
    rw [if_pos (by decide)]
    split
    · next joinable =>
      refine ⟨tracks.attended.finished idle (.inr rfl), ?_, fun alive => absurd rfl alive⟩
      simp only [CameraNetworkSender.camera, position, if_pos joinable, idle]
      rfl
    · next unjoinable =>
      refine .of_run (tracks.attended.finished idle (.inl rfl)) ?_
      simp only [CameraNetworkSender.camera, position, if_neg unjoinable, idle]
      rfl
  | _ =>
    simp only [CameraNetworkSender.step, cameraEvents, position]
    rw [if_neg (by decide)]
    exact tracks

theorem Tracks.proceed (tracks : Tracks restarted.sender camera) :
    Tracks restarted.proceed.sender
      (run CameraCapture.step (cameraEvents .proceed restarted) camera) := by
  simp only [RestartedSender.proceed, CameraNetworkSender.proceed, cameraEvents]
  cases position : restarted.sender.owner with
  | stoppingCamera =>
    obtain rfl := tracks.same (by simp [position])
    have running : restarted.sender.owner.running = true := position ▸ rfl
    dsimp only
    split
    · next capturing =>
      refine .of_run (tracks.attended.onward running (by decide) rfl fun _ _ => rfl) ?_
      simp only [CameraNetworkSender.camera, CameraNetworkSender.loop, position, capturing]
      rfl
    · next idle =>
      rw [Bool.not_eq_true] at idle
      refine .of_run (tracks.attended.onward running (by decide) rfl fun _ _ => idle) ?_
      simp only [CameraNetworkSender.camera, CameraNetworkSender.loop, position, idle]
      rfl
  | joiningCamera =>
    obtain rfl := tracks.same (by simp [position])
    have idle := tracks.attended.stopped (by simp [position]) (by simp [position])
    cases ended : restarted.sender.threads.capture with
    | ended =>
      refine .of_run ⟨fun same => (by cases same), tracks.attended.unopened, fun _ _ => ended,
        fun _ _ => idle⟩ ?_
      simp only [CameraNetworkSender.camera, CameraNetworkSender.loop, position, ended, idle]
      cases restarted.sender.joinable with
      | false => rfl
      | true => cases restarted.sender.opened <;> rfl
    | _ => exact tracks
  | stoppingQueue =>
    obtain rfl := tracks.same (by simp [position])
    have idle := tracks.attended.stopped (by simp [position]) (by simp [position])
    have running : restarted.sender.owner.running = true := position ▸ rfl
    refine .of_run (tracks.attended.onward running (by decide) rfl fun _ _ => idle) ?_
    simp only [CameraNetworkSender.camera, CameraNetworkSender.loop, position]
    rfl
  | joiningSender =>
    obtain rfl := tracks.same (by simp [position])
    have idle := tracks.attended.stopped (by simp [position]) (by simp [position])
    have running : restarted.sender.owner.running = true := position ▸ rfl
    dsimp only
    split
    · refine .of_run (tracks.attended.onward running (by decide) rfl fun _ _ => idle) ?_
      simp only [CameraNetworkSender.camera, CameraNetworkSender.loop, position]
      rfl
    · exact tracks
  | _ => exact tracks

theorem Tracks.testCapturing (tracks : Tracks restarted.sender camera) :
    Tracks (restarted.sender.step fragmentSize (.thread .testCapturing))
      (run CameraCapture.step (cameraEvents (.thread .testCapturing) restarted) camera) := by
  simp only [CameraNetworkSender.step, SenderAction.ofThread, advance_testCapturing, cameraEvents]
  cases testing : restarted.sender.threads.capture with
  | testing =>
    split
    · next alive =>
      obtain ⟨running, opened⟩ := alive
      cases capturing : restarted.sender.threads.capturing with
      | true =>
        simp only [Bool.true_eq_false, and_false, if_false, if_true]
        exact tracks.quiet capturing.symm (.inr ⟨opened, by simp [testing], by simp⟩)
      | false =>
        obtain ⟨started, standing⟩ := OwnerPosition.standing running
        obtain rfl := tracks.same standing
        have joinable := tracks.attended.joinable running (by simp [testing])
        simp only [Bool.false_eq_true, if_false]
        rw [if_pos ⟨running, opened, trivial⟩]
        refine .of_run ⟨fun same => absurd same started, fun _ => .inr rfl, fun _ _ => rfl,
          fun _ _ => rfl⟩ ?_
        simp only [CameraNetworkSender.camera, CameraNetworkSender.loop, joinable, opened, testing,
          capturing]
        rfl
    · next gone =>
      rw [if_neg fun within => gone ⟨within.1, within.2.1⟩]
      exact tracks
  | _ =>
    dsimp only
    split
    · exact tracks.quiet rfl (.inl testing.symm)
    · exact tracks

theorem cameraEvents_thread {action : SenderAction} (test : action ≠ .testCapturing) :
    cameraEvents (.thread action) restarted = [] := by
  cases action with
  | testCapturing => exact absurd rfl test
  | _ => rfl

theorem Tracks.thread (tracks : Tracks restarted.sender camera) (action : SenderAction) :
    Tracks (restarted.sender.step fragmentSize (.thread action))
      (run CameraCapture.step (cameraEvents (.thread action) restarted) camera) := by
  by_cases test : action = .testCapturing
  · rw [test]
    exact tracks.testCapturing
  · rw [cameraEvents_thread test]
    simp only [CameraNetworkSender.step]
    split
    · next alive =>
      obtain stepped | same := advance_cases fragmentSize action restarted.sender.threads
      · have thread : action ≠ .stopCamera := by
          rintro rfl
          cases alive.2
        obtain ⟨capturing, capture⟩ := step_loop stepped thread test
        refine tracks.quiet capturing (capture.imp_right fun inside => ?_)
        obtain ⟨entered, alive, alive'⟩ := inside
        -- the loop is entered with the camera open
        have opened : restarted.sender.opened = true := by
          by_contra unopened
          exact (tracks.attended.unopened (Bool.not_eq_true _ ▸ unopened)).elim entered alive
        exact ⟨opened, alive, alive'⟩
      · rw [same]
        exact tracks
    · exact tracks

theorem Tracks.step (action : LifecycleAction) (restarted : RestartedSender n)
    (camera : CameraCapture) (tracks : Tracks restarted.sender camera) :
    Tracks (restarted.step fragmentSize action).sender
      (run CameraCapture.step (cameraEvents action restarted) camera) := by
  cases action with
  | start connects => exact tracks.start connects
  | openCamera opened => exact @Tracks.openCamera n fragmentSize restarted camera tracks opened
  | thread action =>
    simp only [RestartedSender.step]
    split
    · exact @Tracks.thread n fragmentSize restarted camera tracks action
    · next other =>
      have test : action ≠ .testCapturing := by
        rintro rfl
        exact other rfl
      rw [cameraEvents_thread test]
      exact tracks
  | stop => exact @Tracks.stop n fragmentSize restarted camera tracks
  | proceed => exact tracks.proceed
  | destroy => exact @Tracks.destroy n fragmentSize restarted camera tracks

end Tracks

/-! ## Every run of the sender -/

theorem Tracks.create (storage : Fin n → List UInt8)
    (sized : ∀ buffer, (storage buffer).length = bufferSize) {maxSize : Nat}
    (positive : 0 < maxSize) :
    Tracks (RestartedSender.create (FrameBufferPool.create storage sized) maxSize positive).sender
      {} where
  attended := ⟨fun _ => ⟨rfl, rfl, rfl⟩, fun _ => .inl rfl, fun running => (by cases running),
    fun _ _ => rfl⟩
  owner := rfl
  same _ := rfl

/-- For every sequence of `start` and `stop` in every interleaving with the two threads: the camera
    makes the steps of `cameraEvents`, and its members are the ones of the sender. -/
theorem cycles_tracked (fragmentSize : UInt32) (storage : Fin n → List UInt8)
    (sized : ∀ buffer, (storage buffer).length = bufferSize) (maxSize : Nat)
    (positive : 0 < maxSize) (actions : List LifecycleAction) :
    Tracks
      (run (RestartedSender.step fragmentSize) actions
        (RestartedSender.create (FrameBufferPool.create storage sized) maxSize positive)).sender
      (run CameraCapture.step
        (translate (RestartedSender.step fragmentSize) cameraEvents actions
          (RestartedSender.create (FrameBufferPool.create storage sized) maxSize positive)) {}) :=
  @run_translated _ _ _ _ _ _ cameraEvents
    (fun restarted camera => Tracks restarted.sender camera) Tracks.step actions _ _
    (.create storage sized positive)

theorem openCamera_of_mem {action : LifecycleAction} {restarted : RestartedSender n}
    (member : .openCamera false ∈ cameraEvents action restarted) : action = .openCamera false := by
  unfold cameraEvents at member
  split at member
  · split at member <;> simp at member
  · split at member <;> simp at member
  · split at member
    · split at member
      · next opened _ _ _ =>
        cases opened with
        | false => rfl
        | true => simp [warmingUp] at member
      · cases member
    · cases member
  · split at member
    · split at member <;> simp at member
    · cases member
  · split at member <;> simp at member
  · split at member <;> simp at member
  · simp at member
  · simp at member
  · cases member

/-- As long as the camera can be opened, neither a second `start` nor the destructor finds a
    thread that was not joined. -/
theorem opened_sender_never_terminates (fragmentSize : UInt32) (storage : Fin n → List UInt8)
    (sized : ∀ buffer, (storage buffer).length = bufferSize) (maxSize : Nat)
    (positive : 0 < maxSize) (actions : List LifecycleAction)
    (opens : ∀ action ∈ actions, action ≠ .openCamera false) :
    (run (RestartedSender.step fragmentSize) actions
      (RestartedSender.create (FrameBufferPool.create storage sized) maxSize
        positive)).sender.owner ≠ .terminated := by
  intro terminated
  have tracks := cycles_tracked fragmentSize storage sized maxSize positive actions
  refine opened_never_terminates _ (fun event member failed => ?_)
    (tracks.owner.trans (congrArg OwnerPosition.call terminated))
  obtain ⟨action, called, restarted, made⟩ := mem_translate member
  rw [failed] at made
  exact opens action called (openCamera_of_mem made)

end PictureReconstruct.App
