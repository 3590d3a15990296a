import PictureReconstruct.App.Shutdown

/-! # A `CameraNetworkSender` that is started again

`start` after `stop` makes two new threads and a new connection; the queue, the pool and the frame
ids stay as they are.

* `RestartedSender.step`: any number of cycles of `start` and `stop`, with the connection.
* `CycleInvariant`: what holds in every state, whatever has been started again.
* `serves_iff`: between a `start` that returned `true` and the next `stop`, a connected sender sends
  and its queue takes frames, exactly as long as there is no second cycle.
-/

namespace PictureReconstruct.App

open Library.Runs

variable {n : Nat}

/-- A `CameraNetworkSender` with its connection. -/
structure RestartedSender (bufferCount : Nat) where
  sender : CameraNetworkSender bufferCount
  /-- `connected_` of `tcpClient_` -/
  connected : Bool := false

/-- A step that finds the connection as it is. -/
def SenderAction.finds (connected : Bool) : SenderAction → Bool
  | check answer => answer == connected
  | _ => true

/-- The members after `stop` as `start` finds them: the threads are gone, the rest is left. -/
def CameraNetworkSender.renew (sender : CameraNetworkSender n) : CameraNetworkSender n :=
  { sender with
    owner := .constructed
    opened := false
    threads := { sender.threads with capture := .testing, send := .testing, broken := false } }

namespace RestartedSender

def create (pool : FrameBufferPool bufferSize n) (maxSize : Nat) (positive : 0 < maxSize) :
    RestartedSender n where
  sender := CameraNetworkSender.create pool maxSize positive

/-- `start` between two calls; `connects` if a new connection can be made. -/
def start (fragmentSize : UInt32) (connects : Bool) (restarted : RestartedSender n) :
    RestartedSender n :=
  -- a connection that is there is kept
  let connected := restarted.connected || connects
  match restarted.sender.owner with
  | .constructed =>
    { sender := restarted.sender.step fragmentSize (.start connected), connected }
  | .stopped =>
    if connected then
      -- `camera_.start()` assigns `worker_`
      if restarted.sender.joinable then
        { sender := { restarted.sender with owner := .terminated }, connected := true }
      else
        { sender := restarted.sender.renew.step fragmentSize (.start true), connected := true }
    else restarted
  | _ => restarted

/-- A step of one of the two threads; a `sendAll` that fails closes the connection. -/
def thread (fragmentSize : UInt32) (action : SenderAction) (restarted : RestartedSender n) :
    RestartedSender n :=
  let sender := restarted.sender.step fragmentSize (.thread action)
  { sender, connected := restarted.connected && !sender.threads.broken }

/-- The next step of `stop`, which closes the connection at its end. -/
def proceed (restarted : RestartedSender n) : RestartedSender n :=
  let sender := restarted.sender.proceed
  { sender, connected := restarted.connected && sender.owner != .stopped }

/-- The state after a step, or the same state where the step cannot be taken. -/
def step (fragmentSize : UInt32) : LifecycleAction → RestartedSender n → RestartedSender n
  | .start connects, restarted => restarted.start fragmentSize connects
  | .thread action, restarted =>
    if action.finds restarted.connected then restarted.thread fragmentSize action else restarted
  | .proceed, restarted => restarted.proceed
  | action, restarted => { restarted with sender := restarted.sender.step fragmentSize action }

end RestartedSender

/-! ## What the threads can do to the flags and the queue -/

section Threads

variable {fragmentSize : UInt32} {state after : SenderState n} {action : SenderAction}

theorem SenderAction.ofThread_cases {opened : Bool} (thread : action.ofThread opened = true) :
    action ≠ .stopSender ∧ action ≠ .stopQueue := by
  cases action with
  | stopSender | stopQueue => cases thread
  | _ => exact ⟨nofun, nofun⟩

theorem step_running (stepped : SenderState.step fragmentSize action state = some after)
    (thread : action ≠ .stopSender) : after.running = state.running := by
  cases action with
  | stopSender => exact absurd rfl thread
  | _ =>
    simp only [SenderState.step] at stepped
    grind [SenderState.fail, SenderState.pushFrame]

theorem step_stopped (stepped : SenderState.step fragmentSize action state = some after)
    (thread : action ≠ .stopQueue) : after.queue.stopped = state.queue.stopped := by
  obtain same | ⟨stop, _⟩ | ⟨frame, pushed⟩ | popped := step_queue stepped
  · rw [same]
  · exact absurd stop thread
  · rw [pushed, BlockingQueue.push_stopped]
  · rw [popped, BlockingQueue.pop_stopped]

/-- `sendLoop` is left for a broken connection, for `running_` or for a stopped queue. -/
theorem step_left (payloads : PayloadsIntact fragmentSize state)
    (stepped : SenderState.step fragmentSize action state = some after) (left : after.send.Left) :
    state.send.Left ∨ after.broken = true ∨ state.running = false ∨ state.queue.stopped = true := by
  cases action with
  | testRunning =>
    -- the loop is left for `running_` alone
    simp only [SenderState.step] at stepped
    split at stepped
    · split at stepped
      · cases stepped
        cases left
      · next stopped => exact .inr (.inr (.inl (Bool.not_eq_true _ ▸ stopped)))
    · cases stepped
  | pop =>
    simp only [SenderState.step] at stepped
    split at stepped
    · split at stepped
      · next ready =>
        obtain ⟨frame, rest, _, given, _⟩ | ⟨stopped, _⟩ := BlockingQueue.pop_cases ready
        · split at stepped
          · cases stepped
            cases left
          · next pops =>
            rw [pops] at given
            cases given
        · -- `pop` has returned `false`
          exact .inr (.inr (.inr stopped))
      · cases stepped
    · cases stepped
  | check connected =>
    simp only [SenderState.step] at stepped
    split at stepped
    · split at stepped
      · cases stepped
        cases left
      · cases stepped
        exact .inr (.inl rfl)
    · cases stepped
  | sendHeader accepted =>
    simp only [SenderState.step] at stepped
    split at stepped
    · next starting =>
      -- `sendFrame` refuses an empty frame, but none is captured
      rw [if_neg (payloads.notEmpty starting)] at stepped
      split at stepped
      · cases stepped
        cases left
      · cases stepped
        exact .inr (.inl rfl)
    · cases stepped
  | sendBytes accepted =>
    simp only [SenderState.step] at stepped
    split at stepped
    · split at stepped
      · split at stepped
        · cases stepped
          exact .inr (.inl rfl)
        · split at stepped
          · cases stepped
            cases left
          · cases stepped
            cases left
      · cases stepped
    · cases stepped
  | returnSent =>
    simp only [SenderState.step] at stepped
    split at stepped
    · split at stepped
      · cases stepped
      · cases stepped
        cases left
    · cases stepped
  | dropSent =>
    simp only [SenderState.step] at stepped
    split at stepped
    · next frame ends leaving =>
      cases stepped
      cases ends with
      | true =>
        -- `break` came before the frame goes out of scope
        rw [leaving]
        exact .inl .leaving
      | false => cases left
    · cases stepped
  | _ =>
    -- the steps of the others leave `sendLoop` where it is
    refine .inl ?_
    have same : after.send = state.send := by
      simp only [SenderState.step] at stepped
      grind [SenderState.pushFrame]
    exact same ▸ left

end Threads

section Steps

variable {fragmentSize : UInt32} (action : SenderAction) (sender : CameraNetworkSender n)

theorem thread_owner : (sender.step fragmentSize (.thread action)).owner = sender.owner := by
  simp only [CameraNetworkSender.step]
  split <;> rfl

theorem thread_running :
    (sender.step fragmentSize (.thread action)).threads.running = sender.threads.running := by
  simp only [CameraNetworkSender.step]
  split
  · next alive =>
    obtain stepped | same := advance_cases fragmentSize action sender.threads
    · exact step_running stepped (SenderAction.ofThread_cases alive.2).1
    · rw [same]
  · rfl

theorem thread_stopped :
    (sender.step fragmentSize (.thread action)).threads.queue.stopped =
      sender.threads.queue.stopped := by
  simp only [CameraNetworkSender.step]
  split
  · next alive =>
    obtain stepped | same := advance_cases fragmentSize action sender.threads
    · exact step_stopped stepped (SenderAction.ofThread_cases alive.2).2
    · rw [same]
  · rfl

/-- Only behind the join of `senderThread_` has `stop` come to its end. -/
theorem proceed_cases :
    sender.proceed = sender ∨ sender.proceed.owner = .joiningCamera ∨
      sender.proceed.owner = .stoppingQueue ∨
      (sender.proceed.owner = .joiningSender ∧ sender.proceed.threads.queue.stopped = true) ∨
      (sender.owner = .joiningSender ∧ sender.proceed = { sender with owner := .stopped }) := by
  unfold CameraNetworkSender.proceed
  cases position : sender.owner with
  | stoppingCamera =>
    dsimp only
    split
    · exact .inr (.inl rfl)
    · exact .inr (.inr (.inl rfl))
  | joiningCamera =>
    dsimp only
    split
    · exact .inr (.inr (.inl rfl))
    · exact .inl rfl
  | stoppingQueue => exact .inr (.inr (.inr (.inl ⟨rfl, rfl⟩)))
  | joiningSender =>
    dsimp only
    split
    · exact .inr (.inr (.inr (.inr ⟨rfl, rfl⟩)))
    · exact .inl rfl
  | _ => exact .inl rfl

variable {action sender}

theorem thread_left (payloads : PayloadsIntact fragmentSize sender.threads)
    (left : (sender.step fragmentSize (.thread action)).threads.send.Left) :
    sender.threads.send.Left ∨ (sender.step fragmentSize (.thread action)).threads.broken = true ∨
      sender.threads.running = false ∨ sender.threads.queue.stopped = true := by
  simp only [CameraNetworkSender.step] at left ⊢
  split at left
  · next alive =>
    rw [if_pos alive]
    obtain stepped | same := advance_cases fragmentSize action sender.threads
    · exact step_left payloads stepped left
    · rw [same] at left
      exact .inl left
  · exact .inl left

end Steps

/-! ## Every state of every cycle -/

/-- The first part of `stop`, and the end of the object. -/
def OwnerPosition.transient : OwnerPosition → Bool
  | stoppingCamera | joiningCamera | stoppingQueue | destroyingPool | terminated => true
  | _ => false

/-- What holds in every state, whatever has been started again. -/
structure CycleInvariant (fragmentSize : UInt32) (restarted : RestartedSender n) : Prop where
  orderly : Orderly restarted.sender
  payloads : PayloadsIntact fragmentSize restarted.sender.threads
  closed : restarted.sender.owner = .constructed ∨ restarted.sender.owner = .stopped →
    restarted.connected = false
  fresh : restarted.sender.owner = .constructed →
    restarted.sender.threads.queue.stopped = false ∧ restarted.sender.threads.send = .testing
  running : restarted.sender.owner = .started → restarted.sender.threads.running = true
  /-- the loop that is left on a connection was left for the queue -/
  left : restarted.sender.owner = .started → restarted.connected = true →
    restarted.sender.threads.send.Left → restarted.sender.threads.queue.stopped = true
  /-- nothing undoes the stop of the queue -/
  stopped : restarted.sender.owner = .joiningSender ∨ restarted.sender.owner = .stopped →
    restarted.sender.threads.queue.stopped = true

theorem PayloadsIntact.chain {fragmentSize : UInt32} {threads after : SenderState n}
    (chain : Relation.ReflTransGen (Moves fragmentSize) threads after)
    (positive : 0 < fragmentSize.toNat) (counted : PointersCounted threads)
    (payloads : PayloadsIntact fragmentSize threads) : PayloadsIntact fragmentSize after := by
  have both : PointersCounted after ∧ PayloadsIntact fragmentSize after := by
    induction chain with
    | refl => exact ⟨counted, payloads⟩
    | tail _ moves both =>
      exact ⟨step_pointersCounted moves both.1, step_payloadsIntact positive both.1 moves both.2⟩
  exact both.2

section Invariant

variable {fragmentSize : UInt32} {sender : CameraNetworkSender n}

/-- What `stop` has left is in order for new threads. -/
theorem Orderly.renew (orderly : Orderly sender) (stopped : sender.owner = .stopped)
    (unjoinable : sender.joinable = false) : Orderly sender.renew := by
  obtain ⟨⟨⟨held, _⟩, fates⟩, joined⟩ := orderly
  -- both threads were joined, so the queue holds the only pointers
  simp only [Joined, stopped] at joined
  have captureEnded : sender.threads.capture = .ended := joined.1 unjoinable
  have sendEnded : sender.threads.send = .ended := joined.2
  constructor
  · constructor
    · constructor
      · simp only [SenderState.shared, captureEnded, sendEnded] at held
        exact held
      · intro image buffer copied copying
        cases copying
    · refine fates.same rfl rfl rfl ?_
      simp only [SenderState.ids, CameraNetworkSender.renew, captureEnded,
        CapturePosition.frames]
  · exact ⟨.testing, .testing⟩

theorem PayloadsIntact.renew (payloads : PayloadsIntact fragmentSize sender.threads) :
    PayloadsIntact fragmentSize sender.renew.threads where
  fits := nofun
  filled := nofun
  intact frame member := by
    have queued : frame ∈ sender.threads.queue.queue := by
      simpa [SenderState.frames, SenderState.shared, CameraNetworkSender.renew,
        CapturePosition.frames, SendPosition.frames] using member
    obtain ⟨image, intact⟩ :=
      payloads.intact frame (List.mem_append_right _ (List.mem_append_left _ queued))
    exact ⟨image, intact.fits, intact.captured, intact.made, intact.shown⟩
  progress := nofun
  sent := payloads.sent

theorem CycleInvariant.create (storage : Fin n → List UInt8)
    (sized : ∀ buffer, (storage buffer).length = bufferSize) {maxSize : Nat}
    (positive : 0 < maxSize) : CycleInvariant fragmentSize
      (RestartedSender.create (FrameBufferPool.create storage sized) maxSize positive) where
  orderly := Orderly.create storage sized positive
  payloads := ⟨nofun, nofun, nofun, nofun, nofun⟩
  closed _ := rfl
  fresh _ := ⟨rfl, rfl⟩
  running := nofun
  left := nofun
  stopped := by rintro (same | same) <;> cases same

variable {restarted : RestartedSender n}

theorem CycleInvariant.passing (orderly : Orderly restarted.sender)
    (payloads : PayloadsIntact fragmentSize restarted.sender.threads)
    (transient : restarted.sender.owner.transient = true) :
    CycleInvariant fragmentSize restarted := by
  have other : ∀ position : OwnerPosition, position.transient = false →
      restarted.sender.owner ≠ position := by
    rintro _ standing rfl
    rw [transient] at standing
    cases standing
  exact {
    orderly
    payloads
    closed := fun position => (position.elim (other .constructed rfl) (other .stopped rfl)).elim
    fresh := fun position => absurd position (other .constructed rfl)
    running := fun position => absurd position (other .started rfl)
    left := fun position => absurd position (other .started rfl)
    stopped := fun position =>
      (position.elim (other .joiningSender rfl) (other .stopped rfl)).elim }

/-- `start` has made its two threads. -/
theorem CycleInvariant.started (positive : 0 < fragmentSize.toNat) (orderly : Orderly sender)
    (payloads : PayloadsIntact fragmentSize sender.threads)
    (constructed : sender.owner = .constructed) (testing : sender.threads.send = .testing)
    (connected : Bool) : CycleInvariant fragmentSize
      { sender := sender.step fragmentSize (.start true), connected } where
  orderly := @Orderly.step n fragmentSize (.start true) sender orderly
  payloads := payloads.chain (sender.step_chain (.start true)) positive orderly.accounted.counted
  closed := by simp [CameraNetworkSender.step, constructed]
  fresh := by simp [CameraNetworkSender.step, constructed]
  running := by simp [CameraNetworkSender.step, constructed]
  left := by
    simp only [CameraNetworkSender.step, constructed, true_and, if_true, testing]
    intro _ _ left
    cases left
  stopped := by simp [CameraNetworkSender.step, constructed]

theorem CycleInvariant.start (positive : 0 < fragmentSize.toNat)
    (invariant : CycleInvariant fragmentSize restarted) (connects : Bool) :
    CycleInvariant fragmentSize (restarted.start fragmentSize connects) := by
  unfold RestartedSender.start
  cases position : restarted.sender.owner with
  | constructed =>
    rw [invariant.closed (.inl position), Bool.false_or]
    cases connects with
    | true =>
      -- the first cycle
      exact .started positive invariant.orderly invariant.payloads position
        (invariant.fresh position).2 true
    | false =>
      have same : restarted.sender.step fragmentSize (.start false) = restarted.sender := by
        simp [CameraNetworkSender.step]
      have closed := invariant.closed (.inl position)
      obtain ⟨sender, connected⟩ := restarted
      obtain rfl : connected = false := closed
      simp only [same]
      exact invariant
  | stopped =>
    dsimp only
    split
    · split
      · exact .passing ⟨invariant.orderly.accounted, trivial⟩ invariant.payloads rfl
      · next unjoinable =>
        -- a later cycle, over the old queue and pool
        rw [Bool.not_eq_true] at unjoinable
        exact .started positive (invariant.orderly.renew position unjoinable)
          invariant.payloads.renew rfl rfl true
    · exact invariant
  | _ => exact invariant

theorem CycleInvariant.thread (positive : 0 < fragmentSize.toNat)
    (invariant : CycleInvariant fragmentSize restarted) (action : SenderAction) :
    CycleInvariant fragmentSize (restarted.thread fragmentSize action) where
  orderly := invariant.orderly.step (.thread action) restarted.sender
  payloads := invariant.payloads.chain (restarted.sender.step_chain (.thread action)) positive
    invariant.orderly.accounted.counted
  closed position := by
    rw [RestartedSender.thread, thread_owner] at position
    rw [RestartedSender.thread, invariant.closed position, Bool.false_and]
  fresh position := by
    rw [RestartedSender.thread, thread_owner] at position
    simp only [RestartedSender.thread, CameraNetworkSender.step, position,
      OwnerPosition.running, Bool.false_eq_true, false_and, if_false]
    exact invariant.fresh position
  running position := by
    rw [RestartedSender.thread, thread_owner] at position
    rw [RestartedSender.thread, thread_running]
    exact invariant.running position
  left position connected left := by
    rw [RestartedSender.thread, thread_owner] at position
    simp only [RestartedSender.thread, Bool.and_eq_true, Bool.not_eq_true'] at connected
    rw [RestartedSender.thread, thread_stopped]
    -- of the reasons to leave the loop, only the queue is compatible with the connection
    obtain before | broken | idle | stopped := thread_left invariant.payloads left
    · exact invariant.left position connected.1 before
    · rw [connected.2] at broken
      cases broken
    · rw [invariant.running position] at idle
      cases idle
    · exact stopped
  stopped position := by
    rw [RestartedSender.thread, thread_owner] at position
    rw [RestartedSender.thread, thread_stopped]
    exact invariant.stopped position

theorem CycleInvariant.proceed (positive : 0 < fragmentSize.toNat)
    (invariant : CycleInvariant fragmentSize restarted) :
    CycleInvariant fragmentSize restarted.proceed := by
  have orderly : Orderly restarted.proceed.sender :=
    @Orderly.step n fragmentSize .proceed restarted.sender invariant.orderly
  have payloads : PayloadsIntact fragmentSize restarted.proceed.sender.threads :=
    invariant.payloads.chain (restarted.sender.step_chain .proceed) positive
      invariant.orderly.accounted.counted
  obtain same | camera | queue | ⟨sender, stopped⟩ | ⟨joining, same⟩ :=
    proceed_cases restarted.sender
  · refine ⟨orderly, payloads, ?_, ?_, ?_, ?_, ?_⟩
    · intro position
      rw [RestartedSender.proceed, same] at position
      rw [RestartedSender.proceed, invariant.closed position, Bool.false_and]
    · rw [RestartedSender.proceed, same]
      exact invariant.fresh
    · rw [RestartedSender.proceed, same]
      exact invariant.running
    · intro position connected
      rw [RestartedSender.proceed, same] at position ⊢
      rw [RestartedSender.proceed, Bool.and_eq_true] at connected
      exact invariant.left position connected.1
    · rw [RestartedSender.proceed, same]
      exact invariant.stopped
  · exact .passing orderly payloads (by rw [RestartedSender.proceed, camera]; rfl)
  · exact .passing orderly payloads (by rw [RestartedSender.proceed, queue]; rfl)
  · exact ⟨orderly, payloads, by simp [RestartedSender.proceed, sender],
      by simp [RestartedSender.proceed, sender], by simp [RestartedSender.proceed, sender],
      by simp [RestartedSender.proceed, sender], fun _ => stopped⟩
  · exact ⟨orderly, payloads, by simp [RestartedSender.proceed, same],
      by simp [RestartedSender.proceed, same], by simp [RestartedSender.proceed, same],
      by simp [RestartedSender.proceed, same], fun _ => by
        rw [RestartedSender.proceed, same]
        exact invariant.stopped (.inl joining)⟩

theorem CycleInvariant.openCamera (positive : 0 < fragmentSize.toNat)
    (invariant : CycleInvariant fragmentSize restarted) (opened : Bool) :
    CycleInvariant fragmentSize
      { restarted with sender := restarted.sender.step fragmentSize (.openCamera opened) } := by
  have orderly := @Orderly.step n fragmentSize (.openCamera opened) restarted.sender
    invariant.orderly
  have payloads := invariant.payloads.chain (restarted.sender.step_chain (.openCamera opened))
    positive invariant.orderly.accounted.counted
  obtain ⟨capture, capturing, opened', same⟩ :=
    CameraNetworkSender.openCamera_cases fragmentSize opened restarted.sender
  rw [same] at orderly payloads ⊢
  exact ⟨orderly, payloads, invariant.closed, invariant.fresh, invariant.running, invariant.left,
    invariant.stopped⟩

theorem CycleInvariant.stop (positive : 0 < fragmentSize.toNat)
    (invariant : CycleInvariant fragmentSize restarted) : CycleInvariant fragmentSize
      { restarted with sender := restarted.sender.step fragmentSize .stop } := by
  have orderly := @Orderly.step n fragmentSize .stop restarted.sender invariant.orderly
  have payloads := invariant.payloads.chain (restarted.sender.step_chain .stop) positive
    invariant.orderly.accounted.counted
  by_cases started : restarted.sender.owner = .started
  · exact .passing orderly payloads (by simp [CameraNetworkSender.step, started,
      OwnerPosition.transient])
  · simp only [CameraNetworkSender.step, if_neg started]
    exact invariant

theorem CycleInvariant.destroy (positive : 0 < fragmentSize.toNat)
    (invariant : CycleInvariant fragmentSize restarted) : CycleInvariant fragmentSize
      { restarted with sender := restarted.sender.step fragmentSize .destroy } := by
  have orderly := @Orderly.step n fragmentSize .destroy restarted.sender invariant.orderly
  have payloads := invariant.payloads.chain (restarted.sender.step_chain .destroy) positive
    invariant.orderly.accounted.counted
  by_cases ready : restarted.sender.owner = .constructed ∨ restarted.sender.owner = .stopped
  · refine .passing orderly payloads ?_
    simp only [CameraNetworkSender.step, if_pos ready]
    split <;> rfl
  · simp only [CameraNetworkSender.step, if_neg ready]
    exact invariant

theorem CycleInvariant.step (positive : 0 < fragmentSize.toNat) (action : LifecycleAction)
    (restarted : RestartedSender n) (invariant : CycleInvariant fragmentSize restarted) :
    CycleInvariant fragmentSize (restarted.step fragmentSize action) := by
  cases action with
  | start connects => exact invariant.start positive connects
  | openCamera opened => exact invariant.openCamera positive opened
  | thread action =>
    simp only [RestartedSender.step]
    split
    · exact invariant.thread positive action
    · exact invariant
  | stop => exact invariant.stop positive
  | proceed => exact invariant.proceed positive
  | destroy => exact invariant.destroy positive

end Invariant

/-! ## Serving -/

/-- `sendLoop` has not exited, and a push is not refused. -/
structure Serving (threads : SenderState n) : Prop where
  sending : threads.send ≠ .ended
  accepting : threads.queue.stopped = false

/-- After a `start` that returned `true` and before the next `stop`, on a connection. -/
def Serves (restarted : RestartedSender n) : Prop :=
  restarted.sender.owner = .started → restarted.connected = true → Serving restarted.sender.threads

/-- No `start` makes a second pair of threads. -/
def FirstCycle (action : LifecycleAction) (restarted : RestartedSender n) : Prop :=
  match action, restarted.sender.owner with
  | .start connects, .stopped => connects = true → restarted.sender.joinable = true
  | _, _ => True

/-- A frame pushed to a serving sender is the last one in its queue. -/
theorem Serving.accepts {threads : SenderState n} (serving : Serving threads)
    (frame : SharedFrame n) : (threads.queue.push frame).queue.getLast? = some frame := by
  obtain ⟨stopped, _⟩ | ⟨_, longer, _⟩ | ⟨_, rest, _, _, _, longer, _⟩ :=
    threads.queue.push_cases frame
  · rw [serving.accepting] at stopped
    cases stopped
  · rw [longer, List.getLast?_concat]
  · rw [longer, List.getLast?_concat]

section Serves

variable {fragmentSize : UInt32} {restarted : RestartedSender n}

/-- Only a stopped queue keeps a connected sender from serving. -/
theorem CycleInvariant.serves (invariant : CycleInvariant fragmentSize restarted)
    (accepting : restarted.sender.owner = .started → restarted.connected = true →
      restarted.sender.threads.queue.stopped = false) : Serves restarted := by
  intro started connected
  have unstopped := accepting started connected
  refine ⟨fun ended => ?_, unstopped⟩
  have stopped := invariant.left started connected (ended ▸ .ended)
  rw [unstopped] at stopped
  cases stopped

theorem start_serves_iff (positive : 0 < fragmentSize.toNat)
    (invariant : CycleInvariant fragmentSize restarted) (serves : Serves restarted)
    (connects : Bool) :
    Serves (restarted.start fragmentSize connects) ↔ FirstCycle (.start connects) restarted := by
  have after := invariant.start positive connects
  unfold FirstCycle
  cases position : restarted.sender.owner with
  | constructed =>
    refine iff_of_true (after.serves fun _ _ => ?_) trivial
    have unstopped := (invariant.fresh position).1
    simp only [RestartedSender.start, position, CameraNetworkSender.step, true_and]
    split <;> exact unstopped
  | stopped =>
    have stopped := invariant.stopped (.inr position)
    simp only [RestartedSender.start, position, invariant.closed (.inr position), Bool.false_or]
    split
    · next connected =>
      split
      · next joinable =>
        refine iff_of_true ?_ fun _ => joinable
        intro started
        cases started
      · next unjoinable =>
        -- the new threads find the queue as `stop` left it
        refine iff_of_false (fun serves => ?_) fun joined => unjoinable (joined connected)
        have unstopped := (serves rfl rfl).accepting
        exact absurd (stopped.symm.trans unstopped) Bool.noConfusion
    · next failed => exact iff_of_true serves fun connected => absurd connected failed
  | _ =>
    refine iff_of_true ?_ trivial
    simp only [RestartedSender.start, position]
    exact serves

theorem step_serves_iff (positive : 0 < fragmentSize.toNat) (action : LifecycleAction)
    (restarted : RestartedSender n) (invariant : CycleInvariant fragmentSize restarted)
    (serves : Serves restarted) :
    Serves (restarted.step fragmentSize action) ↔ FirstCycle action restarted := by
  have after := invariant.step positive action restarted
  cases action with
  | start connects => exact start_serves_iff positive invariant serves connects
  | openCamera opened =>
    refine iff_of_true (after.serves ?_) trivial
    obtain ⟨capture, capturing, opened', same⟩ :=
      CameraNetworkSender.openCamera_cases fragmentSize opened restarted.sender
    simp only [RestartedSender.step, same]
    exact fun started connected => (serves started connected).accepting
  | thread action =>
    refine iff_of_true (after.serves ?_) trivial
    simp only [RestartedSender.step]
    split
    · intro started connected
      rw [RestartedSender.thread, thread_owner] at started
      rw [RestartedSender.thread, Bool.and_eq_true] at connected
      rw [RestartedSender.thread, thread_stopped]
      exact (serves started connected.1).accepting
    · exact fun started connected => (serves started connected).accepting
  | stop =>
    refine iff_of_true (after.serves ?_) trivial
    simp only [RestartedSender.step, CameraNetworkSender.step]
    split
    · intro started
      cases started
    · exact fun started connected => (serves started connected).accepting
  | proceed =>
    refine iff_of_true (after.serves ?_) trivial
    simp only [RestartedSender.step, RestartedSender.proceed]
    obtain same | camera | queue | ⟨sender, _⟩ | ⟨_, same⟩ := proceed_cases restarted.sender
    · rw [same]
      intro started connected
      rw [Bool.and_eq_true] at connected
      exact (serves started connected.1).accepting
    · simp [camera]
    · simp [queue]
    · simp [sender]
    · simp [same]
  | destroy =>
    refine iff_of_true (after.serves ?_) trivial
    simp only [RestartedSender.step, CameraNetworkSender.step]
    split
    · intro started
      split at started <;> cases started
    · exact fun started connected => (serves started connected).accepting

end Serves

/-- For every sequence of `start` and `stop` in every interleaving with the two threads: the sender
    serves in all states exactly when no `start` that gets a connection follows a `stop`; where
    the camera was not joined, such a `start` does not return. -/
theorem serves_iff (requested : UInt32) (storage : Fin n → List UInt8)
    (sized : ∀ buffer, (storage buffer).length = bufferSize) (maxSize : Nat)
    (positive : 0 < maxSize) (actions : List LifecycleAction) :
    (∀ earlier later, actions = earlier ++ later →
      Serves (run (RestartedSender.step (RawFrameSender.setFragmentSize requested)) earlier
        (RestartedSender.create (FrameBufferPool.create storage sized) maxSize positive))) ↔
      Admits (RestartedSender.step (RawFrameSender.setFragmentSize requested)) FirstCycle actions
        (RestartedSender.create (FrameBufferPool.create storage sized) maxSize positive) := by
  have fragments := setFragmentSize_positive requested
  have start := @CycleInvariant.create n (RawFrameSender.setFragmentSize requested) storage sized
    maxSize positive
  rw [every_kept_state_iff (CycleInvariant.step fragments) (step_serves_iff fragments) actions _
    start]
  exact and_iff_right nofun

/-- `start` and `stop`, without an image. -/
def oneCycle : List LifecycleAction :=
  [.start true, .openCamera true, .stop, .proceed, .thread .testCapturing, .proceed, .proceed,
    .thread .testRunning, .proceed]

theorem serves_iff_once :
    (∀ earlier later, oneCycle = earlier ++ later →
      Serves (run (RestartedSender.step (RawFrameSender.setFragmentSize 1024)) earlier
        (RestartedSender.create (FrameBufferPool.create blank (@blank_length 16)) 10
          (by decide)))) ↔
      Admits (RestartedSender.step (RawFrameSender.setFragmentSize 1024)) FirstCycle oneCycle
        (RestartedSender.create (FrameBufferPool.create blank (@blank_length 16)) 10
          (by decide)) :=
  serves_iff 1024 blank blank_length 10 (by decide) oneCycle

/-- Behind the second `start`, `sendLoop` finds the queue stopped and exits. -/
theorem second_cycle_refuses :
    ¬ Serves (run (RestartedSender.step (RawFrameSender.setFragmentSize 1024))
      (oneCycle ++ [.start true, .thread .testRunning, .thread .pop])
      (RestartedSender.create (FrameBufferPool.create blank (@blank_length 16)) 10
        (by decide))) := by
  intro serves
  have serving := serves (by decide +kernel) (by decide +kernel)
  exact serving.sending (by rfl)

end PictureReconstruct.App
