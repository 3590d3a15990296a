import PictureReconstruct.Scan.ScanTermination

/-! # A scan that does not time out is completed

* `Flawless`: without a timeout nothing fails, and no worker ends before it is told to.
* `Sound.goes_on`: where the state machine waits for an event, a worker can go on.
* `scan_completes`: so the scan gets to the end of its task without a timeout.
-/

namespace PictureReconstruct.Scan

open Library.Runs ProcessController

/-- No failure was reported, and a worker that has ended was told to. -/
structure Flawless (controller : ProcessController) : Prop where
  printed : ∀ msg, .failed msg ∉ controller.log
  state : controller.state ≠ .error
  /-- with both events the wait is over -/
  pending : controller.position ≠ .collecting true true
  ended : ∀ device, (controller.worker device).position = .ended →
    (controller.worker device).cmdQ.stopped = true ∨
      ∃ cmd ∈ issuedTo device controller.log, cmd.type = .stop

section Steps

variable {segments : List Segment} {stage : Stage} {controller after : ProcessController}
  {evt : Event} {rest : ThreadSafeQueue Event}

/-- A step of the state machine that reports nothing. -/
theorem Flawless.grows (flawless : Flawless controller) (more : List Observation)
    (log : after.log = controller.log ++ more) (silent : ∀ msg, .failed msg ∉ more)
    (state : after.state ≠ .error) (pending : after.position ≠ .collecting true true)
    (positions : ∀ device, (after.worker device).position = (controller.worker device).position)
    (flags : ∀ device, (controller.worker device).cmdQ.stopped = true →
      (after.worker device).cmdQ.stopped = true) : Flawless after where
  printed msg member := by
    rw [log] at member
    cases List.mem_append.mp member with
    | inl earlier => exact flawless.printed msg earlier
    | inr last => exact silent msg last
  state := state
  pending := pending
  ended device ended := by
    rw [positions] at ended
    cases flawless.ended device ended with
    | inl stopped => exact .inl (flags device stopped)
    | inr told =>
      obtain ⟨cmd, member, stop⟩ := told
      refine .inr ⟨cmd, ?_, stop⟩
      rw [log, issuedTo, List.filterMap_append]
      exact List.mem_append_left _ member

/-- The state machine itself moves. -/
theorem Flawless.jumps (flawless : Flawless controller) (more : List Observation)
    (log : after.log = controller.log ++ more) (silent : ∀ msg, .failed msg ∉ more)
    (state : after.state ≠ .error) (pending : after.position ≠ .collecting true true)
    (workers : after.worker = controller.worker) : Flawless after :=
  flawless.grows more log silent state pending (fun device => by rw [workers])
    fun device stopped => by rw [workers, stopped]

theorem issue_position (controller : ProcessController) (device device' : Device)
    (cmd : Command) : ((controller.issue device cmd).worker device').position =
      (controller.worker device').position := by
  by_cases same : device' = device
  · subst same
    simp [ProcessController.issue, setCmdQ, ProcessController.setWorker]
  · simp [ProcessController.issue, setCmdQ, ProcessController.setWorker, same]

theorem Flawless.issues (flawless : Flawless controller) {device : Device} {cmd : Command}
    (workers : after.worker = (controller.issue device cmd).worker)
    (log : after.log = controller.log ++ [.issued device cmd]) (state : after.state ≠ .error)
    (pending : after.position ≠ .collecting true true) : Flawless after := by
  refine flawless.grows _ log (fun msg member => ?_) state pending (fun device' => ?_)
    fun device' stopped => ?_
  · cases List.mem_singleton.mp member
  · rw [workers, issue_position]
  · rw [workers, issue_stopped, stopped]

/-- What is reported behind an event is none of the timeouts, and cannot come in a sound state. -/
theorem Sound.expects (sound : Sound segments stage controller) {observation : Observation}
    (last : controller.log.getLast? = some observation) : Expected observation :=
  sound.expected _ (List.mem_of_getLast? last)

/-- Before `stopAllWorkers`, a wait without a timeout ends with an event only. -/
theorem waitAndPopFor_patient {queue : ThreadSafeQueue Event} (flowing : queue.stopped = false) :
    queue.waitAndPopFor false = .waits ∨
    ∃ value rest, queue.queue = value :: rest.queue ∧ queue.waitAndPopFor false =
      .value value rest := by
  unfold ThreadSafeQueue.waitAndPopFor
  cases queue.queue with
  | nil => exact .inl (by simp [flowing])
  | cons value rest => exact .inr ⟨value, { queue with queue := rest }, rfl, rfl⟩

/-- An event that `WaitPlatformArrived` consumes is the one it waits for. -/
theorem Flawless.platformArrived (flawless : Flawless controller)
    (position : controller.position = .switching)
    (sound : Sound segments stage ((controller.consume evt rest).platformArrived evt)) :
    Flawless ((controller.consume evt rest).platformArrived evt) := by
  unfold ProcessController.platformArrived at sound ⊢
  split
  · next other =>
    rw [if_pos other] at sound
    exact (sound.expects List.getLast?_concat).elim
  · next same =>
    rw [if_neg same] at sound
    split
    · refine flawless.jumps [.consumed evt] rfl (by simp) (by simp) ?_ rfl
      simp [consume, position]
    · next wrong =>
      rw [if_neg wrong] at sound
      have timeout := sound.expects List.getLast?_concat
      simp [Expected] at timeout

theorem Flawless.shutterClosed (flawless : Flawless controller)
    (position : controller.position = .switching)
    (sound : Sound segments stage ((controller.consume evt rest).shutterClosed evt)) :
    Flawless ((controller.consume evt rest).shutterClosed evt) := by
  unfold ProcessController.shutterClosed at sound ⊢
  split
  · next other =>
    rw [if_pos other] at sound
    exact (sound.expects List.getLast?_concat).elim
  · next same =>
    rw [if_neg same] at sound
    split
    · refine flawless.jumps [.consumed evt] rfl (by simp) ?_ ?_ rfl
      · simp only
        split <;> simp
      · simp [consume, position]
    · next wrong =>
      rw [if_neg wrong] at sound
      have timeout := sound.expects List.getLast?_concat
      simp [Expected] at timeout

theorem Flawless.collect {captureDone shutterOpened : Bool} (flawless : Flawless controller)
    (state : controller.state = .waitCaptureDone)
    (sound : Sound segments stage
      ((controller.consume evt rest).collect captureDone shutterOpened evt)) :
    Flawless ((controller.consume evt rest).collect captureDone shutterOpened evt) := by
  have collected : ∀ captureDone shutterOpened,
      Flawless ((controller.consume evt rest).collected captureDone shutterOpened) := by
    intro captureDone shutterOpened
    unfold ProcessController.collected
    split
    · exact flawless.jumps [.consumed evt] rfl (by simp) (by simp) (by simp) rfl
    · next missing =>
      refine flawless.jumps [.consumed evt] rfl (by simp) (by simp [consume, state]) ?_ rfl
      simp only [ne_eq, FsmPosition.collecting.injEq, not_and]
      rintro rfl rfl
      exact missing rfl
  unfold ProcessController.collect at sound ⊢
  split
  · next other =>
    rw [if_pos other] at sound
    exact (sound.expects List.getLast?_concat).elim
  · next same =>
    rw [if_neg same] at sound
    cases type : evt.type with
    | captureFailed | shutterFailed =>
      rw [type] at sound
      have timeout := sound.expects List.getLast?_concat
      simp [Expected] at timeout
    | _ => exact collected _ _

theorem Flawless.switch (flawless : Flawless controller) (sound : Sound segments stage controller)
    (running : controller.running = true) (position : controller.position = .switching) :
    Flawless (controller.switch false) := by
  -- what the state machine makes of an event is sound again, so no failure is reported
  obtain ⟨stage', after⟩ := sound.fsmStep false
  have same : controller.fsmStep false = controller.switch false := by
    simp only [ProcessController.fsmStep, position, running, if_true]
  rw [same] at after
  have unstopped := fun unfinished => sound.unstopped unfinished flawless.state
  have still : controller.position ≠ .collecting true true := flawless.pending
  have unfailed : ∀ msg, (.failed msg : Observation) ∉ [] := fun _ => List.not_mem_nil
  unfold ProcessController.switch at after ⊢
  cases state : controller.state with
  | taskLoaded =>
    simp only
    split
    · exact flawless.jumps [] (List.append_nil _).symm unfailed (by simp) still rfl
    · exact flawless.jumps [] (List.append_nil _).symm unfailed (by simp) still rfl
  | moveToPoint => exact flawless.issues rfl rfl (by simp) still
  | waitPlatformArrived =>
    simp only [state] at after ⊢
    obtain waits | ⟨evt, rest, _, pops⟩ :=
      waitAndPopFor_patient (unstopped (by simp [state])).eventQ
    · rw [waits]
      exact flawless
    · rw [pops] at after ⊢
      exact flawless.platformArrived position after
  | openShutterAndCapture => exact flawless.issues rfl rfl (by simp [state, issue, setCmdQ,
      ProcessController.setWorker]) (by simp)
  | waitCaptureDone =>
    exact flawless.jumps [] (List.append_nil _).symm unfailed (by simp) (by simp) rfl
  | closeShutter => exact flawless.issues rfl rfl (by simp) still
  | segmentFinished =>
    simp only [state] at after ⊢
    obtain waits | ⟨evt, rest, _, pops⟩ :=
      waitAndPopFor_patient (unstopped (by simp [state])).eventQ
    · rw [waits]
      exact flawless
    · rw [pops] at after ⊢
      exact flawless.shutterClosed position after
  | taskFinished =>
    exact flawless.jumps [] (List.append_nil _).symm unfailed (by simp) (by simp) rfl
  | error => exact absurd state flawless.state
  | idle =>
    simp only [state] at after
    have timeout := after.expects List.getLast?_concat
    simp [Expected] at timeout

theorem Flawless.stopAllWorkers (flawless : Flawless controller) (steps : Nat) :
    Flawless (controller.stopAllWorkers steps) := by
  have unfailed : ∀ msg, (.failed msg : Observation) ∉ [] := fun _ => List.not_mem_nil
  have issues : ∀ (device : Device) (position : FsmPosition), position ≠ .collecting true true →
      Flawless { controller.issue device { type := .stop } with position } :=
    fun device position pending => flawless.issues rfl rfl flawless.state pending
  have stops : ∀ (device : Device) (position : FsmPosition), position ≠ .collecting true true →
      Flawless { controller.setCmdQ device (controller.worker device).cmdQ.stop with
        position } := by
    intro device position pending
    refine flawless.grows [] (List.append_nil _).symm unfailed flawless.state pending
      (fun device' => ?_) fun device' stopped => ?_
    · by_cases same : device' = device
      · subst same
        simp [setCmdQ, ProcessController.setWorker]
      · simp [setCmdQ, ProcessController.setWorker, same]
    · by_cases same : device' = device
      · subst same
        simp [setCmdQ, ProcessController.setWorker, ThreadSafeQueue.stop]
      · simpa [setCmdQ, ProcessController.setWorker, same] using stopped
  obtain ⟨device, _, same⟩ | ⟨device, _, same⟩ | ⟨_, same⟩ :=
    controller.stopAllWorkers_cases steps
  · rw [same]
    exact issues device _ (by simp)
  · rw [same]
    exact stops device _ (by simp)
  · rw [same]
    exact flawless.jumps [] (List.append_nil _).symm unfailed flawless.state (by simp) rfl

theorem Flawless.fsmStep (flawless : Flawless controller)
    (sound : Sound segments stage controller) : Flawless (controller.fsmStep false) := by
  obtain ⟨stage', after⟩ := sound.fsmStep false
  have unfailed : ∀ msg, (.failed msg : Observation) ∉ [] := fun _ => List.not_mem_nil
  unfold ProcessController.fsmStep at after ⊢
  cases position : controller.position with
  | starting => exact flawless.jumps [] (List.append_nil _).symm unfailed (by simp) (by simp) rfl
  | switching =>
    simp only
    split
    · next running => exact flawless.switch sound running position
    · exact flawless.jumps [] (List.append_nil _).symm unfailed flawless.state (by simp) rfl
  | triggering => exact flawless.issues rfl rfl (by simp) (by simp)
  | collecting captureDone shutterOpened =>
    have state : controller.state = .waitCaptureDone := by
      cases sound.place with
      | collecting _ state => exact state
      | starting place | loaded place | move place | wait place | trigger place | triggering place
      | collect place | close place | finish place => cases position.symm.trans place
      | finished outer | error outer =>
        rw [position] at outer
        cases outer
    simp only [position, Bool.false_eq_true, if_false] at after ⊢
    split
    · exact flawless
    · exact flawless
    · next evt rest pops =>
      rw [pops] at after
      exact flawless.collect state after
  | stopping steps => exact flawless.stopAllWorkers steps
  | ended => exact flawless

/-- A worker ends at `Stop`, or because its queue is stopped. -/
theorem Flawless.setWorker (flawless : Flawless controller) {device : Device} {worker : Worker}
    {eventQ : ThreadSafeQueue Event}
    (ended : worker.position = .ended → worker.cmdQ.stopped = true ∨
      ∃ cmd ∈ issuedTo device controller.log, cmd.type = .stop) :
    Flawless { controller.setWorker device worker with eventQ } where
  printed := flawless.printed
  state := flawless.state
  pending := flawless.pending
  ended := forall_setWorker (fun device worker => worker.position = .ended →
    worker.cmdQ.stopped = true ∨ ∃ cmd ∈ issuedTo device controller.log, cmd.type = .stop)
    flawless.ended ended

theorem Flawless.step (flawless : Flawless controller) (sound : Sound segments stage controller)
    {action : Action} (patient : action ≠ .fsm true) : Flawless (step action controller) := by
  cases action with
  | fsm timedOut =>
    cases timedOut with
    | true => exact absurd rfl patient
    | false => exact flawless.fsmStep sound
  | pop device =>
    obtain same | ⟨cmd, rest, _, _, same⟩ | ⟨_, ⟨_, stopped⟩, same⟩ :=
      controller.popStep_cases device
    · rw [Scan.step, same]
      exact flawless
    · rw [Scan.step, same]
      exact flawless.setWorker (by simp)
    · rw [Scan.step, same]
      exact flawless.setWorker fun _ => .inl stopped
  | execute device =>
    obtain same | ⟨cmd, eventQ, position, _, same⟩ := controller.executeStep_cases device
    · rw [Scan.step, same]
      exact flawless
    · rw [Scan.step, same]
      refine flawless.setWorker fun ended => .inr ⟨cmd, ?_, ?_⟩
      · rw [sound.accounted.issued, Worker.inFlight, position]
        exact List.mem_append_right _ List.mem_cons_self
      · by_contra working
        simp [working] at ended

/-! ## Who waits is not alone -/

/-- A command whose event is missing and not in the queue is still with its worker. -/
theorem Sound.inFlight (sound : Sound segments stage controller) {device : Device}
    (missing : stage.missing controller.segment device ≠ [])
    (nothing : controller.eventQ.queue = []) : (controller.worker device).inFlight ≠ [] := by
  intro idle
  have issued := sound.underway.issued device
  have events := sound.accounted.events device
  rw [sound.accounted.issued, idle, List.append_nil] at issued
  rw [nothing, List.append_nil, sound.underway.consumed,
    ← answers_work device (controller.worker device).executed, issued,
    answers_append device (_ ++ _)] at events
  have unanswered : answers device (stage.missing controller.segment device) = [] :=
    List.self_eq_append_right.mp events
  have known : Known device (stage.missing controller.segment device) := by
    intro cmd member
    refine known_visits controller.segments device cmd
      ((sound.underway.issued_prefix device).subset ?_)
    rw [sound.underway.issued]
    exact List.mem_append_right _ member
  have lengths := known.length_answers
  rw [unanswered, List.length_nil] at lengths
  exact missing (List.eq_nil_of_length_eq_zero lengths.symm)

theorem Sound.goes_on (sound : Sound segments stage controller) (flawless : Flawless controller)
    (unstopped : Unstopped controller) {device : Device}
    (missing : stage.missing controller.segment device ≠ [])
    (nothing : controller.eventQ.queue = []) :
    controller.popReady device = true ∨ controller.executes device = true := by
  have inFlight := sound.inFlight missing nothing
  cases position : (controller.worker device).position with
  | popping =>
    rw [Worker.inFlight, position] at inFlight
    exact .inl (by simpa [popReady, position, WorkerPosition.commands] using .inl inFlight)
  | executing cmd => exact .inr (by simp [executes, position])
  | ended =>
    cases flawless.ended device position with
    | inl stopped =>
      rw [unstopped.queues] at stopped
      cases stopped
    | inr told =>
      obtain ⟨cmd, member, stop⟩ := told
      exact absurd stop (unstopped.commands device cmd member)

/-- Without a timeout, the thread of the state machine waits for an event only where one comes. -/
theorem Sound.fsm_ended (sound : Sound segments stage controller) (flawless : Flawless controller)
    (still : controller.fsmReady false ≠ true)
    (waits : ∀ device, controller.popReady device ≠ true)
    (idle : ∀ device, controller.executes device ≠ true) : controller.position = .ended := by
  have goes_on : ∀ device, controller.eventQ.queue = [] → controller.state ≠ .taskFinished →
      stage.missing controller.segment device = [] := by
    intro device nothing unfinished
    by_contra missing
    cases sound.goes_on flawless (sound.unstopped unfinished flawless.state) missing nothing with
    | inl pops => exact waits device pops
    | inr executes => exact idle device executes
  unfold fsmReady at still
  cases place : sound.place with
  | wait position state =>
    have nothing : controller.eventQ.queue = [] := by
      simp only [position, state] at still
      split at still <;> simp_all
    -- the command to the platform has no event yet
    cases goes_on .platform nothing (by simp [state])
  | finish position state =>
    have nothing : controller.eventQ.queue = [] := by
      simp only [position, state] at still
      split at still <;> simp_all
    cases goes_on .shutter nothing (by simp [state])
  | @collecting captureDone shutterOpened position state =>
    have nothing : controller.eventQ.queue = [] := by
      simpa [position] using still
    have shutter := goes_on .shutter nothing (by simp [state])
    have camera := goes_on .camera nothing (by simp [state])
    have pending := flawless.pending
    cases captureDone <;> cases shutterOpened <;> simp_all [Stage.missing]
  | starting position state | loaded position state | move position state
  | trigger position state | triggering position state | collect position state
  | close position state => simp [position, state] at still
  | finished outer state =>
    cases position : controller.position with
    | ended => rfl
    | switching | stopping _ => simp [position, state] at still
    | starting | triggering | collecting _ _ =>
      rw [position] at outer
      cases outer
  | error _ state => exact absurd state flawless.state

end Steps

/-- The whole task is done: all is as `ShutterSafe` wants it at the end, and nothing has failed. -/
structure Completed (segments : List Segment) (controller : ProcessController) : Prop where
  ended : Ended controller
  state : controller.state = .taskFinished
  printed : ∀ msg, .failed msg ∉ controller.log
  moved : work (controller.worker .platform).executed = segments.map movePlatform
  captured : work (controller.worker .camera).executed = segments.map captureImage
  exposed : work (controller.worker .shutter).executed =
    segments.flatMap fun segment => [openShutter segment, closeShutter segment]

/-- However the four threads are scheduled without a timeout: where nothing but a timeout could
    happen, the scan is completed, so none is ever needed. -/
theorem scan_completes (segments : List Segment) (actions : List Action)
    (patient : ∀ action ∈ actions, action ≠ .fsm true)
    (still : ∀ action, action ≠ .fsm true →
      ¬ Enabled (.action action) (run step actions (create segments))) :
    Completed segments (run step actions (create segments)) := by
  have kept : (∃ stage, Sound segments stage (run step actions (create segments))) ∧
      Flawless (run step actions (create segments)) :=
    run_keeps_of
      (I := fun controller => (∃ stage, Sound segments stage controller) ∧ Flawless controller)
      (fun action _ (patient : action ≠ .fsm true) ⟨⟨_, sound⟩, flawless⟩ =>
        ⟨sound.step action, flawless.step sound patient⟩) actions _ patient
      ⟨⟨_, Sound.create segments⟩, ⟨nofun, by simp [create], by simp [create], nofun⟩⟩
  have hungUp : HungUp (run step actions (create segments)) := by
    rw [← run_faultyStep]
    exact run_keeps (fun action _ hungUp => hungUp.step action) _ _ (.create segments)
  obtain ⟨⟨stage, sound⟩, flawless⟩ := kept
  have waits := fun device => still (.pop device) (by simp)
  have idle := fun device => still (.execute device) (by simp)
  have ended := sound.fsm_ended flawless (still (.fsm false) (by simp)) waits idle
  have state : (run step actions (create segments)).state = .taskFinished := by
    cases sound.place with
    | finished _ state => exact state
    | error _ state => exact absurd state flawless.state
    | starting place | loaded place | move place | wait place | trigger place | triggering place
    | collect place | collecting place | close place | finish place =>
      cases ended.symm.trans place
  obtain ⟨moved, captured, exposed⟩ := sound.safe.finished state
  exact ⟨⟨ended, fun device => hungUp.workers_ended ended device (waits device) (idle device)⟩,
    state, flawless.printed, moved, captured, exposed⟩

theorem scan_completes_succeeding :
    Completed [{ id := 1 }] (run step succeedingCapture (create [{ id := 1 }])) := by
  refine scan_completes [{ id := 1 }] succeedingCapture (by simp [succeedingCapture]) ?_
  intro action patient
  cases action with
  | fsm timedOut => cases timedOut <;> decide
  | pop device => cases device <;> decide
  | execute device => cases device <;> decide

end PictureReconstruct.Scan
