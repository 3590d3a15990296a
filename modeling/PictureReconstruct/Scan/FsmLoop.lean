import PictureReconstruct.Library.History
import PictureReconstruct.Scan.SegmentStages

/-! # `fsmLoop` from stage to stage

* `At`: where the thread of the state machine is at a stage.
* `Sound`: in every state, the thread is at the stage that the log is at.
* `Sound.step`: one lemma for each state of the machine, and from them every step of every thread.
-/

namespace PictureReconstruct.Scan

open Library.History

/-! ## Every state -/

/-- The position is outside of the states that issue or wait. -/
def FsmPosition.Outer : FsmPosition → Prop
  | switching | stopping _ | ended => True
  | _ => False

/-- Where the thread of the state machine is when it has come to the stage. -/
inductive At (controller : ProcessController) : Stage → Prop
  | starting (position : controller.position = .starting) (state : controller.state = .idle)
      (first : controller.currentIndex = 0) : At controller .between
  | loaded (position : controller.position = .switching) (state : controller.state = .taskLoaded)
      (first : controller.currentIndex = 0) : At controller .between
  | move (position : controller.position = .switching) (state : controller.state = .moveToPoint)
      (inside : controller.currentIndex < controller.segments.length) : At controller .between
  | wait (position : controller.position = .switching)
      (state : controller.state = .waitPlatformArrived) : At controller .moving
  | trigger (position : controller.position = .switching)
      (state : controller.state = .openShutterAndCapture) : At controller .arrived
  | triggering (position : controller.position = .triggering)
      (state : controller.state = .openShutterAndCapture) : At controller .opening
  | collect (position : controller.position = .switching)
      (state : controller.state = .waitCaptureDone) : At controller (.collecting false false)
  | collecting {captureDone shutterOpened : Bool}
      (position : controller.position = .collecting captureDone shutterOpened)
      (state : controller.state = .waitCaptureDone) :
      At controller (.collecting captureDone shutterOpened)
  | close (position : controller.position = .switching)
      (state : controller.state = .closeShutter) : At controller .collected
  | finish (position : controller.position = .switching)
      (state : controller.state = .segmentFinished) : At controller .closing
  | finished (outer : controller.position.Outer) (state : controller.state = .taskFinished)
      (all : controller.currentIndex = controller.segments.length) : At controller .between
  | error {stage : Stage} (outer : controller.position.Outer) (state : controller.state = .error) :
      At controller stage

/-- What may be in the log: no error but a timeout, and no event that is not expected. -/
def Expected : Observation → Prop
  | .issued _ _ | .consumed _ => True
  | .failed msg => msg ∈ ["WaitPlatformArrived timeout", "WaitCaptureDone timeout",
      "WaitShutterClosed timeout"]
  | .unexpected _ _ => False

structure Sound (segments : List Segment) (stage : Stage) (controller : ProcessController) :
    Prop where
  scanned : controller.segments = segments
  place : At controller stage
  accounted : Accounted controller
  underway : Underway stage controller
  unstopped : controller.state ≠ .taskFinished → controller.state ≠ .error → Unstopped controller
  justified : Justified (Collected segments) controller.log
  expected : ∀ observation ∈ controller.log, Expected observation

section Steps

variable {segments : List Segment} {stage next : Stage} {controller : ProcessController}
  {state : FsmState} {position : FsmPosition} {device : Device} {cmd : Command} {evt : Event}
  {rest : ThreadSafeQueue Event}

theorem expected_snoc {log : List Observation} {observation : Observation}
    (expected : ∀ earlier ∈ log, Expected earlier) (last : Expected observation) :
    ∀ other ∈ log ++ [observation], Expected other := by
  intro other member
  cases List.mem_append.mp member with
  | inl earlier => exact expected other earlier
  | inr new => exact List.mem_singleton.mp new ▸ last

/-- Only the state machine itself moves. -/
theorem Sound.jump (sound : Sound segments stage controller)
    (active : state ≠ .taskFinished → state ≠ .error → Unstopped controller)
    (place : At { controller with state, position } stage) :
    Sound segments stage { controller with state, position } where
  scanned := sound.scanned
  place := place
  accounted := sound.accounted.placed controller.currentIndex state position
  underway := ⟨sound.underway.inside, sound.underway.issued, sound.underway.consumed⟩
  unstopped unfinished working :=
    (active unfinished working).placed controller.currentIndex state position
  justified := sound.justified
  expected := sound.expected

theorem Sound.print (sound : Sound segments stage controller) {msg : String}
    (timeout : Expected (.failed msg)) :
    Sound segments stage { controller.handleError msg with position := .switching } where
  scanned := sound.scanned
  place := .error trivial rfl
  accounted := (sound.accounted.print (.failed msg) (fun _ => rfl) rfl).placed _ _ _
  underway :=
    { inside := sound.underway.inside
      issued := fun device => by
        simp only [ProcessController.handleError, issuedTo_snoc, Observation.issuedTo,
          Option.toList_none, List.append_nil]
        exact sound.underway.issued device
      consumed := fun device => by
        simp only [ProcessController.handleError, consumed_snoc, Observation.consumedEvent,
          Option.toList_none, List.append_nil]
        exact sound.underway.consumed device }
  unstopped _ erring := absurd rfl erring
  justified := justified_snoc.mpr ⟨sound.justified, trivial⟩
  expected := expected_snoc sound.expected timeout

theorem Sound.timeout (sound : Sound segments stage controller)
    (switching : controller.position = .switching) {msg : String}
    (timeout : Expected (.failed msg)) : Sound segments stage (controller.handleError msg) := by
  have failed := sound.print timeout
  rw [← switching] at failed
  exact failed

theorem Sound.issue (sound : Sound segments stage controller) (unstopped : Unstopped controller)
    (working : cmd.type ≠ .stop)
    (inside : controller.currentIndex < controller.segments.length)
    (answered : ∀ device', next.answered controller.segment device' =
      stage.answered controller.segment device')
    (missing : ∀ device', next.missing controller.segment device' =
      stage.missing controller.segment device' ++ if device = device' then [cmd] else [])
    (allowed : Collected segments controller.log (.issued device cmd))
    (place : At { controller.issue device cmd with state, position } next) :
    Sound segments next { controller.issue device cmd with state, position } where
  scanned := sound.scanned
  place := place
  accounted := sound.accounted.issue.placed _ _ _
  underway :=
    have underway := sound.underway.issue working inside answered missing
    ⟨underway.inside, underway.issued, underway.consumed⟩
  unstopped _ _ := (unstopped.issue working).placed _ _ _
  justified := justified_snoc.mpr ⟨sound.justified, allowed⟩
  expected := expected_snoc sound.expected trivial

theorem Sound.consume (sound : Sound segments stage controller) (unstopped : Unstopped controller)
    (head : controller.eventQ.queue = evt :: rest.queue)
    (flag : rest.stopped = controller.eventQ.stopped) (index : Nat)
    (underway : Underway next { controller.consume evt rest with currentIndex := index })
    (place : At { controller.consume evt rest with currentIndex := index, state, position } next) :
    Sound segments next
      { controller.consume evt rest with currentIndex := index, state, position } where
  scanned := sound.scanned
  place := place
  accounted := (sound.accounted.consume head).placed _ _ _
  underway := ⟨underway.inside, underway.issued, underway.consumed⟩
  unstopped _ _ := (unstopped.consume head (flag.trans unstopped.eventQ)).placed _ _ _
  justified := justified_snoc.mpr ⟨sound.justified, trivial⟩
  expected := expected_snoc sound.expected trivial

/-! ### The steps of the state machine -/

theorem Sound.starting (sound : Sound segments .between controller)
    (unstopped : Unstopped controller) (first : controller.currentIndex = 0) :
    Sound segments .between { controller with state := .taskLoaded, position := .switching } :=
  sound.jump (fun _ _ => unstopped) (.loaded rfl rfl first)

theorem Sound.loaded (sound : Sound segments .between controller)
    (unstopped : Unstopped controller) (position : controller.position = .switching)
    (state : controller.state = .taskLoaded) (first : controller.currentIndex = 0)
    (timedOut : Bool) : Sound segments .between (controller.switch timedOut) := by
  unfold ProcessController.switch
  simp only [state]
  split
  · next empty =>
    have all : controller.currentIndex = controller.segments.length := by
      rw [first, List.isEmpty_iff.mp empty, List.length_nil]
    exact sound.jump (fun unfinished => absurd rfl unfinished)
      (.finished (by rw [position]; trivial) rfl all)
  · next filled =>
    have inside : controller.currentIndex < controller.segments.length := by
      rw [first]
      exact List.length_pos_of_ne_nil fun empty => filled (by rw [empty]; rfl)
    rw [← first]
    exact sound.jump (fun _ _ => unstopped) (.move position rfl inside)

theorem Sound.move (sound : Sound segments .between controller)
    (unstopped : Unstopped controller) (position : controller.position = .switching)
    (state : controller.state = .moveToPoint)
    (inside : controller.currentIndex < controller.segments.length)
    (timedOut : Bool) : Sound segments .moving (controller.switch timedOut) := by
  unfold ProcessController.switch
  simp only [state]
  apply sound.issue unstopped (by simp) inside
  · exact fun _ => rfl
  · intro device
    cases device <;> rfl
  · exact fun absurd => CommandType.noConfusion absurd
  · exact .wait position rfl

/-- Each wait ends with nothing new, with a timeout or with an event. -/
theorem Sound.wait (sound : Sound segments .moving controller)
    (unstopped : Unstopped controller) (position : controller.position = .switching)
    (state : controller.state = .waitPlatformArrived) (timedOut : Bool) :
    ∃ stage, Sound segments stage (controller.switch timedOut) := by
  have inside := sound.underway.inside.resolve_left Stage.noConfusion
  unfold ProcessController.switch
  simp only [state]
  obtain same | same | ⟨evt, rest, head, flag, same⟩ :=
    controller.eventQ.waitAndPopFor_cases timedOut
  · rw [same]
    exact ⟨_, sound⟩
  · rw [same]
    exact ⟨_, sound.timeout position (by simp [Expected])⟩
  · rw [same]
    -- the only answer that is missing is that of the platform
    obtain ⟨device, more, next⟩ := sound.underway.next_answer sound.accounted unstopped head
    obtain rfl := moving_event next
    refine ⟨.arrived, ?_⟩
    have underway : Underway .arrived (controller.consume
        ⟨.platformArrived, controller.segment.id, "Platform arrived"⟩ rest) := by
      apply sound.underway.consume inside
      · intro device
        cases device <;> rfl
      · intro device
        cases device <;> rfl
    simp only [ProcessController.platformArrived]
    rw [if_neg fun other => other rfl, if_pos trivial]
    exact sound.consume unstopped head flag controller.currentIndex underway
      (.trigger position rfl)

theorem Sound.trigger (sound : Sound segments .arrived controller)
    (unstopped : Unstopped controller) (state : controller.state = .openShutterAndCapture)
    (timedOut : Bool) : Sound segments .opening (controller.switch timedOut) := by
  have inside := sound.underway.inside.resolve_left Stage.noConfusion
  unfold ProcessController.switch
  simp only [state]
  apply sound.issue unstopped (by simp) inside
  · intro device
    cases device <;> rfl
  · intro device
    cases device <;> rfl
  · exact fun absurd => CommandType.noConfusion absurd
  · exact .triggering rfl state

theorem Sound.triggering (sound : Sound segments .opening controller)
    (unstopped : Unstopped controller) :
    Sound segments (.collecting false false)
      { controller.issue .camera (captureImage controller.segment) with
        state := .waitCaptureDone
        position := .switching } := by
  apply sound.issue unstopped (by simp [captureImage])
    (sound.underway.inside.resolve_left Stage.noConfusion)
  · intro device
    cases device <;> rfl
  · intro device
    cases device <;> rfl
  · exact fun absurd => CommandType.noConfusion absurd
  · exact .collect rfl rfl

/-- Behind an event that was missing, the controller goes on to wait or to close the shutter. -/
theorem Sound.collected {captureDone shutterOpened captureDone' shutterOpened' : Bool}
    (sound : Sound segments (.collecting captureDone shutterOpened) controller)
    (unstopped : Unstopped controller) (state : controller.state = .waitCaptureDone)
    (head : controller.eventQ.queue = evt :: rest.queue)
    (flag : rest.stopped = controller.eventQ.stopped)
    (same : ∀ device,
      (Stage.collecting captureDone' shutterOpened').answered controller.segment device ++
        (Stage.collecting captureDone' shutterOpened').missing controller.segment device =
      (Stage.collecting captureDone shutterOpened).answered controller.segment device ++
        (Stage.collecting captureDone shutterOpened).missing controller.segment device)
    (answered : ∀ device, answers device
        ((Stage.collecting captureDone' shutterOpened').answered controller.segment device) =
      answers device ((Stage.collecting captureDone shutterOpened).answered controller.segment
        device) ++ eventsFrom device [evt]) :
    ∃ stage, Sound segments stage
      ((controller.consume evt rest).collected captureDone' shutterOpened') := by
  have inside := sound.underway.inside.resolve_left Stage.noConfusion
  have underway : Underway (.collecting captureDone' shutterOpened')
      (controller.consume evt rest) := sound.underway.consume inside same answered
  unfold ProcessController.collected
  -- with both events the stage is the next one, under another name
  by_cases both : (captureDone' && shutterOpened') = true
  · rw [if_pos both]
    obtain ⟨rfl, rfl⟩ := (Bool.and_eq_true _ _).mp both
    have done : Underway .collected (controller.consume evt rest) := by
      refine ⟨.inr inside, fun device => ?_, fun device => ?_⟩
      · rw [underway.issued]
        cases device <;> rfl
      · rw [underway.consumed]
        cases device <;> rfl
    exact ⟨_, sound.consume unstopped head flag controller.currentIndex done (.close rfl rfl)⟩
  · rw [if_neg both]
    exact ⟨_, sound.consume unstopped head flag controller.currentIndex underway
      (.collecting rfl state)⟩

theorem Sound.collecting {captureDone shutterOpened : Bool}
    (sound : Sound segments (.collecting captureDone shutterOpened) controller)
    (unstopped : Unstopped controller)
    (position : controller.position = .collecting captureDone shutterOpened)
    (state : controller.state = .waitCaptureDone) (timedOut : Bool) :
    ∃ stage, Sound segments stage (controller.fsmStep timedOut) := by
  unfold ProcessController.fsmStep
  simp only [position]
  cases timedOut with
  | true => exact ⟨_, sound.print (by simp [Expected])⟩
  | false =>
    simp only [Bool.false_eq_true, if_false]
    obtain same | same | ⟨evt, rest, head, flag, same⟩ :=
      controller.eventQ.waitAndPopFor_cases true
    · rw [same]
      exact ⟨_, sound⟩
    · rw [same]
      exact ⟨_, sound⟩
    · rw [same]
      obtain ⟨device, more, next⟩ := sound.underway.next_answer sound.accounted unstopped head
      simp only [ProcessController.collect]
      -- the two events may come in either order
      obtain ⟨rfl, rfl⟩ | ⟨rfl, rfl⟩ := collecting_event next
      · rw [if_neg fun other => other rfl]
        apply sound.collected unstopped state head flag
        · intro device
          cases device <;> rfl
        · intro device
          cases captureDone <;> cases device <;> rfl
      · rw [if_neg fun other => other rfl]
        apply sound.collected unstopped state head flag
        · intro device
          cases device <;> rfl
        · intro device
          cases shutterOpened <;> cases device <;> rfl

theorem Sound.close (sound : Sound segments .collected controller)
    (unstopped : Unstopped controller) (position : controller.position = .switching)
    (state : controller.state = .closeShutter) (timedOut : Bool) :
    Sound segments .closing (controller.switch timedOut) := by
  have inside := sound.underway.inside.resolve_left Stage.noConfusion
  unfold ProcessController.switch
  simp only [state]
  apply sound.issue unstopped (by simp) inside
  · intro device
    cases device <;> rfl
  · intro device
    cases device <;> rfl
  · exact sound.scanned ▸ sound.underway.collected inside
  · exact .finish position rfl

theorem Sound.finish (sound : Sound segments .closing controller)
    (unstopped : Unstopped controller) (position : controller.position = .switching)
    (state : controller.state = .segmentFinished) (timedOut : Bool) :
    ∃ stage, Sound segments stage (controller.switch timedOut) := by
  have inside := sound.underway.inside.resolve_left Stage.noConfusion
  unfold ProcessController.switch
  simp only [state]
  obtain same | same | ⟨evt, rest, head, flag, same⟩ :=
    controller.eventQ.waitAndPopFor_cases timedOut
  · rw [same]
    exact ⟨_, sound⟩
  · rw [same]
    exact ⟨_, sound.timeout position (by simp [Expected])⟩
  · rw [same]
    -- the only answer that is missing is that to `CloseShutter`
    obtain ⟨device, more, next⟩ := sound.underway.next_answer sound.accounted unstopped head
    obtain rfl := closing_event next
    have underway : Underway .closed (controller.consume
        ⟨.shutterClosed, controller.segment.id, "Shutter closed"⟩ rest) := by
      apply sound.underway.consume inside
      · intro device
        cases device <;> rfl
      · intro device
        cases device <;> rfl
    simp only [ProcessController.shutterClosed]
    rw [if_neg fun other => other rfl, if_pos trivial]
    refine ⟨.between, sound.consume unstopped head flag (controller.currentIndex + 1)
      (underway.next_segment inside) ?_⟩
    by_cases last : controller.segments.length ≤ controller.currentIndex + 1
    · apply At.finished
      · exact position ▸ trivial
      · exact if_pos last
      · exact Nat.le_antisymm inside last
    · exact .move position (if_neg last) (Nat.lt_of_not_le last)

/-! ### The end -/

theorem At.frame {after : ProcessController} (place : At controller stage)
    (position : after.position = controller.position) (state : after.state = controller.state)
    (index : after.currentIndex = controller.currentIndex)
    (scanned : after.segments = controller.segments) : At after stage := by
  cases place with
  | starting place here first =>
    exact .starting (position.trans place) (state.trans here) (index.trans first)
  | loaded place here first =>
    exact .loaded (position.trans place) (state.trans here) (index.trans first)
  | move place here inside =>
    exact .move (position.trans place) (state.trans here) (by rwa [index, scanned])
  | wait place here => exact .wait (position.trans place) (state.trans here)
  | trigger place here => exact .trigger (position.trans place) (state.trans here)
  | triggering place here => exact .triggering (position.trans place) (state.trans here)
  | collect place here => exact .collect (position.trans place) (state.trans here)
  | collecting place here => exact .collecting (position.trans place) (state.trans here)
  | close place here => exact .close (position.trans place) (state.trans here)
  | finish place here => exact .finish (position.trans place) (state.trans here)
  | finished outer here all =>
    exact .finished (position ▸ outer) (state.trans here) (by rw [index, scanned, all])
  | error outer here => exact .error (position ▸ outer) (state.trans here)

/-- What the state machine does behind `TaskFinished` or `Error` keeps it there. -/
theorem At.stays {after : ProcessController} (place : At controller stage)
    (final : controller.state = .taskFinished ∨ controller.state = .error)
    (state : after.state = controller.state) (index : after.currentIndex = controller.currentIndex)
    (scanned : after.segments = controller.segments) (outer : after.position.Outer) :
    At after stage := by
  cases place with
  | finished _ finished all =>
    exact .finished outer (state.trans finished) (by rw [index, scanned, all])
  | error _ erring => exact .error outer (state.trans erring)
  | starting _ working | loaded _ working | move _ working | wait _ working | trigger _ working
  | triggering _ working | collect _ working | collecting _ working | close _ working
  | finish _ working =>
    cases final with
    | inl finished => cases working.symm.trans finished
    | inr erring => cases working.symm.trans erring

theorem Sound.issueStop (sound : Sound segments stage controller)
    (final : controller.state = .taskFinished ∨ controller.state = .error)
    (outer : position.Outer) :
    Sound segments stage { controller.issue device { type := .stop } with position } where
  scanned := sound.scanned
  place := sound.place.stays final rfl rfl rfl outer
  accounted := sound.accounted.issue.placed _ _ _
  underway :=
    { inside := sound.underway.inside
      issued := fun device' => by
        have before := sound.underway.issued device'
        have workless : work (if device = device' then some { type := .stop : Command } else
            none).toList = [] := by
          split <;> rfl
        simp only [ProcessController.issue, issuedTo_snoc, work_append, Observation.issuedTo,
          workless, List.append_nil]
        exact before
      consumed := fun device' => by
        simp only [ProcessController.issue, consumed_snoc, Observation.consumedEvent,
          Option.toList_none, List.append_nil]
        exact sound.underway.consumed device' }
  unstopped unfinished working := (final.elim unfinished working).elim
  justified := justified_snoc.mpr ⟨sound.justified, fun absurd => CommandType.noConfusion absurd⟩
  expected := expected_snoc sound.expected trivial

theorem Sound.stopQueue (sound : Sound segments stage controller)
    (final : controller.state = .taskFinished ∨ controller.state = .error)
    (outer : position.Outer) :
    Sound segments stage
      { controller.setCmdQ device (controller.worker device).cmdQ.stop with position } where
  scanned := sound.scanned
  place := sound.place.stays final rfl rfl rfl outer
  accounted := sound.accounted.stopQueue.placed _ _ _
  underway := ⟨sound.underway.inside, sound.underway.issued, sound.underway.consumed⟩
  unstopped unfinished working := (final.elim unfinished working).elim
  justified := sound.justified
  expected := sound.expected

theorem Sound.stopAllWorkers (sound : Sound segments stage controller)
    (final : controller.state = .taskFinished ∨ controller.state = .error) (steps : Nat) :
    Sound segments stage (controller.stopAllWorkers steps) := by
  unfold ProcessController.stopAllWorkers
  split
  · exact sound.issueStop final trivial
  · exact sound.issueStop final trivial
  · exact sound.issueStop final trivial
  · exact sound.stopQueue final trivial
  · exact sound.stopQueue final trivial
  · exact sound.stopQueue final trivial
  · constructor
    · exact sound.scanned
    · exact sound.place.stays final rfl rfl rfl trivial
    · exact ⟨sound.accounted.issued, sound.accounted.begun, sound.accounted.events⟩
    · exact ⟨sound.underway.inside, sound.underway.issued, sound.underway.consumed⟩
    · exact fun unfinished working => (final.elim unfinished working).elim
    · exact sound.justified
    · exact sound.expected

theorem Sound.ending (sound : Sound segments stage controller)
    (final : controller.state = .taskFinished ∨ controller.state = .error)
    (outer : controller.position.Outer) (timedOut : Bool) :
    Sound segments stage (controller.fsmStep timedOut) := by
  have jumps : ∀ position : FsmPosition, position.Outer →
      Sound segments stage { controller with position } := by
    intro position outer
    apply sound.jump sound.unstopped
    exact sound.place.stays final rfl rfl rfl outer
  unfold ProcessController.fsmStep
  cases position : controller.position with
  | switching =>
    simp only
    split
    · have switched : controller.switch timedOut = { controller with position := .stopping 0 } := by
        unfold ProcessController.switch
        cases final with
        | inl finished => simp only [finished]
        | inr erring => simp only [erring]
      rw [switched]
      exact jumps (.stopping 0) trivial
    · exact jumps .ended trivial
  | stopping steps => exact sound.stopAllWorkers final steps
  | ended => exact sound
  | starting | triggering | collecting _ _ =>
    rw [position] at outer
    cases outer

/-! ### A step of a thread -/

theorem Sound.fsmStep (sound : Sound segments stage controller) (timedOut : Bool) :
    ∃ stage, Sound segments stage (controller.fsmStep timedOut) := by
  have switches : controller.position = .switching → Unstopped controller →
      controller.fsmStep timedOut = controller.switch timedOut := by
    intro position unstopped
    simp only [ProcessController.fsmStep, position, unstopped.running, if_true]
  have unstopped := sound.unstopped
  cases sound.place with
  | starting position state first =>
    simp only [ProcessController.fsmStep, position]
    exact ⟨_, sound.starting (unstopped (by simp [state]) (by simp [state])) first⟩
  | loaded position state first =>
    have unstopped := unstopped (by simp [state]) (by simp [state])
    rw [switches position unstopped]
    exact ⟨_, sound.loaded unstopped position state first timedOut⟩
  | move position state inside =>
    have unstopped := unstopped (by simp [state]) (by simp [state])
    rw [switches position unstopped]
    exact ⟨_, sound.move unstopped position state inside timedOut⟩
  | wait position state =>
    have unstopped := unstopped (by simp [state]) (by simp [state])
    rw [switches position unstopped]
    exact sound.wait unstopped position state timedOut
  | trigger position state =>
    have unstopped := unstopped (by simp [state]) (by simp [state])
    rw [switches position unstopped]
    exact ⟨_, sound.trigger unstopped state timedOut⟩
  | triggering position state =>
    simp only [ProcessController.fsmStep, position]
    exact ⟨_, sound.triggering (unstopped (by simp [state]) (by simp [state]))⟩
  | collect position state =>
    have unstopped := unstopped (by simp [state]) (by simp [state])
    rw [switches position unstopped, ProcessController.switch]
    simp only [state]
    exact ⟨_, sound.jump (fun _ _ => unstopped) (.collecting rfl rfl)⟩
  | collecting position state =>
    exact sound.collecting (unstopped (by simp [state]) (by simp [state])) position state timedOut
  | close position state =>
    have unstopped := unstopped (by simp [state]) (by simp [state])
    rw [switches position unstopped]
    exact ⟨_, sound.close unstopped position state timedOut⟩
  | finish position state =>
    have unstopped := unstopped (by simp [state]) (by simp [state])
    rw [switches position unstopped]
    exact sound.finish unstopped position state timedOut
  | finished outer state _ => exact ⟨_, sound.ending (.inl state) outer timedOut⟩
  | error outer state => exact ⟨_, sound.ending (.inr state) outer timedOut⟩

/-- A worker changes neither the log nor the place of the state machine. -/
theorem Sound.worker {worker : Device → Worker} {eventQ : ThreadSafeQueue Event}
    (sound : Sound segments stage controller)
    (accounted : Accounted { controller with worker, eventQ })
    (unstopped : Unstopped controller → Unstopped { controller with worker, eventQ }) :
    Sound segments stage { controller with worker, eventQ } where
  scanned := sound.scanned
  place := sound.place.frame rfl rfl rfl rfl
  accounted := accounted
  underway := ⟨sound.underway.inside, sound.underway.issued, sound.underway.consumed⟩
  unstopped unfinished working := unstopped (sound.unstopped unfinished working)
  justified := sound.justified
  expected := sound.expected

theorem Sound.step (sound : Sound segments stage controller) (action : Action) :
    ∃ stage, Sound segments stage (step action controller) := by
  cases action with
  | fsm timedOut => exact sound.fsmStep timedOut
  | pop device =>
    have same := controller.popStep_frame device
    have accounted := sound.accounted.popStep device
    refine ⟨stage, ?_⟩
    rw [Scan.step, same]
    rw [same] at accounted
    exact sound.worker accounted fun unstopped => same ▸ unstopped.popStep device
  | execute device =>
    have same := controller.executeStep_frame device
    have accounted := sound.accounted.executeStep device
    refine ⟨stage, ?_⟩
    rw [Scan.step, same]
    rw [same] at accounted
    exact sound.worker accounted fun unstopped =>
      same ▸ unstopped.executeStep sound.accounted device

theorem Sound.create (segments : List Segment) :
    Sound segments .between (ProcessController.create segments) where
  scanned := rfl
  place := .starting rfl rfl rfl
  accounted := ⟨fun _ => rfl, fun _ => rfl, fun _ => rfl⟩
  underway := ⟨.inl rfl, fun _ => rfl, fun _ => rfl⟩
  unstopped _ _ :=
    { running := rfl
      queues := fun _ => rfl
      commands := fun _ _ member => by cases member
      eventQ := rfl
      events := fun _ member => by cases member }
  justified := justified_nil
  expected _ member := by cases member

end Steps

end PictureReconstruct.Scan
