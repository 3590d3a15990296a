import Mathlib.Data.List.Induction
import PictureReconstruct.Scan.ProcessController

/-! # The shutter behind the end of the scan

The runs are those of `ProcessController` with failures of the devices added: an exception ends
the worker, and its `catch` pushes the failure event.

* `Told.next`: the commands to the shutter in the order in which a scan issues them.
* `fsmStep_shutter`: what a step of the state machine does to the shutter worker and its queue.
* `Attended`: a worker that has ended leaves the shutter closed.
* `shutter_closed`: so does every run in which the error is not raised in `WaitCaptureDone` and no
  failing shutter stays open.
-/

namespace PictureReconstruct.Scan

open Library.Runs

/-! ## Failures of the devices -/

/-- An exception while a worker executes a command; `acted` says whether the device had carried
    out the command. -/
def ProcessController.throwStep (controller : ProcessController) (device : Device) (acted : Bool)
    (what : String) : ProcessController :=
  let worker := controller.worker device
  match worker.position with
  | .executing cmd =>
    { controller.setWorker device
        { worker with
          position := .ended
          executed := if acted then worker.executed ++ [cmd] else worker.executed } with
      eventQ := controller.eventQ.push ⟨device.failed, -1, what⟩ }
  | _ => controller

inductive FaultyAction
  | action (action : Action)
  | throws (device : Device) (acted : Bool) (what : String)

def faultyStep : FaultyAction → ProcessController → ProcessController
  | .action action, controller => step action controller
  | .throws device acted what, controller => controller.throwStep device acted what

/-- The runs without failures are among these. -/
theorem run_faultyStep (actions : List Action) (controller : ProcessController) :
    run faultyStep (actions.map .action) controller = run step actions controller := by
  induction actions generalizing controller with
  | nil => rfl
  | cons action actions ih => exact ih (step action controller)

def WorkerPosition.isEnded : WorkerPosition → Bool
  | ended => true
  | _ => false

/-- All four threads have ended. -/
structure Ended (controller : ProcessController) : Prop where
  fsm : controller.position = .ended
  workers : ∀ device, (controller.worker device).position = .ended

def Command.drivesShutter (cmd : Command) : Bool :=
  cmd.type = .openShutter || cmd.type = .closeShutter

/-- The last of the commands to open or close the shutter is to close it. -/
def LeavesClosed (cmds : List Command) : Prop :=
  ∀ cmd, (cmds.filter Command.drivesShutter).getLast? = some cmd → cmd.type = .closeShutter

/-- `WaitCaptureDone` reports the event as a failure. -/
def Event.fails (evt : Event) (segment : Segment) : Bool :=
  evt.segmentId = segment.id && (evt.type = .captureFailed || evt.type = .shutterFailed)

/-- The step neither gives up in `WaitCaptureDone` while the shutter worker goes on nor ends this
    worker with the shutter open. -/
def harmless : FaultyAction → ProcessController → Bool
  | .action (.fsm timedOut), controller =>
    match controller.position with
    | .collecting _ _ =>
      (controller.worker .shutter).position.isEnded ||
        !timedOut && !controller.eventQ.queue.head?.any (·.fails controller.segment)
    | _ => true
  | .throws .shutter acted _, controller =>
    match (controller.worker .shutter).position with
    | .executing cmd => if acted then cmd.type ≠ .openShutter else cmd.type ≠ .closeShutter
    | _ => true
  | _, _ => true

/-! ## The order of the commands to the shutter -/

/-- What the shutter was told to do last. -/
inductive Told
  | closed
  | opened
  | stopped
deriving DecidableEq

/-- `OpenShutter` and `CloseShutter` alternate, and nothing comes behind `Stop`. -/
def Told.next : Told → CommandType → Option Told
  | closed, .openShutter => some opened
  | opened, .closeShutter => some closed
  | closed, .stop => some stopped
  | _, _ => none

def follows (told : Told) (cmds : List Command) : Option Told :=
  cmds.foldlM (fun told cmd => told.next cmd.type) told

theorem follows_append (told : Told) (cmds cmds' : List Command) :
    follows told (cmds ++ cmds') = (follows told cmds).bind (follows · cmds') := by
  rw [follows, List.foldlM_append]
  rfl

theorem follows_singleton (told : Told) (cmd : Command) :
    follows told [cmd] = told.next cmd.type := by
  simp [follows]

/-- The commands in the right order, up to one behind which the shutter is not open. -/
def Closes (cmds : List Command) : Prop :=
  ∃ told, follows .closed cmds = some told ∧ told ≠ .opened

theorem Told.next_cases {told told' : Told} {type : CommandType}
    (next : told.next type = some told') :
    (told = closed ∧ type = .openShutter ∧ told' = opened) ∨
      (told = opened ∧ type = .closeShutter ∧ told' = closed) ∨
      (told = closed ∧ type = .stop ∧ told' = stopped) := by
  cases told <;> cases type <;> simp_all [Told.next]

theorem follows_snoc {told : Told} {cmds : List Command} {cmd : Command}
    (order : follows .closed (cmds ++ [cmd]) = some told) :
    ∃ before, follows .closed cmds = some before ∧ before.next cmd.type = some told := by
  rw [follows_append] at order
  obtain ⟨before, order, next⟩ := Option.bind_eq_some_iff.mp order
  exact ⟨before, order, follows_singleton before cmd ▸ next⟩

theorem Closes.leavesClosed {cmds : List Command} (closes : Closes cmds) : LeavesClosed cmds := by
  obtain ⟨told, order, shut⟩ := closes
  induction cmds using List.reverseRecOn generalizing told with
  | nil =>
    intro _ none
    cases none
  | append_singleton before cmd ih =>
    obtain ⟨_, order, next⟩ := follows_snoc order
    obtain ⟨_, _, rfl⟩ | ⟨_, type, _⟩ | ⟨rfl, type, _⟩ := Told.next_cases next
    · exact absurd rfl shut
    · have drives : [cmd].filter Command.drivesShutter = [cmd] := by
        simp [Command.drivesShutter, type]
      intro cmd' last
      rw [List.filter_append, drives, List.getLast?_concat] at last
      cases last
      exact type
    · -- `Stop` does not move the shutter, which was closed before
      have silent : [cmd].filter Command.drivesShutter = [] := by
        simp [Command.drivesShutter, type]
      intro cmd' last
      rw [List.filter_append, silent, List.append_nil] at last
      exact ih .closed order (by simp) cmd' last

/-! ## The state machine -/

namespace ProcessController

variable {controller : ProcessController}

/-- Where the shutter is told to be, as far as the state machine is. -/
def told (controller : ProcessController) : Told :=
  match controller.position with
  | .starting => .closed
  | .switching =>
    if controller.running then
      match controller.state with
      | .waitCaptureDone | .closeShutter => .opened
      | _ => .closed
    else .stopped
  | .triggering | .collecting _ _ => .opened
  | .stopping steps => if steps ≤ 1 then .closed else .stopped
  | .ended => .stopped

/-- `running_` is set until `stopAllWorkers` is through. -/
def Live (controller : ProcessController) : Prop :=
  controller.position = .switching ∨ controller.position = .ended ∨ controller.running = true

theorem Live.running (live : controller.Live) (inner : controller.position ≠ .switching)
    (going : controller.position ≠ .ended) : controller.running = true :=
  (live.resolve_left inner).resolve_left going

@[simp] theorem issue_worker_self (controller : ProcessController) (device : Device)
    (cmd : Command) : (controller.issue device cmd).worker device =
      { controller.worker device with cmdQ := (controller.worker device).cmdQ.push cmd } := by
  simp [issue, setCmdQ, setWorker]

theorem issue_worker_shutter (controller : ProcessController) (device : Device) (cmd : Command)
    (other : .shutter ≠ device) :
    (controller.issue device cmd).worker .shutter = controller.worker .shutter := by
  simp [issue, setCmdQ, setWorker, other]

/-- What a step of the state machine does to the shutter worker and its queue. -/
inductive ShutterStep (before after : ProcessController) : Prop
  | keeps (same : after.worker .shutter = before.worker .shutter)
    (told : after.told = before.told)
  | issues (cmd : Command)
    (pushed : after.worker .shutter = { before.worker .shutter with
      cmdQ := (before.worker .shutter).cmdQ.push cmd })
    (told : before.told.next cmd.type = some after.told)
  | stops
    (flagged : after.worker .shutter = { before.worker .shutter with
      cmdQ := (before.worker .shutter).cmdQ.stop })
    (told : before.told = .stopped) (told' : after.told = .stopped)
  /-- the error of `WaitCaptureDone`, raised behind the end of the shutter worker -/
  | abandons (same : after.worker .shutter = before.worker .shutter)
    (ended : (before.worker .shutter).position = .ended) (told : before.told = .opened)

theorem isEnded_iff (position : WorkerPosition) : position.isEnded = true ↔ position = .ended := by
  cases position <;> simp [WorkerPosition.isEnded]

/-- Behind the other two waits the shutter stays as it was told to be. -/
theorem switch_shutter (running : controller.running = true)
    (position : controller.position = .switching) (timedOut : Bool) :
    ShutterStep controller (controller.switch timedOut) ∧ (controller.switch timedOut).Live := by
  unfold switch
  cases state : controller.state with
  | taskLoaded =>
    simp only
    split
    · exact ⟨.keeps rfl (by simp [told, position, running, state]), .inl position⟩
    · exact ⟨.keeps rfl (by simp [told, position, running, state]), .inl position⟩
  | moveToPoint =>
    simp only
    refine ⟨.keeps (issue_worker_shutter controller .platform
      ⟨.movePlatform, controller.segment.id, controller.segment.target⟩ (by simp)) ?_,
      .inl position⟩
    simp [told, position, running, state, issue, setCmdQ, setWorker]
  | waitPlatformArrived =>
    simp only
    obtain same | same | ⟨evt, rest, _, _, same⟩ :=
      controller.eventQ.waitAndPopFor_cases timedOut
    · rw [same]
      exact ⟨.keeps rfl rfl, .inl position⟩
    · rw [same]
      exact ⟨.keeps rfl (by simp [told, position, running, state, handleError]), .inl position⟩
    · rw [same]
      simp only [platformArrived]
      split
      · exact ⟨.keeps rfl rfl, .inl position⟩
      · split
        · exact ⟨.keeps rfl (by simp [told, position, running, state, consume]), .inl position⟩
        · exact ⟨.keeps rfl (by simp [told, position, running, state, consume, handleError]),
            .inl position⟩
  | openShutterAndCapture =>
    simp only
    refine ⟨.issues _ (issue_worker_self controller .shutter _) ?_, .inr (.inr running)⟩
    simp [told, position, running, state, Told.next]
  | waitCaptureDone =>
    exact ⟨.keeps rfl (by simp [told, position, running, state]), .inr (.inr running)⟩
  | closeShutter =>
    simp only
    refine ⟨.issues _ (issue_worker_self controller .shutter _) ?_, .inl position⟩
    simp [told, position, running, state, Told.next, issue, setCmdQ, setWorker]
  | segmentFinished =>
    simp only
    obtain same | same | ⟨evt, rest, _, _, same⟩ :=
      controller.eventQ.waitAndPopFor_cases timedOut
    · rw [same]
      exact ⟨.keeps rfl rfl, .inl position⟩
    · rw [same]
      exact ⟨.keeps rfl (by simp [told, position, running, state, handleError]), .inl position⟩
    · rw [same]
      simp only [shutterClosed]
      split
      · exact ⟨.keeps rfl rfl, .inl position⟩
      · split
        · refine ⟨.keeps rfl ?_, .inl position⟩
          by_cases last : controller.segments.length ≤ controller.currentIndex + 1
          · simp [told, consume, position, running, state, last]
          · simp [told, consume, position, running, state, last]
        · exact ⟨.keeps rfl (by simp [told, position, running, state, consume, handleError]),
            .inl position⟩
  | taskFinished | error =>
    exact ⟨.keeps rfl (by simp [told, position, running, state]), .inr (.inr running)⟩
  | idle =>
    exact ⟨.keeps rfl (by simp [told, position, running, state, handleError]), .inl position⟩

theorem stopAllWorkers_shutter (running : controller.running = true) {steps : Nat}
    (position : controller.position = .stopping steps) :
    ShutterStep controller (controller.stopAllWorkers steps) ∧
      (controller.stopAllWorkers steps).Live := by
  have told : controller.told = if steps ≤ 1 then .closed else .stopped := by
    simp only [ProcessController.told, position]
  unfold stopAllWorkers
  split
  · exact ⟨.keeps (issue_worker_shutter controller .platform { type := .stop } (by simp)) told.symm,
      .inr (.inr running)⟩
  · refine ⟨.issues _ (issue_worker_self controller .shutter _) ?_, .inr (.inr running)⟩
    rw [told]
    rfl
  · exact ⟨.keeps (issue_worker_shutter controller .camera { type := .stop } (by simp)) told.symm,
      .inr (.inr running)⟩
  · refine ⟨.keeps ?_ told.symm, .inr (.inr running)⟩
    simp [setCmdQ, setWorker]
  · refine ⟨.stops ?_ told rfl, .inr (.inr running)⟩
    simp [setCmdQ, setWorker]
  · refine ⟨.keeps ?_ told.symm, .inr (.inr running)⟩
    simp [setCmdQ, setWorker]
  · next notFirst notSecond _ _ _ _ =>
    have late : ¬ steps ≤ 1 := fun early =>
      (Nat.le_one_iff_eq_zero_or_eq_one.mp early).elim notFirst notSecond
    refine ⟨.keeps rfl ?_, .inl rfl⟩
    rw [told, if_neg late]
    rfl

/-- The loop of `WaitCaptureDone` leaves the shutter open, unless it gives up. -/
theorem collect_shutter {captureDone shutterOpened : Bool} {evt : Event}
    {rest : ThreadSafeQueue Event} (running : controller.running = true)
    (position : controller.position = .collecting captureDone shutterOpened)
    (allowed : (controller.worker .shutter).position.isEnded = true ∨
      evt.fails controller.segment = false) :
    ShutterStep controller ((controller.consume evt rest).collect captureDone shutterOpened evt) ∧
      ((controller.consume evt rest).collect captureDone shutterOpened evt).Live := by
  have told : controller.told = .opened := by simp only [ProcessController.told, position]
  have collected : ∀ captureDone shutterOpened,
      ShutterStep controller ((controller.consume evt rest).collected captureDone shutterOpened) ∧
        ((controller.consume evt rest).collected captureDone shutterOpened).Live := by
    intro captureDone shutterOpened
    unfold ProcessController.collected
    split
    · refine ⟨.keeps rfl ?_, .inl rfl⟩
      rw [told]
      simp [ProcessController.told, consume, running]
    · exact ⟨.keeps rfl told.symm, .inr (.inr running)⟩
  unfold collect
  split
  · refine ⟨.keeps rfl ?_, .inr (.inr running)⟩
    simp only [ProcessController.told, position, handleUnexpectedEvent, consume]
  · next same =>
    have same : evt.segmentId = controller.segment.id := not_not.mp same
    cases type : evt.type with
    | captureFailed | shutterFailed =>
      obtain ended | succeeds := allowed
      · exact ⟨.abandons rfl ((isEnded_iff _).mp ended) told, .inl rfl⟩
      · simp [Event.fails, same, type] at succeeds
    | _ => exact collected _ _

/-- One step of the state machine. -/
theorem fsmStep_shutter (live : controller.Live) (timedOut : Bool)
    (allowed : harmless (.action (.fsm timedOut)) controller = true) :
    ShutterStep controller (controller.fsmStep timedOut) ∧
      (controller.fsmStep timedOut).Live := by
  unfold fsmStep
  cases position : controller.position with
  | starting =>
    have running := live.running (by simp [position]) (by simp [position])
    exact ⟨.keeps rfl (by simp [told, position, running]), .inl rfl⟩
  | switching =>
    simp only
    split
    · next running => exact switch_shutter running position timedOut
    · next halted => exact ⟨.keeps rfl (by simp [told, position, halted]), .inr (.inl rfl)⟩
  | triggering =>
    have running := live.running (by simp [position]) (by simp [position])
    simp only
    refine ⟨.keeps (issue_worker_shutter controller .camera
      ⟨.captureImage, controller.segment.id, {}⟩ (by simp)) ?_, .inl rfl⟩
    simp [told, position, running, issue, setCmdQ, setWorker]
  | collecting captureDone shutterOpened =>
    have running := live.running (by simp [position]) (by simp [position])
    have opened : controller.told = .opened := by simp only [told, position]
    simp only [harmless, position, Bool.or_eq_true, Bool.and_eq_true, Bool.not_eq_true'] at allowed
    cases timedOut with
    | true =>
      obtain ended | ⟨inTime, _⟩ := allowed
      · exact ⟨.abandons rfl ((isEnded_iff _).mp ended) opened, .inl rfl⟩
      · cases inTime
    | false =>
      simp only [Bool.false_eq_true, if_false]
      obtain same | same | ⟨evt, rest, head, _, same⟩ := controller.eventQ.waitAndPopFor_cases true
      · rw [same]
        exact ⟨.keeps rfl rfl, live⟩
      · rw [same]
        exact ⟨.keeps rfl rfl, live⟩
      · rw [same]
        rw [head] at allowed
        exact collect_shutter running position (allowed.imp_right fun succeeds => by
          simpa using succeeds.2)
  | stopping steps =>
    exact stopAllWorkers_shutter (live.running (by simp [position]) (by simp [position])) position
  | ended => exact ⟨.keeps rfl rfl, live⟩

end ProcessController

/-! ## The shutter worker -/

/-- The commands to the shutter come in the right order, and a shutter worker that has ended leaves
    the shutter closed. -/
structure Attended (controller : ProcessController) : Prop where
  live : controller.Live
  /-- the queue is stopped behind `Stop` only -/
  flagged : (controller.worker .shutter).cmdQ.stopped = true → controller.told = .stopped
  commands : (controller.worker .shutter).position ≠ .ended →
    follows .closed ((controller.worker .shutter).executed ++
      (controller.worker .shutter).inFlight) = some controller.told
  ended : (controller.worker .shutter).position = .ended →
    Closes (controller.worker .shutter).executed

section Attended

variable {controller after : ProcessController}

theorem Attended.create (segments : List Segment) :
    Attended (ProcessController.create segments) where
  live := .inr (.inr rfl)
  flagged unset := Bool.noConfusion unset
  commands _ := rfl
  ended working := WorkerPosition.noConfusion working

theorem Attended.fsmStep (attended : Attended controller)
    (moves : controller.ShutterStep after) (live : after.Live) : Attended after := by
  obtain ⟨_, flagged, commands, ended⟩ := attended
  cases moves with
  | keeps same told =>
    rw [← same, ← told] at flagged commands
    rw [← same] at ended
    exact ⟨live, flagged, commands, ended⟩
  | issues cmd pushed told =>
    have going : controller.told ≠ .stopped := by
      intro stopped
      rw [stopped] at told
      cases told
    refine ⟨live, ?_, ?_, ?_⟩
    · rw [pushed]
      exact fun set => (going (flagged set)).elim
    · rw [pushed]
      intro working
      have order := commands working
      rw [Worker.inFlight, ThreadSafeQueue.push, ← List.append_assoc, ← List.append_assoc,
        follows_append]
      rw [Worker.inFlight, ← List.append_assoc] at order
      rw [order, Option.bind_some, follows_singleton, told]
    · rw [pushed]
      exact ended
  | stops flag told told' =>
    rw [told, ← told'] at commands
    refine ⟨live, fun _ => told', ?_, ?_⟩
    · rw [flag]
      exact commands
    · rw [flag]
      exact ended
  | abandons same gone told =>
    rw [← same] at flagged gone ended
    refine ⟨live, fun set => ?_, fun working => (working gone).elim, ended⟩
    rw [told] at flagged
    cases flagged set

/-- A step of the shutter worker. -/
theorem Attended.setShutter (attended : Attended controller) (worker : Worker)
    (eventQ : ThreadSafeQueue Event)
    (flag : worker.cmdQ.stopped = (controller.worker .shutter).cmdQ.stopped)
    (commands : worker.position ≠ .ended →
      (controller.worker .shutter).position ≠ .ended ∧ worker.executed ++ worker.inFlight =
        (controller.worker .shutter).executed ++ (controller.worker .shutter).inFlight)
    (ended : worker.position = .ended → Closes worker.executed) :
    Attended { controller.setWorker .shutter worker with eventQ } where
  live := attended.live
  flagged := by
    simp only [ProcessController.setWorker, Function.update_self, flag]
    exact attended.flagged
  commands := by
    simp only [ProcessController.setWorker, Function.update_self]
    intro working
    obtain ⟨worked, same⟩ := commands working
    rw [same]
    exact attended.commands worked
  ended := by
    simpa only [ProcessController.setWorker, Function.update_self] using ended

/-- A step of another worker. -/
theorem Attended.setOther (attended : Attended controller) {device : Device}
    (other : device ≠ .shutter) (worker : Worker) (eventQ : ThreadSafeQueue Event) :
    Attended { controller.setWorker device worker with eventQ } where
  live := attended.live
  flagged := by
    simp only [ProcessController.setWorker, Function.update_of_ne other.symm]
    exact attended.flagged
  commands := by
    simp only [ProcessController.setWorker, Function.update_of_ne other.symm]
    exact attended.commands
  ended := by
    simpa only [ProcessController.setWorker, Function.update_of_ne other.symm] using attended.ended

/-- The order of the commands up to the one that is executed. -/
theorem Attended.executing (attended : Attended controller) {cmd : Command}
    (position : (controller.worker .shutter).position = .executing cmd) :
    ∃ before told, follows .closed (controller.worker .shutter).executed = some before ∧
      before.next cmd.type = some told ∧
      follows told (controller.worker .shutter).cmdQ.queue = some controller.told := by
  have order := attended.commands (by simp [position])
  rw [Worker.inFlight, position, follows_append] at order
  obtain ⟨before, executed, order⟩ := Option.bind_eq_some_iff.mp order
  rw [follows_append] at order
  obtain ⟨told, next, order⟩ := Option.bind_eq_some_iff.mp order
  exact ⟨before, told, executed, follows_singleton before cmd ▸ next, order⟩

theorem Attended.popStep (attended : Attended controller) (device : Device) :
    Attended (controller.popStep device) := by
  obtain same | ⟨cmd, rest, position, pending, same⟩ | ⟨position, ⟨drained, set⟩, same⟩ :=
    controller.popStep_cases device
  · rw [same]
    exact attended
  · rw [same]
    by_cases shutter : device = .shutter
    · subst shutter
      refine attended.setShutter _ controller.eventQ rfl (fun _ => ?_)
        (fun ended => WorkerPosition.noConfusion ended)
      exact ⟨by simp [position], by simp [Worker.inFlight, position, pending,
        WorkerPosition.commands]⟩
    · exact attended.setOther shutter _ controller.eventQ
  · rw [same]
    by_cases shutter : device = .shutter
    · subst shutter
      -- nothing is left in the queue, so its last command, `Stop`, was executed
      have order := attended.commands (by simp [position])
      rw [Worker.inFlight, position, drained, attended.flagged set] at order
      refine attended.setShutter _ _ rfl (fun working => (working rfl).elim) (fun _ => ?_)
      exact ⟨.stopped, by simpa [WorkerPosition.commands] using order, by simp⟩
    · exact attended.setOther shutter _ _

theorem Attended.executeStep (attended : Attended controller) (device : Device) :
    Attended (controller.executeStep device) := by
  obtain same | ⟨cmd, eventQ, position, _, same⟩ := controller.executeStep_cases device
  · rw [same]
    exact attended
  · rw [same]
    by_cases shutter : device = .shutter
    · subst shutter
      obtain ⟨before, told, executed, next, _⟩ := attended.executing position
      by_cases stop : cmd.type = .stop
      · rw [stop] at next
        refine attended.setShutter _ _ rfl (fun working => ?_) (fun _ => ⟨told, ?_, ?_⟩)
        · simp [stop] at working
        · simpa [follows_append, executed, follows_singleton, stop] using next
        · rintro rfl
          cases before <;> cases next
      · refine attended.setShutter _ _ rfl (fun _ => ⟨by simp [position], ?_⟩) (fun ended => ?_)
        · simp [Worker.inFlight, position, stop, WorkerPosition.commands]
        · simp [stop] at ended
    · exact attended.setOther shutter _ _

/-- A shutter that fails to open, or fails behind any other command, is not left open. -/
theorem Attended.throwStep (attended : Attended controller) (device : Device) (acted : Bool)
    (what : String) (allowed : harmless (.throws device acted what) controller = true) :
    Attended (controller.throwStep device acted what) := by
  unfold ProcessController.throwStep
  cases position : (controller.worker device).position with
  | popping | ended =>
    simp only [position]
    exact attended
  | executing cmd =>
    simp only [position]
    by_cases shutter : device = .shutter
    · subst shutter
      simp only [harmless, position] at allowed
      obtain ⟨before, told, executed, next, _⟩ := attended.executing position
      refine attended.setShutter _ _ rfl (fun working => (working rfl).elim) (fun _ => ?_)
      cases acted with
      | true =>
        refine ⟨told, ?_, ?_⟩
        · simp [follows_append, executed, follows_singleton, next]
        · rintro rfl
          obtain ⟨_, opens, _⟩ | ⟨_, _, absurd⟩ | ⟨_, _, absurd⟩ := Told.next_cases next
          · simp [opens] at allowed
          · cases absurd
          · cases absurd
      | false =>
        refine ⟨before, executed, ?_⟩
        rintro rfl
        obtain ⟨absurd, _⟩ | ⟨_, closes, _⟩ | ⟨absurd, _⟩ := Told.next_cases next
        · cases absurd
        · simp [closes] at allowed
        · cases absurd
    · exact attended.setOther shutter _ _

theorem Attended.step (attended : Attended controller) (action : FaultyAction)
    (allowed : harmless action controller = true) : Attended (faultyStep action controller) := by
  cases action with
  | action action =>
    cases action with
    | fsm timedOut =>
      obtain ⟨moves, live⟩ := ProcessController.fsmStep_shutter attended.live timedOut allowed
      exact attended.fsmStep moves live
    | pop device => exact attended.popStep device
    | execute device => exact attended.executeStep device
  | throws device acted what => exact attended.throwStep device acted what allowed

end Attended

/-- Unless `WaitCaptureDone` gives up or a failing shutter stays open, the shutter is closed behind
    the end of all threads. -/
theorem shutter_closed (segments : List Segment) (actions : List FaultyAction)
    (allowed : Admits faultyStep (fun action controller => harmless action controller = true)
      actions (ProcessController.create segments))
    (ended : Ended (run faultyStep actions (ProcessController.create segments))) :
    LeavesClosed
      ((run faultyStep actions (ProcessController.create segments)).worker .shutter).executed := by
  have attended := run_invariant (I := fun _ controller => Attended controller)
    (fun action _ controller attended allowed => attended.step action allowed) actions _
    (Attended.create segments) allowed
  exact (attended.ended (ended.workers .shutter)).leavesClosed

/-- One segment, whose capture succeeds. -/
def succeedingCapture : List Action :=
  [.fsm false, .fsm false, .fsm false, .pop .platform, .execute .platform, .fsm false, .fsm false,
    .fsm false, .fsm false, .pop .camera, .execute .camera, .pop .shutter, .execute .shutter,
    .fsm false, .fsm false, .fsm false, .pop .shutter, .execute .shutter, .fsm false, .fsm false,
    .fsm false, .fsm false, .fsm false, .fsm false, .fsm false, .fsm false, .fsm false, .fsm false,
    .pop .platform, .execute .platform, .pop .shutter, .execute .shutter, .pop .camera,
    .execute .camera]

theorem shutter_closed_succeeding :
    LeavesClosed ((run faultyStep (succeedingCapture.map .action)
      (ProcessController.create [{ id := 1 }])).worker .shutter).executed :=
  shutter_closed [{ id := 1 }] (succeedingCapture.map .action) (by decide)
    ⟨rfl, fun device => by cases device <;> rfl⟩

/-- The capture of one segment times out: `OpenShutter` and `Stop` are all that the shutter
    executes. -/
def timedOutCapture : List Action :=
  [.fsm false, .fsm false, .fsm false, .pop .platform, .execute .platform, .fsm false, .fsm false,
    .fsm false, .fsm false, .pop .shutter, .execute .shutter, .fsm true, .fsm false, .fsm false,
    .fsm false, .fsm false, .fsm false, .fsm false, .fsm false, .fsm false, .fsm false,
    .pop .platform, .execute .platform, .pop .shutter, .execute .shutter, .pop .camera,
    .execute .camera, .pop .camera, .execute .camera]

theorem shutter_left_open : ¬ ∀ (segments : List Segment) (actions : List FaultyAction),
    Ended (run faultyStep actions (ProcessController.create segments)) →
    LeavesClosed
      ((run faultyStep actions (ProcessController.create segments)).worker .shutter).executed := by
  intro closed
  have ended : Ended (run faultyStep (timedOutCapture.map .action)
      (ProcessController.create [{ id := 1 }])) :=
    ⟨rfl, fun device => by cases device <;> rfl⟩
  have last := closed _ _ ended ⟨.openShutter, 1, {}⟩ (by decide)
  cases last

end PictureReconstruct.Scan
