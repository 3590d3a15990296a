import Mathlib.Logic.Function.Basic
import PictureReconstruct.Library.Runs

/-! # `ProcessController`

The thread of the state machine and the three workers, with a queue of commands to each worker and
one queue of events back.  A step is what a thread does between two accesses to a queue.

* `ThreadSafeQueue`, `Worker`: a worker executes its commands in the order of its queue.
* `ProcessController.fsmStep`: `fsmLoop`, with each of its waits.
* `step`: one step of one of the four threads.

The ghosts `log`, `begun` and `executed` only record what happens.
-/

namespace PictureReconstruct.Scan

/-- The bits of two `double`s; they are only passed on. -/
structure Position where
  x : UInt64 := 0
  y : UInt64 := 0
deriving DecidableEq

structure Segment where
  id : Int := 0
  target : Position := {}
deriving DecidableEq

inductive FsmState
  | idle
  | taskLoaded
  | moveToPoint
  | waitPlatformArrived
  | openShutterAndCapture
  | waitCaptureDone
  | closeShutter
  | segmentFinished
  | taskFinished
  | error
deriving DecidableEq

inductive CommandType
  | movePlatform
  | openShutter
  | closeShutter
  | captureImage
  | stop
deriving DecidableEq

inductive EventType
  | platformArrived
  | platformMoveFailed
  | shutterOpened
  | shutterClosed
  | shutterFailed
  | captureDone
  | captureFailed
  | timeout
  | stopped
deriving DecidableEq

structure Command where
  type : CommandType
  segmentId : Int := -1
  pos : Position := {}
deriving DecidableEq

structure Event where
  type : EventType
  segmentId : Int := -1
  message : String
deriving DecidableEq

/-! ## The queues -/

structure ThreadSafeQueue (α : Type) where
  queue : List α := []
  stopped : Bool := false

/-- How a wait for an element stands. -/
inductive Popped (α : Type)
  | waits
  /-- the exception of `wait_and_pop`, `false` of `wait_and_pop_for` -/
  | nothing
  | value (value : α) (rest : ThreadSafeQueue α)

namespace ThreadSafeQueue

variable {α : Type}

def push (queue : ThreadSafeQueue α) (value : α) : ThreadSafeQueue α :=
  { queue with queue := queue.queue ++ [value] }

def stop (queue : ThreadSafeQueue α) : ThreadSafeQueue α := { queue with stopped := true }

def waitAndPop (queue : ThreadSafeQueue α) : Popped α :=
  match queue.queue with
  | [] => if queue.stopped then .nothing else .waits
  | value :: rest => .value value { queue with queue := rest }

/-- The predicate is tested once more when the time is up, so an element is never left behind. -/
def waitAndPopFor (queue : ThreadSafeQueue α) (timedOut : Bool) : Popped α :=
  match queue.queue with
  | [] => if queue.stopped || timedOut then .nothing else .waits
  | value :: rest => .value value { queue with queue := rest }

theorem waitAndPopFor_cases (queue : ThreadSafeQueue α) (timedOut : Bool) :
    queue.waitAndPopFor timedOut = .waits ∨ queue.waitAndPopFor timedOut = .nothing ∨
    ∃ value rest, queue.queue = value :: rest.queue ∧ rest.stopped = queue.stopped ∧
      queue.waitAndPopFor timedOut = .value value rest := by
  unfold waitAndPopFor
  cases queue.queue with
  | nil =>
    by_cases ended : (queue.stopped || timedOut) = true
    · simp [ended]
    · simp [ended]
  | cons value rest => exact .inr (.inr ⟨value, { queue with queue := rest }, rfl, rfl, rfl⟩)

end ThreadSafeQueue

/-! ## The workers -/

inductive Device
  | platform
  | shutter
  | camera
deriving DecidableEq

/-- `PlatformWorker::run`: the event that a command ends with. -/
def platformRun (cmd : Command) : Option Event :=
  match cmd.type with
  | .stop => some ⟨.stopped, cmd.segmentId, "Platform stopped"⟩
  | .movePlatform => some ⟨.platformArrived, cmd.segmentId, "Platform arrived"⟩
  | _ => none

/-- `ShutterWorker::run`. -/
def shutterRun (cmd : Command) : Option Event :=
  match cmd.type with
  | .stop => some ⟨.stopped, cmd.segmentId, "Shutter stopped"⟩
  | .openShutter => some ⟨.shutterOpened, cmd.segmentId, "Shutter opened"⟩
  | .closeShutter => some ⟨.shutterClosed, cmd.segmentId, "Shutter closed"⟩
  | _ => none

/-- `CameraWorker::run`. -/
def cameraRun (cmd : Command) : Option Event :=
  match cmd.type with
  | .stop => some ⟨.stopped, cmd.segmentId, "Camera stopped"⟩
  | .captureImage => some ⟨.captureDone, cmd.segmentId, "Capture done"⟩
  | _ => none

def Device.run : Device → Command → Option Event
  | platform => platformRun
  | shutter => shutterRun
  | camera => cameraRun

/-- The event of the `catch` around `run`. -/
def Device.failed : Device → EventType
  | platform => .platformMoveFailed
  | shutter => .shutterFailed
  | camera => .captureFailed

inductive WorkerPosition
  | popping
  | executing (cmd : Command)
  | ended

def WorkerPosition.commands : WorkerPosition → List Command
  | executing cmd => [cmd]
  | _ => []

/-- A worker and its queue. -/
structure Worker where
  cmdQ : ThreadSafeQueue Command := {}
  position : WorkerPosition := .popping
  /-- the commands it has popped -/
  begun : List Command := []
  /-- the commands it is through with -/
  executed : List Command := []

/-- The commands that are pending or executing. -/
def Worker.inFlight (worker : Worker) : List Command :=
  worker.position.commands ++ worker.cmdQ.queue

/-! ## The controller -/

/-- Where the thread of the state machine is. -/
inductive FsmPosition
  /-- before `state_ = FsmState::TaskLoaded` -/
  | starting
  /-- at the test of `running_` -/
  | switching
  /-- between the two commands of `OpenShutterAndCapture` -/
  | triggering
  /-- at the test of the deadline in `WaitCaptureDone` -/
  | collecting (captureDone shutterOpened : Bool)
  /-- in `stopAllWorkers`, behind its first `steps` steps -/
  | stopping (steps : Nat)
  | ended

/-- What the thread of the state machine does with the queues, and what it prints to `cerr`. -/
inductive Observation
  | issued (device : Device) (cmd : Command)
  | consumed (evt : Event)
  | failed (msg : String)
  | unexpected (evt : Event) (place : String)

structure ProcessController where
  segments : List Segment
  currentIndex : Nat := 0
  running : Bool := true
  state : FsmState := .idle
  position : FsmPosition := .starting
  worker : Device → Worker := fun _ => {}
  eventQ : ThreadSafeQueue Event := {}
  log : List Observation := []

namespace ProcessController

/-- The controller behind `start`. -/
def create (segments : List Segment) : ProcessController where
  segments := segments

/-- `segments_[current_index_]`. -/
def segment (controller : ProcessController) : Segment :=
  controller.segments.getD controller.currentIndex {}

def setWorker (controller : ProcessController) (device : Device) (worker : Worker) :
    ProcessController :=
  { controller with worker := Function.update controller.worker device worker }

def setCmdQ (controller : ProcessController) (device : Device) (cmdQ : ThreadSafeQueue Command) :
    ProcessController :=
  controller.setWorker device { controller.worker device with cmdQ }

/-- A push to the queue of a worker. -/
def issue (controller : ProcessController) (device : Device) (cmd : Command) : ProcessController :=
  { controller.setCmdQ device ((controller.worker device).cmdQ.push cmd) with
    log := controller.log ++ [.issued device cmd] }

def consume (controller : ProcessController) (evt : Event) (rest : ThreadSafeQueue Event) :
    ProcessController :=
  { controller with eventQ := rest, log := controller.log ++ [.consumed evt] }

def handleError (controller : ProcessController) (msg : String) : ProcessController :=
  { controller with state := .error, log := controller.log ++ [.failed msg] }

def handleUnexpectedEvent (controller : ProcessController) (evt : Event) (place : String) :
    ProcessController :=
  { controller with log := controller.log ++ [.unexpected evt place] }

/-- `WaitPlatformArrived`, behind its wait. -/
def platformArrived (controller : ProcessController) (evt : Event) : ProcessController :=
  if evt.segmentId ≠ controller.segment.id then
    controller.handleUnexpectedEvent evt "WaitPlatformArrived"
  else if evt.type = .platformArrived then { controller with state := .openShutterAndCapture }
  else controller.handleError "Platform move failed or unexpected event"

/-- The last test in the loop of `WaitCaptureDone`. -/
def collected (controller : ProcessController) (captureDone shutterOpened : Bool) :
    ProcessController :=
  if captureDone && shutterOpened then
    { controller with state := .closeShutter, position := .switching }
  else { controller with position := .collecting captureDone shutterOpened }

/-- The loop of `WaitCaptureDone`, behind its wait. -/
def collect (controller : ProcessController) (captureDone shutterOpened : Bool) (evt : Event) :
    ProcessController :=
  if evt.segmentId ≠ controller.segment.id then
    controller.handleUnexpectedEvent evt "WaitCaptureDone"
  else
    match evt.type with
    | .shutterOpened => controller.collected captureDone true
    | .captureDone => controller.collected true shutterOpened
    | .captureFailed | .shutterFailed =>
      -- the state is `Error` behind the loop, so its timeout is not reported too
      { controller.handleError "Shutter/Capture failed" with position := .switching }
    -- any other event of the segment is dropped
    | _ => controller.collected captureDone shutterOpened

/-- `SegmentFinished`, behind its wait. -/
def shutterClosed (controller : ProcessController) (evt : Event) : ProcessController :=
  if evt.segmentId ≠ controller.segment.id then
    controller.handleUnexpectedEvent evt "SegmentFinished"
  else if evt.type = .shutterClosed then
    { controller with
      currentIndex := controller.currentIndex + 1
      state := if controller.segments.length ≤ controller.currentIndex + 1 then .taskFinished
        else .moveToPoint }
  else controller.handleError "Expected ShutterClosed"

/-- The body of the loop of `fsmLoop`; a wait ends with nothing once its time is up. -/
def switch (controller : ProcessController) (timedOut : Bool) : ProcessController :=
  match controller.state with
  | .taskLoaded =>
    if controller.segments.isEmpty then { controller with state := .taskFinished }
    else { controller with currentIndex := 0, state := .moveToPoint }
  | .moveToPoint =>
    { controller.issue .platform
        ⟨.movePlatform, controller.segment.id, controller.segment.target⟩ with
      state := .waitPlatformArrived }
  | .waitPlatformArrived =>
    match controller.eventQ.waitAndPopFor timedOut with
    | .waits => controller
    | .nothing => controller.handleError "WaitPlatformArrived timeout"
    | .value evt rest => (controller.consume evt rest).platformArrived evt
  -- `CaptureImage` follows at once, without a wait for `ShutterOpened`
  | .openShutterAndCapture =>
    { controller.issue .shutter ⟨.openShutter, controller.segment.id, {}⟩ with
      position := .triggering }
  -- the deadline is set here, and both flags start anew
  | .waitCaptureDone => { controller with position := .collecting false false }
  | .closeShutter =>
    { controller.issue .shutter ⟨.closeShutter, controller.segment.id, {}⟩ with
      state := .segmentFinished }
  | .segmentFinished =>
    match controller.eventQ.waitAndPopFor timedOut with
    | .waits => controller
    | .nothing => controller.handleError "WaitShutterClosed timeout"
    | .value evt rest => (controller.consume evt rest).shutterClosed evt
  | .taskFinished | .error => { controller with position := .stopping 0 }
  -- the `default` of the switch; the only state left for it
  | .idle => controller.handleError "Unknown FSM state"

/-- The steps of `stopAllWorkers`, and `running_ = false` behind them. -/
def stopAllWorkers (controller : ProcessController) : Nat → ProcessController
  -- each queue gets its `Stop` before it is stopped, so its worker ends at the `Stop`
  | 0 => { controller.issue .platform { type := .stop } with position := .stopping 1 }
  | 1 => { controller.issue .shutter { type := .stop } with position := .stopping 2 }
  | 2 => { controller.issue .camera { type := .stop } with position := .stopping 3 }
  | 3 =>
    { controller.setCmdQ .platform (controller.worker .platform).cmdQ.stop with
      position := .stopping 4 }
  | 4 =>
    { controller.setCmdQ .shutter (controller.worker .shutter).cmdQ.stop with
      position := .stopping 5 }
  | 5 =>
    { controller.setCmdQ .camera (controller.worker .camera).cmdQ.stop with
      position := .stopping 6 }
  | _ =>
    { controller with
      eventQ := controller.eventQ.stop
      running := false
      position := .switching }

/-- A step of the thread of the state machine. -/
def fsmStep (controller : ProcessController) (timedOut : Bool) : ProcessController :=
  match controller.position with
  | .starting => { controller with state := .taskLoaded, position := .switching }
  | .switching =>
    if controller.running then controller.switch timedOut
    else { controller with position := .ended }
  | .triggering =>
    { controller.issue .camera ⟨.captureImage, controller.segment.id, {}⟩ with
      state := .waitCaptureDone
      position := .switching }
  | .collecting captureDone shutterOpened =>
    if timedOut then
      { controller.handleError "WaitCaptureDone timeout" with position := .switching }
    else
      -- a wait of 50 ms that finds nothing comes back to the test of the deadline
      match controller.eventQ.waitAndPopFor true with
      | .waits | .nothing => controller
      | .value evt rest => (controller.consume evt rest).collect captureDone shutterOpened evt
  | .stopping steps => controller.stopAllWorkers steps
  | .ended => controller

/-- A worker pops its next command; when there will be none, its loop ends with the exception. -/
def popStep (controller : ProcessController) (device : Device) : ProcessController :=
  let worker := controller.worker device
  match worker.position with
  | .popping =>
    match worker.cmdQ.waitAndPop with
    | .waits => controller
    | .nothing =>
      { controller.setWorker device { worker with position := .ended } with
        eventQ := controller.eventQ.push ⟨device.failed, -1, "queue stopped"⟩ }
    | .value cmd rest =>
      controller.setWorker device
        { worker with
          cmdQ := rest
          position := .executing cmd
          begun := worker.begun ++ [cmd] }
  | _ => controller

/-- A worker is through with its command. -/
def executeStep (controller : ProcessController) (device : Device) : ProcessController :=
  let worker := controller.worker device
  match worker.position with
  | .executing cmd =>
    { controller.setWorker device
        { worker with
          position := if cmd.type = .stop then .ended else .popping
          executed := worker.executed ++ [cmd] } with
      eventQ :=
        match device.run cmd with
        | some evt => controller.eventQ.push evt
        | none => controller.eventQ }
  | _ => controller

/-- What holds of all workers still does when one of them has changed. -/
theorem forall_setWorker (P : Device → Worker → Prop) {controller : ProcessController}
    {device : Device} {worker : Worker}
    (others : ∀ device', P device' (controller.worker device')) (changed : P device worker) :
    ∀ device', P device' ((controller.setWorker device worker).worker device') :=
  (Function.forall_update_iff controller.worker _).mpr
    ⟨changed, fun device' _ => others device'⟩

/-! ## What a step of a worker can do -/

theorem popStep_cases (controller : ProcessController) (device : Device) :
    controller.popStep device = controller ∨
    (∃ cmd rest, (controller.worker device).position = .popping ∧
      (controller.worker device).cmdQ.queue = cmd :: rest ∧
      controller.popStep device = controller.setWorker device
        { controller.worker device with
          cmdQ := { (controller.worker device).cmdQ with queue := rest }
          position := .executing cmd
          begun := (controller.worker device).begun ++ [cmd] }) ∨
    ((controller.worker device).position = .popping ∧
      ((controller.worker device).cmdQ.queue = [] ∧
        (controller.worker device).cmdQ.stopped = true) ∧
      controller.popStep device =
        { controller.setWorker device { controller.worker device with position := .ended } with
          eventQ := controller.eventQ.push ⟨device.failed, -1, "queue stopped"⟩ }) := by
  unfold popStep
  cases position : (controller.worker device).position with
  | popping =>
    simp only [position, ThreadSafeQueue.waitAndPop]
    cases pending : (controller.worker device).cmdQ.queue with
    | nil =>
      by_cases stopped : (controller.worker device).cmdQ.stopped = true
      · simp [stopped]
      · simp [stopped]
    | cons cmd rest => exact .inr (.inl ⟨cmd, rest, trivial, rfl, rfl⟩)
  | executing _ | ended => simp [position]

theorem executeStep_cases (controller : ProcessController) (device : Device) :
    controller.executeStep device = controller ∨
    ∃ cmd eventQ, (controller.worker device).position = .executing cmd ∧
      eventQ = { controller.eventQ with
        queue := controller.eventQ.queue ++ (device.run cmd).toList } ∧
      controller.executeStep device =
        { controller.setWorker device
            { controller.worker device with
              position := if cmd.type = .stop then .ended else .popping
              executed := (controller.worker device).executed ++ [cmd] } with
          eventQ } := by
  unfold executeStep
  cases position : (controller.worker device).position with
  | executing cmd =>
    refine .inr ⟨cmd, _, rfl, rfl, ?_⟩
    simp only [position]
    cases device.run cmd with
    | none => simp
    | some evt => simp [ThreadSafeQueue.push]
  | popping | ended => simp [position]

theorem popStep_frame (controller : ProcessController) (device : Device) :
    controller.popStep device =
      { controller with
        worker := (controller.popStep device).worker
        eventQ := (controller.popStep device).eventQ } := by
  obtain same | ⟨_, _, _, _, same⟩ | ⟨_, _, same⟩ := controller.popStep_cases device
  · rw [same]
  · rw [same]
    rfl
  · rw [same]
    rfl

theorem executeStep_frame (controller : ProcessController) (device : Device) :
    controller.executeStep device =
      { controller with
        worker := (controller.executeStep device).worker
        eventQ := (controller.executeStep device).eventQ } := by
  obtain same | ⟨_, _, _, _, same⟩ := controller.executeStep_cases device
  · rw [same]
  · rw [same]
    rfl

end ProcessController

inductive Action
  /-- the thread of the state machine, whose time to wait may be up -/
  | fsm (timedOut : Bool)
  | pop (device : Device)
  | execute (device : Device)

/-- One step of one thread; a thread that waits leaves the state as it is. -/
def step : Action → ProcessController → ProcessController
  | .fsm timedOut, controller => controller.fsmStep timedOut
  | .pop device, controller => controller.popStep device
  | .execute device, controller => controller.executeStep device

end PictureReconstruct.Scan
