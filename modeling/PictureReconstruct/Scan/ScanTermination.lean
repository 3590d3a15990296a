import PictureReconstruct.Scan.ShutterClosed
import PictureReconstruct.Scan.ShutterSafety

/-! # The scan comes to its end

* `ProcessController.Enabled`: the steps that change something.
* `ProcessController.rest`: a bound on the steps that are left, whatever fails.
* `ProcessController.stopAllWorkers_cases`: what the steps of `stopAllWorkers` do, and in which
  order.
* `scan_finishes`: every run is bounded, also with failures and timeouts, and one that cannot go on
  has ended all four threads.
-/

namespace PictureReconstruct.Scan

open Library.Runs

/-! ## Steps that change something -/

namespace ProcessController

/-- The thread of the state machine can go on: a wait ends with an event or a timeout. -/
def fsmReady (controller : ProcessController) (timedOut : Bool) : Bool :=
  match controller.position with
  | .switching =>
    if controller.running then
      match controller.state with
      | .waitPlatformArrived | .segmentFinished =>
        !controller.eventQ.queue.isEmpty || controller.eventQ.stopped || timedOut
      | _ => true
    else true
  | .collecting _ _ => !controller.eventQ.queue.isEmpty || timedOut
  | .starting | .triggering | .stopping _ => true
  | .ended => false

def popReady (controller : ProcessController) (device : Device) : Bool :=
  match (controller.worker device).position with
  | .popping => !(controller.worker device).cmdQ.queue.isEmpty ||
      (controller.worker device).cmdQ.stopped
  | .executing _ | .ended => false

def executes (controller : ProcessController) (device : Device) : Bool :=
  match (controller.worker device).position with
  | .executing _ => true
  | .popping | .ended => false

def Enabled : FaultyAction → ProcessController → Prop
  | .action (.fsm timedOut), controller => controller.fsmReady timedOut = true
  | .action (.pop device), controller => controller.popReady device = true
  | .action (.execute device), controller => controller.executes device = true
  | .throws device _ _, controller => controller.executes device = true

instance (action : FaultyAction) (controller : ProcessController) :
    Decidable (Enabled action controller) :=
  match action with
  | .action (.fsm _) | .action (.pop _) | .action (.execute _) | .throws _ _ _ =>
    inferInstanceAs (Decidable (_ = true))

end ProcessController

/-! ## The steps of `stopAllWorkers` -/

/-- The order in which `stopAllWorkers` comes to the queues. -/
def Device.rank : Device → Nat
  | platform => 0
  | shutter => 1
  | camera => 2

/-- A `Stop` for each device, then the end of each queue, both in this order. -/
theorem ProcessController.stopAllWorkers_cases (controller : ProcessController) (steps : Nat) :
    (∃ device : Device, steps = device.rank ∧ controller.stopAllWorkers steps =
      { controller.issue device { type := .stop } with position := .stopping (steps + 1) }) ∨
    (∃ device : Device, steps = device.rank + 3 ∧ controller.stopAllWorkers steps =
      { controller.setCmdQ device (controller.worker device).cmdQ.stop with
        position := .stopping (steps + 1) }) ∨
    (6 ≤ steps ∧ controller.stopAllWorkers steps =
      { controller with
        eventQ := controller.eventQ.stop, running := false, position := .switching }) :=
  match steps with
  | 0 => .inl ⟨.platform, rfl, rfl⟩
  | 1 => .inl ⟨.shutter, rfl, rfl⟩
  | 2 => .inl ⟨.camera, rfl, rfl⟩
  | 3 => .inr (.inl ⟨.platform, rfl, rfl⟩)
  | 4 => .inr (.inl ⟨.shutter, rfl, rfl⟩)
  | 5 => .inr (.inl ⟨.camera, rfl, rfl⟩)
  | steps + 6 => .inr (.inr ⟨Nat.le_add_left 6 steps, rfl⟩)

theorem Device.rank_le (device : Device) : device.rank ≤ 2 := by
  cases device <;> decide

/-! ## A measure of what is left -/

/-- An execution pushes an event, and so does the exception at the end. -/
def WorkerPosition.rest : WorkerPosition → Nat
  | .popping => 2
  | .executing _ => 4
  | .ended => 0

def Worker.rest (worker : Worker) : Nat := worker.position.rest + 3 * worker.cmdQ.queue.length

namespace ProcessController

/-- What is left for the segments behind the current one. -/
def later (controller : ProcessController) : Nat :=
  18 * (controller.segments.length - (controller.currentIndex + 1))

/-- The steps of the state machine, with those for the commands that it still issues. -/
def fsmRest (controller : ProcessController) : Nat :=
  match controller.position with
  | .starting => 18 * controller.segments.length + 20
  | .switching =>
    if controller.running then
      match controller.state with
      | .idle => 19
      | .taskLoaded => 18 * controller.segments.length + 19
      | .moveToPoint => controller.later + 36
      | .waitPlatformArrived | .openShutterAndCapture => controller.later + 32
      | .waitCaptureDone => controller.later + 24
      | .closeShutter => controller.later + 23
      | .segmentFinished => controller.later + 19
      | .taskFinished | .error => 18
    else 1
  | .triggering => controller.later + 28
  | .collecting _ _ => controller.later + 23
  | .stopping steps => if steps ≤ 3 then 17 - 4 * steps else 8 - min steps 6
  | .ended => 0

def workersRest (controller : ProcessController) : Nat :=
  (controller.worker .platform).rest + (controller.worker .shutter).rest +
    (controller.worker .camera).rest

/-- A bound on the steps of the four threads. -/
def rest (controller : ProcessController) : Nat :=
  controller.fsmRest + controller.workersRest + controller.eventQ.queue.length

variable {controller : ProcessController} {device : Device} {cmd : Command}

theorem workersRest_issue (controller : ProcessController) (device : Device) (cmd : Command) :
    (controller.issue device cmd).workersRest = controller.workersRest + 3 := by
  cases device <;>
    simp [workersRest, issue, setCmdQ, setWorker, Worker.rest, ThreadSafeQueue.push] <;> omega

theorem workersRest_stop (controller : ProcessController) (device : Device) :
    (controller.setCmdQ device (controller.worker device).cmdQ.stop).workersRest =
      controller.workersRest := by
  cases device <;> simp [workersRest, setCmdQ, setWorker, Worker.rest, ThreadSafeQueue.stop]

/-- One worker goes on, the others stay. -/
theorem workersRest_setWorker (controller : ProcessController) (device : Device)
    (worker : Worker) : (controller.setWorker device worker).workersRest +
      (controller.worker device).rest = controller.workersRest + worker.rest := by
  cases device <;> simp [workersRest, setWorker] <;> omega

end ProcessController

/-- A wait that can end does. -/
theorem ThreadSafeQueue.waitAndPopFor_ready {α : Type} {queue : ThreadSafeQueue α}
    {timedOut : Bool} (ready : (!queue.queue.isEmpty || queue.stopped || timedOut) = true) :
    queue.waitAndPopFor timedOut = .nothing ∨
    ∃ value rest, queue.queue = value :: rest.queue ∧ rest.stopped = queue.stopped ∧
      queue.waitAndPopFor timedOut = .value value rest := by
  obtain waits | ends := queue.waitAndPopFor_cases timedOut
  · unfold waitAndPopFor at waits
    cases held : queue.queue with
    | nil =>
      rw [held] at waits ready
      simp only [List.isEmpty_nil, Bool.not_true, Bool.false_or] at ready
      simp [ready] at waits
    | cons value rest =>
      rw [held] at waits
      cases waits
  · exact ends

/-! ## Every step takes from it -/

namespace ProcessController

variable {controller after : ProcessController} {device : Device} {cmd : Command} {evt : Event}
  {behind : ThreadSafeQueue Event} {timedOut : Bool}

theorem issue_rest_lt (place : after.fsmRest + 3 < controller.fsmRest)
    (workers : after.worker = (controller.issue device cmd).worker)
    (events : after.eventQ = controller.eventQ) : after.rest < controller.rest := by
  have pushed := workersRest_issue controller device cmd
  simp only [rest, workersRest, workers, events] at *
  omega

theorem stop_rest_lt (place : after.fsmRest < controller.fsmRest)
    (workers : after.worker =
      (controller.setCmdQ device (controller.worker device).cmdQ.stop).worker)
    (events : after.eventQ = controller.eventQ) : after.rest < controller.rest := by
  have flagged := workersRest_stop controller device
  simp only [rest, workersRest, workers, events] at *
  omega

/-- An event is consumed, and the state machine does not go back. -/
theorem consume_rest_lt (head : controller.eventQ.queue = evt :: behind.queue)
    (place : after.fsmRest ≤ controller.fsmRest) (workers : after.worker = controller.worker)
    (events : after.eventQ = behind) : after.rest < controller.rest := by
  simp only [rest, workersRest, workers, events, head, List.length_cons]
  omega

theorem jump_rest_lt (place : after.fsmRest < controller.fsmRest)
    (workers : after.worker = controller.worker)
    (events : after.eventQ.queue = controller.eventQ.queue) : after.rest < controller.rest := by
  simp only [rest, workersRest, workers, events]
  omega

theorem platformArrived_rest_lt (running : controller.running = true)
    (position : controller.position = .switching)
    (state : controller.state = .waitPlatformArrived)
    (head : controller.eventQ.queue = evt :: behind.queue) :
    ((controller.consume evt behind).platformArrived evt).rest < controller.rest := by
  unfold platformArrived
  split
  · exact consume_rest_lt head (by simp [fsmRest, later, consume, handleUnexpectedEvent]) rfl rfl
  · split
    · refine consume_rest_lt head ?_ rfl rfl
      simp [fsmRest, later, consume, running, position, state]
    · refine consume_rest_lt head ?_ rfl rfl
      simp [fsmRest, later, consume, handleError, running, position, state]

theorem shutterClosed_rest_lt (running : controller.running = true)
    (position : controller.position = .switching) (state : controller.state = .segmentFinished)
    (head : controller.eventQ.queue = evt :: behind.queue) :
    ((controller.consume evt behind).shutterClosed evt).rest < controller.rest := by
  unfold shutterClosed
  split
  · exact consume_rest_lt head (by simp [fsmRest, later, consume, handleUnexpectedEvent]) rfl rfl
  · split
    · refine consume_rest_lt head ?_ rfl rfl
      by_cases last : controller.segments.length ≤ controller.currentIndex + 1
      · simp [fsmRest, later, consume, running, position, state, last]
      · simp [fsmRest, later, consume, running, position, state, last]
        omega
    · refine consume_rest_lt head ?_ rfl rfl
      simp [fsmRest, later, consume, handleError, running, position, state]

theorem collect_rest_lt {captureDone shutterOpened : Bool}
    (position : controller.position = .collecting captureDone shutterOpened)
    (head : controller.eventQ.queue = evt :: behind.queue) :
    ((controller.consume evt behind).collect captureDone shutterOpened evt).rest <
      controller.rest := by
  have collected : ∀ captureDone shutterOpened,
      ((controller.consume evt behind).collected captureDone shutterOpened).rest <
        controller.rest := by
    intro captureDone shutterOpened
    unfold ProcessController.collected
    split
    · refine consume_rest_lt head ?_ rfl rfl
      simp only [fsmRest, later, consume, position]
      split <;> omega
    · exact consume_rest_lt head (by simp [fsmRest, later, consume, position]) rfl rfl
  have failed : ({ (controller.consume evt behind).handleError "Shutter/Capture failed" with
      position := .switching } : ProcessController).rest < controller.rest := by
    refine consume_rest_lt head ?_ rfl rfl
    simp only [fsmRest, later, consume, handleError, position]
    split <;> omega
  unfold collect
  split
  · exact consume_rest_lt head
      (by simp [fsmRest, later, consume, handleUnexpectedEvent, position]) rfl rfl
  · split
    · exact collected _ _
    · exact collected _ _
    · exact failed
    · exact failed
    · exact collected _ _

theorem switch_rest_lt (running : controller.running = true)
    (position : controller.position = .switching)
    (ready : controller.fsmReady timedOut = true) :
    (controller.switch timedOut).rest < controller.rest := by
  unfold switch
  cases state : controller.state with
  | taskLoaded =>
    simp only
    split
    · exact jump_rest_lt (by simp [fsmRest, running, position, state]) rfl rfl
    · next filled =>
      have remaining : 0 < controller.segments.length :=
        List.length_pos_of_ne_nil fun empty => filled (by rw [empty]; rfl)
      refine jump_rest_lt ?_ rfl rfl
      simp only [fsmRest, later, running, position, state, if_true]
      omega
  | moveToPoint =>
    refine issue_rest_lt ?_ rfl rfl
    simp [fsmRest, later, issue, setCmdQ, setWorker, running, position, state]
  | waitPlatformArrived =>
    simp only
    simp only [fsmReady, position, running, state, if_true] at ready
    obtain ended | ⟨evt, behind, head, _, ended⟩ := ThreadSafeQueue.waitAndPopFor_ready ready
    · rw [ended]
      refine jump_rest_lt ?_ rfl rfl
      simp [fsmRest, later, handleError, running, position, state]
    · rw [ended]
      exact platformArrived_rest_lt running position state head
  | openShutterAndCapture =>
    refine issue_rest_lt ?_ rfl rfl
    simp [fsmRest, later, issue, setCmdQ, setWorker, running, position, state]
  | waitCaptureDone =>
    exact jump_rest_lt (by simp [fsmRest, later, running, position, state]) rfl rfl
  | closeShutter =>
    refine issue_rest_lt ?_ rfl rfl
    simp [fsmRest, later, issue, setCmdQ, setWorker, running, position, state]
  | segmentFinished =>
    simp only
    simp only [fsmReady, position, running, state, if_true] at ready
    obtain ended | ⟨evt, behind, head, _, ended⟩ := ThreadSafeQueue.waitAndPopFor_ready ready
    · rw [ended]
      refine jump_rest_lt ?_ rfl rfl
      simp [fsmRest, later, handleError, running, position, state]
    · rw [ended]
      exact shutterClosed_rest_lt running position state head
  | taskFinished | error =>
    exact jump_rest_lt (by simp [fsmRest, running, position, state]) rfl rfl
  | idle =>
    exact jump_rest_lt (by simp [fsmRest, handleError, running, position, state]) rfl rfl

theorem stopAllWorkers_rest_lt {steps : Nat} (position : controller.position = .stopping steps) :
    (controller.stopAllWorkers steps).rest < controller.rest := by
  have before : controller.fsmRest = if steps ≤ 3 then 17 - 4 * steps else 8 - min steps 6 := by
    simp only [fsmRest, position]
  obtain ⟨device, turn, same⟩ | ⟨device, turn, same⟩ | ⟨late, same⟩ :=
    controller.stopAllWorkers_cases steps
  · have rank := device.rank_le
    rw [same]
    refine issue_rest_lt ?_ rfl rfl
    rw [before, if_pos (by omega)]
    simp only [fsmRest]
    rw [if_pos (by omega)]
    omega
  · have rank := device.rank_le
    rw [same]
    refine stop_rest_lt ?_ rfl rfl
    rw [before]
    simp only [fsmRest]
    rw [if_neg (by omega)]
    split <;> omega
  · rw [same]
    refine jump_rest_lt ?_ rfl rfl
    rw [before, if_neg (by omega)]
    simp [fsmRest]
    omega

theorem fsmStep_rest_lt (ready : controller.fsmReady timedOut = true) :
    (controller.fsmStep timedOut).rest < controller.rest := by
  unfold fsmStep
  cases position : controller.position with
  | starting =>
    refine jump_rest_lt ?_ rfl rfl
    simp only [fsmRest, position]
    split <;> omega
  | switching =>
    simp only
    split
    · next running => exact switch_rest_lt running position ready
    · next through => exact jump_rest_lt (by simp [fsmRest, position, through]) rfl rfl
  | triggering =>
    refine issue_rest_lt ?_ rfl rfl
    simp only [fsmRest, later, issue, setCmdQ, setWorker, position]
    split <;> omega
  | collecting captureDone shutterOpened =>
    simp only
    split
    · refine jump_rest_lt ?_ rfl rfl
      simp only [fsmRest, later, handleError, position]
      split <;> omega
    · next waiting =>
      simp only [fsmReady, position, waiting, Bool.or_false] at ready
      obtain ⟨evt, queue, head⟩ : ∃ evt queue, controller.eventQ.queue = evt :: queue :=
        List.exists_cons_of_ne_nil (by simpa using ready)
      have pops : controller.eventQ.waitAndPopFor true =
          .value evt { controller.eventQ with queue } := by
        simp [ThreadSafeQueue.waitAndPopFor, head]
      rw [pops]
      exact collect_rest_lt position head
  | stopping steps => exact stopAllWorkers_rest_lt position
  | ended => simp [fsmReady, position] at ready

/-- A worker goes on, and pushes at most as many events as it leaves steps behind. -/
theorem setWorker_rest_lt {worker : Worker} {eventQ : ThreadSafeQueue Event} (evts : List Event)
    (pushed : eventQ.queue = controller.eventQ.queue ++ evts)
    (less : worker.rest + evts.length < (controller.worker device).rest) :
    ({ controller.setWorker device worker with eventQ } : ProcessController).rest <
      controller.rest := by
  have workers := workersRest_setWorker controller device worker
  have place : ({ controller.setWorker device worker with eventQ } : ProcessController).fsmRest =
      controller.fsmRest := rfl
  have queued : ({ controller.setWorker device worker with eventQ } :
      ProcessController).workersRest = (controller.setWorker device worker).workersRest := rfl
  simp only [rest, place, queued, pushed, List.length_append]
  omega

theorem popStep_rest_lt (ready : controller.popReady device = true) :
    (controller.popStep device).rest < controller.rest := by
  unfold popReady at ready
  unfold popStep
  cases position : (controller.worker device).position with
  | popping =>
    simp only [position] at ready
    simp only [position, ThreadSafeQueue.waitAndPop]
    cases pending : (controller.worker device).cmdQ.queue with
    | nil =>
      have stopped : (controller.worker device).cmdQ.stopped = true := by
        simpa [pending] using ready
      simp only [stopped, if_true]
      refine setWorker_rest_lt [_] rfl ?_
      simp [Worker.rest, WorkerPosition.rest, position]
      omega
    | cons cmd queue =>
      refine setWorker_rest_lt [] (List.append_nil _).symm ?_
      simp [Worker.rest, WorkerPosition.rest, position, pending]
      omega
  | executing cmd | ended => simp [position] at ready

theorem executing_of_executes (ready : controller.executes device = true) :
    ∃ cmd, (controller.worker device).position = .executing cmd := by
  unfold executes at ready
  cases position : (controller.worker device).position with
  | executing cmd => exact ⟨cmd, rfl⟩
  | popping | ended => simp [position] at ready

theorem executeStep_rest_lt (ready : controller.executes device = true) :
    (controller.executeStep device).rest < controller.rest := by
  obtain ⟨cmd, position⟩ := executing_of_executes ready
  have through : (if cmd.type = .stop then WorkerPosition.ended else .popping).rest ≤ 2 := by
    split <;> simp [WorkerPosition.rest]
  unfold executeStep
  simp only [position]
  cases device.run cmd with
  | none =>
    refine setWorker_rest_lt [] (List.append_nil _).symm ?_
    simp only [Worker.rest, position, WorkerPosition.rest, List.length_nil] at *
    omega
  | some evt =>
    refine setWorker_rest_lt [evt] rfl ?_
    simp only [Worker.rest, position, WorkerPosition.rest, List.length_singleton] at *
    omega

theorem throwStep_rest_lt (ready : controller.executes device = true) (acted : Bool)
    (what : String) : (controller.throwStep device acted what).rest < controller.rest := by
  obtain ⟨cmd, position⟩ := executing_of_executes ready
  simp only [throwStep, position]
  refine setWorker_rest_lt [_] rfl ?_
  simp [Worker.rest, WorkerPosition.rest, position]
  omega

theorem rest_lt {action : FaultyAction}
    (enabled : Enabled action controller) :
    (faultyStep action controller).rest < controller.rest := by
  cases action with
  | action action =>
    cases action with
    | fsm timedOut => exact fsmStep_rest_lt enabled
    | pop device => exact popStep_rest_lt enabled
    | execute device => exact executeStep_rest_lt enabled
  | throws device acted what => exact throwStep_rest_lt enabled acted what

theorem rest_create (segments : List Segment) :
    (create segments).rest = 18 * segments.length + 26 := by
  simp [rest, fsmRest, workersRest, create, Worker.rest, WorkerPosition.rest]

end ProcessController

/-! ## The queues are stopped for every worker -/

namespace ProcessController

/-- A queue that `stopAllWorkers` is past is stopped. -/
structure HungUp (controller : ProcessController) : Prop where
  stopping : ∀ device steps, controller.position = .stopping steps → device.rank + 4 ≤ steps →
    (controller.worker device).cmdQ.stopped = true
  through : controller.running = false →
    ∀ device, (controller.worker device).cmdQ.stopped = true
  ended : controller.position = .ended → controller.running = false
  live : ∀ steps, controller.position = .stopping steps → controller.running = true

/-- The step is none that stops a queue or ends the thread. -/
structure Calm (before after : ProcessController) : Prop where
  running : after.running = before.running
  flags : ∀ device, (after.worker device).cmdQ.stopped = (before.worker device).cmdQ.stopped
  going : after.position ≠ .ended
  early : ∀ steps, after.position = .stopping steps → steps ≤ 3 ∧ after.running = true

section Steps

variable {controller after : ProcessController} {evt : Event} {behind : ThreadSafeQueue Event}

theorem HungUp.calm (hungUp : HungUp controller) (calm : Calm controller after) :
    HungUp after where
  stopping device steps position late := by
    have few := (calm.early steps position).1
    omega
  through through device := by
    rw [calm.flags]
    exact hungUp.through (calm.running ▸ through) device
  ended ended := absurd ended calm.going
  live steps position := (calm.early steps position).2

@[simp] theorem issue_stopped (controller : ProcessController) (device device' : Device)
    (cmd : Command) : ((controller.issue device cmd).worker device').cmdQ.stopped =
      (controller.worker device').cmdQ.stopped := by
  by_cases same : device' = device
  · subst same
    simp [issue, setCmdQ, setWorker, ThreadSafeQueue.push]
  · simp [issue, setCmdQ, setWorker, same]

theorem calm_of_place (workers : after.worker = controller.worker)
    (running : after.running = controller.running) (going : after.position ≠ .ended)
    (early : ∀ steps, after.position = .stopping steps → steps ≤ 3 ∧ after.running = true) :
    Calm controller after :=
  ⟨running, fun device => by rw [workers], going, early⟩

theorem switch_calm (alive : controller.running = true)
    (position : controller.position = .switching) (timedOut : Bool) :
    Calm controller (controller.switch timedOut) := by
  have stays : ∀ {after : ProcessController}, after.worker = controller.worker →
      after.running = controller.running → after.position = controller.position →
      Calm controller after := fun workers running same =>
    calm_of_place workers running (by simp [same, position]) (by simp [same, position])
  have issues : ∀ {after : ProcessController} (device : Device) (cmd : Command),
      after.worker = (controller.issue device cmd).worker → after.running = controller.running →
      (after.position = .switching ∨ after.position = .triggering) → Calm controller after := by
    intro after device cmd workers running place
    refine ⟨running, fun device' => by rw [workers, issue_stopped], fun ended => ?_,
      fun steps stopping => ?_⟩
    · simp [ended] at place
    · simp [stopping] at place
  unfold switch
  cases state : controller.state with
  | taskLoaded =>
    simp only
    split
    · exact stays rfl rfl rfl
    · exact stays rfl rfl rfl
  | moveToPoint => exact issues .platform _ rfl rfl (.inl position)
  | waitPlatformArrived =>
    simp only
    split
    · exact stays rfl rfl rfl
    · exact stays rfl rfl rfl
    · unfold platformArrived
      split
      · exact stays rfl rfl rfl
      · split
        · exact stays rfl rfl rfl
        · exact stays rfl rfl rfl
  | openShutterAndCapture => exact issues .shutter _ rfl rfl (.inr rfl)
  | waitCaptureDone => exact calm_of_place rfl rfl (by simp) (by simp)
  | closeShutter => exact issues .shutter _ rfl rfl (.inl position)
  | segmentFinished =>
    simp only
    split
    · exact stays rfl rfl rfl
    · exact stays rfl rfl rfl
    · unfold shutterClosed
      split
      · exact stays rfl rfl rfl
      · split
        · exact stays rfl rfl rfl
        · exact stays rfl rfl rfl
  -- both go on with the first step of `stopAllWorkers`, which stops no queue yet
  | taskFinished | error => exact calm_of_place rfl rfl (by simp) (by simp [alive])
  | idle => exact stays rfl rfl rfl

theorem collect_calm {captureDone shutterOpened : Bool}
    (position : controller.position = .collecting captureDone shutterOpened) :
    Calm controller ((controller.consume evt behind).collect captureDone shutterOpened evt) := by
  have collected : ∀ captureDone shutterOpened,
      Calm controller ((controller.consume evt behind).collected captureDone shutterOpened) := by
    intro captureDone shutterOpened
    unfold ProcessController.collected
    split
    · exact calm_of_place rfl rfl (by simp) (by simp)
    · exact calm_of_place rfl rfl (by simp) (by simp)
  unfold collect
  split
  · exact calm_of_place rfl rfl (by simp [handleUnexpectedEvent, consume, position])
      (by simp [handleUnexpectedEvent, consume, position])
  · split
    · exact collected _ _
    · exact collected _ _
    · exact calm_of_place rfl rfl (by simp) (by simp)
    · exact calm_of_place rfl rfl (by simp) (by simp)
    · exact collected _ _

theorem HungUp.stopAllWorkers (hungUp : HungUp controller) {steps : Nat}
    (position : controller.position = .stopping steps) :
    HungUp (controller.stopAllWorkers steps) := by
  have running := hungUp.live steps position
  have stopped := fun device => hungUp.stopping device steps position
  have early : ∀ {after : ProcessController} {next : Nat}, next ≤ 3 →
      after.position = .stopping next → after.running = true → HungUp after := by
    intro after next few place running
    refine ⟨fun device late is behind => ?_, fun through => ?_, fun ended => ?_,
      fun _ _ => running⟩
    · rw [place] at is
      cases is
      omega
    · simp [running] at through
    · simp [place] at ended
  -- each of the three queues is stopped in a step of its own, in the order of the ranks
  have stops : ∀ device : Device, steps = device.rank + 3 →
      HungUp { controller.setCmdQ device (controller.worker device).cmdQ.stop with
        position := .stopping (steps + 1) } := by
    intro device turn
    refine ⟨fun device' late is behind => ?_, fun through => ?_, by simp, fun _ _ => running⟩
    · cases is
      by_cases same : device' = device
      · subst same
        simp [setCmdQ, setWorker, ThreadSafeQueue.stop]
      · have before : device'.rank + 4 ≤ steps := by
          cases device <;> cases device' <;> simp_all [Device.rank]
        simpa [setCmdQ, setWorker, same] using stopped device' before
    · simp [setCmdQ, setWorker, running] at through
  obtain ⟨device, turn, same⟩ | ⟨device, turn, same⟩ | ⟨late, same⟩ :=
    controller.stopAllWorkers_cases steps
  · have rank := device.rank_le
    rw [same]
    exact early (by omega) rfl running
  · rw [same]
    exact stops device turn
  · rw [same]
    refine ⟨by simp, fun _ device => ?_, by simp, by simp⟩
    have rank := device.rank_le
    exact stopped device (by omega)

theorem HungUp.fsmStep (hungUp : HungUp controller) (timedOut : Bool) :
    HungUp (controller.fsmStep timedOut) := by
  unfold ProcessController.fsmStep
  cases position : controller.position with
  | starting => exact hungUp.calm (calm_of_place rfl rfl (by simp) (by simp))
  | switching =>
    simp only
    split
    · next alive => exact hungUp.calm (switch_calm alive position timedOut)
    · next through =>
      have through : controller.running = false := by simpa using through
      exact ⟨nofun, fun _ => hungUp.through through, fun _ => through, nofun⟩
  | triggering =>
    refine hungUp.calm ⟨rfl, fun device => ?_, by simp, by simp⟩
    exact issue_stopped controller .camera device _
  | collecting captureDone shutterOpened =>
    simp only
    split
    · exact hungUp.calm (calm_of_place rfl rfl (by simp) (by simp))
    · split
      · exact hungUp
      · exact hungUp
      · exact hungUp.calm (collect_calm position)
  | stopping steps => exact hungUp.stopAllWorkers position
  | ended => exact hungUp

/-- A worker goes on with the same queue. -/
theorem HungUp.setWorker (hungUp : HungUp controller) {device : Device} {worker : Worker}
    {eventQ : ThreadSafeQueue Event}
    (flag : worker.cmdQ.stopped = (controller.worker device).cmdQ.stopped) :
    HungUp { controller.setWorker device worker with eventQ } := by
  have flags : ∀ device', ((controller.setWorker device worker).worker device').cmdQ.stopped =
      (controller.worker device').cmdQ.stopped := by
    intro device'
    by_cases same : device' = device
    · subst same
      simpa [ProcessController.setWorker] using flag
    · simp [ProcessController.setWorker, same]
  refine ⟨fun device' steps position late => ?_, fun through device' => ?_, hungUp.ended,
    hungUp.live⟩
  · exact (flags device').trans (hungUp.stopping device' steps position late)
  · exact (flags device').trans (hungUp.through through device')

theorem HungUp.step (hungUp : HungUp controller) (action : FaultyAction) :
    HungUp (faultyStep action controller) := by
  cases action with
  | action action =>
    cases action with
    | fsm timedOut => exact hungUp.fsmStep timedOut
    | pop device =>
      obtain same | ⟨cmd, rest, _, _, same⟩ | ⟨_, _, same⟩ := controller.popStep_cases device
      · rw [faultyStep, Scan.step, same]
        exact hungUp
      · rw [faultyStep, Scan.step, same]
        exact hungUp.setWorker rfl
      · rw [faultyStep, Scan.step, same]
        exact hungUp.setWorker rfl
    | execute device =>
      obtain same | ⟨cmd, eventQ, _, _, same⟩ := controller.executeStep_cases device
      · rw [faultyStep, Scan.step, same]
        exact hungUp
      · rw [faultyStep, Scan.step, same]
        exact hungUp.setWorker rfl
  | throws device acted what =>
    rw [faultyStep, throwStep]
    split
    · exact hungUp.setWorker rfl
    · exact hungUp

theorem HungUp.create (segments : List Segment) : HungUp (create segments) :=
  ⟨nofun, nofun, nofun, nofun⟩

/-- Behind the end of the state machine, who cannot go on has ended. -/
theorem HungUp.workers_ended (hungUp : HungUp controller) (ended : controller.position = .ended)
    (device : Device) (waits : controller.popReady device ≠ true)
    (idle : controller.executes device ≠ true) : (controller.worker device).position = .ended := by
  have stopped := hungUp.through (hungUp.ended ended) device
  cases position : (controller.worker device).position with
  | popping => simp [popReady, position, stopped] at waits
  | executing cmd => simp [executes, position] at idle
  | ended => rfl

theorem ended_of_not_ready (still : controller.fsmReady true ≠ true) :
    controller.position = .ended := by
  unfold fsmReady at still
  cases position : controller.position with
  | ended => rfl
  | switching =>
    simp only [position] at still
    split at still
    · split at still <;> simp at still
    · simp at still
  | starting | triggering | stopping _ | collecting _ _ => simp [position] at still

end Steps

end ProcessController

open ProcessController

/-- With any failures of the devices and any timeouts, however the four threads are scheduled: there
    are at most 18 steps for each segment and 26 others, and where no thread can go on, all four
    have ended, so that `join` returns. -/
theorem scan_finishes (segments : List Segment) (actions : List FaultyAction)
    (steps : Admits faultyStep Enabled actions (create segments)) :
    actions.length ≤ 18 * segments.length + 26 ∧
    ((∀ action, ¬ Enabled action (run faultyStep actions (create segments))) →
      Ended (run faultyStep actions (create segments))) := by
  constructor
  · rw [← rest_create]
    exact length_le (I := fun _ => True) (fun _ _ _ enabled => ⟨trivial, rest_lt enabled⟩)
      actions _ trivial steps
  · intro still
    have hungUp : HungUp (run faultyStep actions (create segments)) :=
      run_keeps (fun action _ hungUp => hungUp.step action) actions _ (.create segments)
    have ended := ended_of_not_ready (still (.action (.fsm true)))
    exact ⟨ended, fun device => hungUp.workers_ended ended device
      (still (.action (.pop device))) (still (.action (.execute device)))⟩

/-- The camera fails on the only segment, and the capture times out. -/
def failingCapture : List FaultyAction :=
  [.action (.fsm false), .action (.fsm false), .action (.fsm false), .action (.pop .platform),
    .action (.execute .platform), .action (.fsm false), .action (.fsm false), .action (.fsm false),
    .action (.fsm false), .action (.pop .camera), .throws .camera false "no image",
    .action (.fsm true), .action (.fsm false), .action (.fsm false), .action (.pop .shutter)]

theorem scan_finishes_failing :
    failingCapture.length ≤ 18 * [({ id := 1 } : Segment)].length + 26 ∧
    ((∀ action, ¬ Enabled action (run faultyStep failingCapture (create [{ id := 1 }]))) →
      Ended (run faultyStep failingCapture (create [{ id := 1 }]))) :=
  scan_finishes [{ id := 1 }] failingCapture (by decide)

end PictureReconstruct.Scan
