import PictureReconstruct.Scan.ProcessController

/-! # Every command and its event

A command that was issued has been executed or is on its way to be, and every executed command has
one event, which was consumed or waits in the queue.

* `Accounted`: this holds in every state, by device and in order.
* `Unstopped`: before `stopAllWorkers`, no command but work and no event but an answer is around.
* `next_answer`: the next event is the answer to the oldest command whose answer is missing.
-/

namespace PictureReconstruct.Scan

open ProcessController (forall_setWorker)

/-- The device whose answer to a command is an event of this type. -/
def EventType.device : EventType → Option Device
  | platformArrived => some .platform
  | shutterOpened | shutterClosed => some .shutter
  | captureDone => some .camera
  | _ => none

/-- All commands but `Stop`. -/
def work (cmds : List Command) : List Command := cmds.filter (·.type ≠ .stop)

def eventsFrom (device : Device) (evts : List Event) : List Event :=
  evts.filter (·.type.device = some device)

/-- The answers of a device to commands. -/
def answers (device : Device) (cmds : List Command) : List Event :=
  eventsFrom device (cmds.filterMap device.run)

def Observation.issuedTo (device : Device) : Observation → Option Command
  | issued device' cmd => if device' = device then some cmd else none
  | _ => none

def Observation.consumedEvent : Observation → Option Event
  | consumed evt => some evt
  | _ => none

def issuedTo (device : Device) (log : List Observation) : List Command :=
  log.filterMap (·.issuedTo device)

def consumed (log : List Observation) : List Event := log.filterMap Observation.consumedEvent

/-! ## Answers -/

section Answers

variable {device device' : Device} {cmd : Command} {evt : Event}

theorem run_device (answered : device.run cmd = some evt) :
    evt.type.device = if cmd.type = .stop then none else some device := by
  obtain ⟨type, id, pos⟩ := cmd
  cases device <;> cases type <;>
    simp [Device.run, platformRun, shutterRun, cameraRun] at answered <;> subst answered <;> rfl

theorem eventsFrom_append (device : Device) (evts evts' : List Event) :
    eventsFrom device (evts ++ evts') = eventsFrom device evts ++ eventsFrom device evts' :=
  List.filter_append evts evts'

theorem answers_append (device : Device) (cmds cmds' : List Command) :
    answers device (cmds ++ cmds') = answers device cmds ++ answers device cmds' := by
  rw [answers, List.filterMap_append, eventsFrom_append]
  rfl

theorem work_append (cmds cmds' : List Command) : work (cmds ++ cmds') = work cmds ++ work cmds' :=
  List.filter_append cmds cmds'

/-- A device does not answer for another one. -/
theorem eventsFrom_run (device device' : Device) (cmd : Command) :
    eventsFrom device' (device.run cmd).toList = if device = device' then answers device' [cmd]
      else [] := by
  cases answered : device.run cmd with
  | none =>
    split
    · next same => rw [answers, ← same, List.filterMap_cons_none answered]; rfl
    · rfl
  | some evt =>
    split
    · next same => rw [answers, ← same, List.filterMap_cons_some answered]; rfl
    · next other =>
      have from_device := run_device answered
      rw [eventsFrom, Option.toList_some, List.filter_cons_of_neg]
      · rfl
      · rw [from_device]
        split <;> simp [other]

theorem answers_stop (stop : cmd.type = .stop) : answers device [cmd] = [] := by
  cases answered : device.run cmd with
  | none => rw [answers, List.filterMap_cons_none answered]; rfl
  | some evt =>
    have from_device := run_device answered
    rw [if_pos stop] at from_device
    simp [answers, eventsFrom, answered, from_device]

/-- `Stop` has no answer. -/
theorem answers_work (device : Device) (cmds : List Command) :
    answers device (work cmds) = answers device cmds := by
  induction cmds with
  | nil => rfl
  | cons cmd cmds ih =>
    rw [← List.singleton_append, work_append, answers_append, answers_append, ih]
    by_cases stop : cmd.type = .stop
    · have workless : work [cmd] = [] := by simp [work, stop]
      rw [workless, answers_stop stop]
      rfl
    · have all : work [cmd] = [cmd] := by simp [work, stop]
      rw [all]

/-- Commands that the device has an answer for. -/
def Known (device : Device) (cmds : List Command) : Prop :=
  ∀ cmd ∈ cmds, (answers device [cmd]).length = 1

theorem Known.length_answers {cmds : List Command} (known : Known device cmds) :
    (answers device cmds).length = cmds.length := by
  induction cmds with
  | nil => rfl
  | cons cmd cmds ih =>
    rw [← List.singleton_append, answers_append, List.length_append,
      known cmd List.mem_cons_self, ih fun other member => known other (.tail cmd member),
      List.length_append, List.length_singleton]

end Answers

/-! ## Every state -/

structure Accounted (controller : ProcessController) : Prop where
  /-- the commands come in the order of the queue -/
  issued : ∀ device, issuedTo device controller.log =
    (controller.worker device).executed ++ (controller.worker device).inFlight
  begun : ∀ device, (controller.worker device).begun =
    (controller.worker device).executed ++ (controller.worker device).position.commands
  /-- exactly one event for each command, in the order of the commands -/
  events : ∀ device, eventsFrom device (consumed controller.log ++ controller.eventQ.queue) =
    answers device (controller.worker device).executed

/-- `stopAllWorkers` has not begun. -/
structure Unstopped (controller : ProcessController) : Prop where
  running : controller.running = true
  queues : ∀ device, (controller.worker device).cmdQ.stopped = false
  commands : ∀ device, ∀ cmd ∈ issuedTo device controller.log, cmd.type ≠ .stop
  eventQ : controller.eventQ.stopped = false
  events : ∀ evt ∈ controller.eventQ.queue, ∃ device, evt.type.device = some device

section Operations

variable {controller : ProcessController} {device : Device} {cmd : Command} {evt : Event}
  {rest : ThreadSafeQueue Event} {log : List Observation} {observation : Observation}

theorem issuedTo_snoc (device : Device) (log : List Observation) (observation : Observation) :
    issuedTo device (log ++ [observation]) =
      issuedTo device log ++ (observation.issuedTo device).toList := by
  rw [issuedTo, List.filterMap_append, issuedTo]
  cases answered : observation.issuedTo device <;> simp [answered]

theorem consumed_snoc (log : List Observation) (observation : Observation) :
    consumed (log ++ [observation]) = consumed log ++ observation.consumedEvent.toList := by
  rw [consumed, List.filterMap_append, consumed]
  cases answered : observation.consumedEvent <;> simp [answered]

/-- Where the state machine is does not matter for the accounts. -/
theorem Accounted.placed (accounted : Accounted controller) (index : Nat) (state : FsmState)
    (position : FsmPosition) :
    Accounted { controller with currentIndex := index, state, position } :=
  ⟨accounted.issued, accounted.begun, accounted.events⟩

theorem Unstopped.placed (unstopped : Unstopped controller) (index : Nat) (state : FsmState)
    (position : FsmPosition) :
    Unstopped { controller with currentIndex := index, state, position } :=
  ⟨unstopped.running, unstopped.queues, unstopped.commands, unstopped.eventQ, unstopped.events⟩

/-- A line on `cerr` changes no account. -/
theorem Accounted.print (accounted : Accounted controller) (observation : Observation)
    (issues : ∀ device, observation.issuedTo device = none)
    (consumes : observation.consumedEvent = none) :
    Accounted { controller with log := controller.log ++ [observation] } where
  issued device := by
    rw [issuedTo_snoc, issues, Option.toList_none, List.append_nil]
    exact accounted.issued device
  begun := accounted.begun
  events device := by
    rw [consumed_snoc, consumes, Option.toList_none, List.append_nil]
    exact accounted.events device

theorem Accounted.issue (accounted : Accounted controller) :
    Accounted (controller.issue device cmd) where
  issued device' := by
    have before := accounted.issued device'
    simp only [ProcessController.issue, ProcessController.setCmdQ, ProcessController.setWorker,
      issuedTo_snoc, Observation.issuedTo, before]
    by_cases same : device' = device
    · subst same
      simp [Worker.inFlight, ThreadSafeQueue.push]
    · simp [same, Ne.symm same]
  begun := forall_setWorker
    (fun _ worker => worker.begun = worker.executed ++ worker.position.commands)
    accounted.begun (accounted.begun device)
  events device' := by
    simp only [ProcessController.issue, consumed_snoc, Observation.consumedEvent,
      Option.toList_none, List.append_nil]
    exact forall_setWorker (fun device' worker =>
      eventsFrom device' (consumed controller.log ++ controller.eventQ.queue) =
        answers device' worker.executed) accounted.events (by exact accounted.events device) device'

/-- A worker comes through with the commands `done` and pushes their events. -/
theorem Accounted.moves (accounted : Accounted controller) (device : Device) (worker : Worker)
    (done : List Command) (evts : List Event) {eventQ : ThreadSafeQueue Event}
    (executed : worker.executed = (controller.worker device).executed ++ done)
    (inFlight : done ++ worker.inFlight = (controller.worker device).inFlight)
    (begun : worker.begun = worker.executed ++ worker.position.commands)
    (pushed : eventQ.queue = controller.eventQ.queue ++ evts)
    (answered : ∀ device', eventsFrom device' evts =
      if device = device' then answers device' done else []) :
    Accounted { controller.setWorker device worker with eventQ } := by
  constructor
  · apply forall_setWorker (fun device' worker =>
      issuedTo device' controller.log = worker.executed ++ worker.inFlight) accounted.issued
    rw [executed, List.append_assoc, inFlight]
    exact accounted.issued device
  · exact forall_setWorker
      (fun _ worker => worker.begun = worker.executed ++ worker.position.commands)
      accounted.begun begun
  · intro device'
    have before := accounted.events device'
    simp only [ProcessController.setWorker]
    rw [pushed, ← List.append_assoc, eventsFrom_append, before, answered]
    by_cases same : device' = device
    · subst same
      rw [Function.update_self, executed, answers_append, if_pos rfl]
    · rw [Function.update_of_ne same, if_neg (Ne.symm same), List.append_nil]

/-- Nothing that is counted is in the flag of a queue. -/
theorem Accounted.stopQueue (accounted : Accounted controller) :
    Accounted (controller.setCmdQ device (controller.worker device).cmdQ.stop) :=
  accounted.moves device _ [] [] (List.append_nil _).symm rfl (accounted.begun device)
    (List.append_nil _).symm fun _ => by simp [eventsFrom, answers]

theorem Accounted.consume (accounted : Accounted controller)
    (head : controller.eventQ.queue = evt :: rest.queue) :
    Accounted (controller.consume evt rest) where
  issued device := by
    simp only [ProcessController.consume, issuedTo_snoc, Observation.issuedTo, Option.toList_none,
      List.append_nil]
    exact accounted.issued device
  begun := accounted.begun
  events device := by
    have before := accounted.events device
    rw [head] at before
    simpa [ProcessController.consume, consumed_snoc, Observation.consumedEvent] using before

/-- The event of a worker that ends without `Stop` is no answer. -/
theorem eventsFrom_failed (device device' : Device) :
    eventsFrom device' [⟨device.failed, -1, "queue stopped"⟩] = [] := by
  cases device <;> rfl

theorem Accounted.popStep (accounted : Accounted controller) (device : Device) :
    Accounted (controller.popStep device) := by
  have begun := accounted.begun device
  have inFlight : (controller.worker device).inFlight =
    (controller.worker device).position.commands ++ (controller.worker device).cmdQ.queue := rfl
  obtain same | ⟨cmd, rest, position, pending, same⟩ | ⟨position, _, same⟩ :=
    controller.popStep_cases device
  · rw [same]
    exact accounted
  · rw [same]
    rw [position] at begun inFlight
    rw [pending] at inFlight
    apply accounted.moves device _ [] []
    · exact (List.append_nil _).symm
    · exact inFlight.symm
    · rw [begun, List.append_assoc]
      rfl
    · exact (List.append_nil _).symm
    · intro device'
      simp [eventsFrom, answers]
  · rw [same]
    rw [position] at begun inFlight
    apply accounted.moves device _ [] [⟨device.failed, -1, "queue stopped"⟩]
    · exact (List.append_nil _).symm
    · exact inFlight.symm
    · exact begun
    · rfl
    · intro device'
      rw [eventsFrom_failed]
      simp [answers, eventsFrom]

theorem Accounted.executeStep (accounted : Accounted controller) (device : Device) :
    Accounted (controller.executeStep device) := by
  have begun := accounted.begun device
  have inFlight : (controller.worker device).inFlight =
    (controller.worker device).position.commands ++ (controller.worker device).cmdQ.queue := rfl
  obtain same | ⟨cmd, eventQ, position, pushed, same⟩ := controller.executeStep_cases device
  · rw [same]
    exact accounted
  · rw [same]
    rw [position] at begun inFlight
    have commands :
        (if cmd.type = .stop then WorkerPosition.ended else .popping).commands = [] := by
      split <;> rfl
    apply accounted.moves device _ [cmd] (device.run cmd).toList
    · rfl
    · rw [inFlight, Worker.inFlight, commands]
      rfl
    · rw [begun, commands, List.append_nil]
      rfl
    · exact congrArg ThreadSafeQueue.queue pushed
    · exact fun device' => eventsFrom_run device device' cmd

theorem Unstopped.issue (unstopped : Unstopped controller) (working : cmd.type ≠ .stop) :
    Unstopped (controller.issue device cmd) where
  running := unstopped.running
  queues := forall_setWorker (fun _ worker => worker.cmdQ.stopped = false)
    unstopped.queues (unstopped.queues device)
  commands device' other member := by
    simp only [ProcessController.issue, issuedTo_snoc, Observation.issuedTo] at member
    cases List.mem_append.mp member with
    | inl earlier => exact unstopped.commands device' other earlier
    | inr last =>
      by_cases same : device = device'
      · rw [if_pos same, Option.toList_some, List.mem_singleton] at last
        rw [last]
        exact working
      · rw [if_neg same] at last
        cases last
  eventQ := unstopped.eventQ
  events := unstopped.events

theorem Unstopped.consume (unstopped : Unstopped controller)
    (head : controller.eventQ.queue = evt :: rest.queue) (flag : rest.stopped = false) :
    Unstopped (controller.consume evt rest) where
  running := unstopped.running
  queues := unstopped.queues
  commands device other member := by
    simp only [ProcessController.consume, issuedTo_snoc, Observation.issuedTo, Option.toList_none,
      List.append_nil] at member
    exact unstopped.commands device other member
  eventQ := flag
  events other member := unstopped.events other (head ▸ .tail evt member)

theorem Unstopped.popStep (unstopped : Unstopped controller) (device : Device) :
    Unstopped (controller.popStep device) := by
  obtain same | ⟨cmd, rest, position, pending, same⟩ | ⟨_, stopped, _⟩ :=
    controller.popStep_cases device
  · rw [same]
    exact unstopped
  · rw [same]
    exact ⟨unstopped.running,
      forall_setWorker (fun _ worker => worker.cmdQ.stopped = false)
        unstopped.queues (unstopped.queues device),
      unstopped.commands, unstopped.eventQ, unstopped.events⟩
  · -- the exception of `wait_and_pop` needs a stopped queue
    exact absurd ((unstopped.queues device).symm.trans stopped.2) Bool.noConfusion

theorem Unstopped.executeStep (unstopped : Unstopped controller) (accounted : Accounted controller)
    (device : Device) : Unstopped (controller.executeStep device) := by
  obtain same | ⟨cmd, eventQ, position, pushed, same⟩ := controller.executeStep_cases device
  · rw [same]
    exact unstopped
  · rw [same]
    have working : cmd.type ≠ .stop := by
      apply unstopped.commands device
      rw [accounted.issued, Worker.inFlight, position]
      exact List.mem_append_right _ List.mem_cons_self
    constructor
    · exact unstopped.running
    · exact forall_setWorker (fun _ worker => worker.cmdQ.stopped = false)
        unstopped.queues (unstopped.queues device)
    · exact unstopped.commands
    · exact pushed ▸ unstopped.eventQ
    · intro evt member
      rw [pushed] at member
      cases List.mem_append.mp member with
      | inl earlier => exact unstopped.events evt earlier
      | inr last =>
        have answered := run_device (Option.mem_toList.mp last)
        rw [if_neg working] at answered
        exact ⟨device, answered⟩

end Operations

/-! ## What the controller can conclude from the events it has consumed -/

section Conclusions

variable {controller : ProcessController} {device : Device} {cmds missing : List Command}

/-- The next event of a device answers the first command without an answer. -/
theorem Accounted.next_answer {evt : Event} {rest : List Event} (accounted : Accounted controller)
    (head : controller.eventQ.queue = evt :: rest) (answering : evt.type.device = some device)
    (issued : work (issuedTo device controller.log) = cmds ++ missing)
    (answered : eventsFrom device (consumed controller.log) = answers device cmds) :
    ∃ more, answers device missing = evt :: more := by
  have next : eventsFrom device (evt :: rest) = evt :: eventsFrom device rest := by
    simp [eventsFrom, answering]
  have emitted := accounted.events device
  rw [head, eventsFrom_append, answered, next] at emitted
  -- the commands that were executed come before those in flight, and both are all that were issued
  have all : answers device (cmds ++ missing) =
      answers device (controller.worker device).executed ++
        answers device (controller.worker device).inFlight := by
    rw [← issued, answers_work, accounted.issued, answers_append]
  rw [← emitted, answers_append, List.append_assoc] at all
  exact ⟨_, List.append_cancel_left all⟩

/-- When every command has been answered, none is pending or executing. -/
theorem Accounted.settled (accounted : Accounted controller) (known : Known device cmds)
    (issued : work (issuedTo device controller.log) = cmds)
    (answered : eventsFrom device (consumed controller.log) = answers device cmds) :
    work (controller.worker device).inFlight = [] := by
  have split := issued
  rw [accounted.issued, work_append] at split
  have executed : Known device (work (controller.worker device).executed) := fun cmd member =>
    known cmd (split ▸ List.mem_append_left _ member)
  -- one event for each executed command, and the consumed events alone are one for each command
  have emitted := congrArg List.length (accounted.events device)
  rw [eventsFrom_append, answered, List.length_append, known.length_answers, ← answers_work,
    executed.length_answers] at emitted
  have lengths := congrArg List.length split
  rw [List.length_append] at lengths
  apply List.eq_nil_of_length_eq_zero
  omega

end Conclusions

end PictureReconstruct.Scan
