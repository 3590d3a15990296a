import PictureReconstruct.Scan.CommandAccounting

/-! # How far a scan is

* `Stage`: the commands for the current segment whose events were consumed, and those whose events
  are missing.
* `Underway`: the log is that of the segments before the current one, and of a stage of this one.
* `Underway.next_answer`: the next event is one that the stage misses.
-/

namespace PictureReconstruct.Scan

/-! ## The commands of a scan -/

def movePlatform (segment : Segment) : Command := ⟨.movePlatform, segment.id, segment.target⟩

def openShutter (segment : Segment) : Command := ⟨.openShutter, segment.id, {}⟩

def closeShutter (segment : Segment) : Command := ⟨.closeShutter, segment.id, {}⟩

def captureImage (segment : Segment) : Command := ⟨.captureImage, segment.id, {}⟩

/-- The commands of one segment to a device. -/
def visit (device : Device) (segment : Segment) : List Command :=
  match device with
  | .platform => [movePlatform segment]
  | .shutter => [openShutter segment, closeShutter segment]
  | .camera => [captureImage segment]

def visits (segments : List Segment) (device : Device) : List Command :=
  segments.flatMap (visit device)

theorem segment_eq {controller : ProcessController}
    (inside : controller.currentIndex < controller.segments.length) :
    controller.segments[controller.currentIndex]? = some controller.segment := by
  simp [ProcessController.segment, inside]

/-- The current segment follows those before it. -/
theorem take_segment {controller : ProcessController}
    (inside : controller.currentIndex < controller.segments.length) :
    controller.segments.take (controller.currentIndex + 1) =
      controller.segments.take controller.currentIndex ++ [controller.segment] := by
  rw [List.take_add_one, segment_eq inside]
  rfl

theorem visits_take {controller : ProcessController}
    (inside : controller.currentIndex < controller.segments.length) (device : Device) :
    visits (controller.segments.take (controller.currentIndex + 1)) device =
      visits (controller.segments.take controller.currentIndex) device ++
        visit device controller.segment := by
  rw [take_segment inside, visits, List.flatMap_append, List.flatMap_singleton, visits]

/-- The number of `CloseShutter` commands that were issued. -/
def closed (log : List Observation) : Nat :=
  ((issuedTo .shutter log).filter (·.type = .closeShutter)).length

/-- The segments of the events of a type that were consumed, in order. -/
def consumedIds (type : EventType) (log : List Observation) : List Int :=
  ((consumed log).filter (·.type = type)).map Event.segmentId

/-- A `CloseShutter` is that of the next segment to be closed, and the events of the segments up to
    it have been consumed. -/
def Collected (segments : List Segment) (before : List Observation) : Observation → Prop
  | .issued _ cmd => cmd.type = .closeShutter → ∃ segment,
      segments[closed before]? = some segment ∧ cmd = closeShutter segment ∧
      consumedIds .shutterOpened before = (segments.take (closed before + 1)).map Segment.id ∧
      consumedIds .captureDone before = (segments.take (closed before + 1)).map Segment.id
  | _ => True

theorem closed_eq (log : List Observation) :
    closed log = ((work (issuedTo .shutter log)).filter (·.type = .closeShutter)).length := by
  rw [closed, work, List.filter_filter]
  congr 2
  funext cmd
  cases cmd.type <;> rfl

theorem consumedIds_eq {type : EventType} {device : Device} (typed : type.device = some device)
    (log : List Observation) : consumedIds type log =
      ((eventsFrom device (consumed log)).filter (·.type = type)).map Event.segmentId := by
  rw [consumedIds, eventsFrom, List.filter_filter]
  congr 2
  funext evt
  by_cases same : evt.type = type <;> simp [same, typed]

theorem closes_visits (segments : List Segment) :
    ((visits segments .shutter).filter (·.type = .closeShutter)).length = segments.length := by
  induction segments with
  | nil => rfl
  | cons segment segments ih =>
    rw [visits, List.flatMap_cons, List.filter_append, List.length_append, ← visits, ih,
      List.length_cons, Nat.add_comm]
    rfl

/-- Of a type that each segment has one event of, there is one event for each segment. -/
theorem ids_visits {type : EventType} {device : Device}
    (one : ∀ segment, ((answers device (visit device segment)).filter (·.type = type)).map
      Event.segmentId = [segment.id]) (segments : List Segment) :
    ((answers device (visits segments device)).filter (·.type = type)).map Event.segmentId =
      segments.map Segment.id := by
  induction segments with
  | nil => rfl
  | cons segment segments ih =>
    rw [visits, List.flatMap_cons, answers_append, List.filter_append, List.map_append, ← visits,
      ih, one]
    rfl

/-! ## The stages of a segment -/

inductive Stage
  | between
  | moving
  | arrived
  | opening
  | collecting (captureDone shutterOpened : Bool)
  | collected
  | closing
  | closed

namespace Stage

/-- The commands for this segment whose events were consumed. -/
def answered (segment : Segment) : Stage → Device → List Command
  | between, _ | moving, _ => []
  | _, .platform => [movePlatform segment]
  | collecting _ shutterOpened, .shutter => if shutterOpened then [openShutter segment] else []
  | collecting captureDone _, .camera => if captureDone then [captureImage segment] else []
  | collected, .shutter | closing, .shutter => [openShutter segment]
  | closed, .shutter => [openShutter segment, closeShutter segment]
  | collected, .camera | closing, .camera | closed, .camera => [captureImage segment]
  | _, _ => []

/-- The commands for this segment whose events are missing. -/
def missing (segment : Segment) : Stage → Device → List Command
  | moving, .platform => [movePlatform segment]
  | opening, .shutter => [openShutter segment]
  | collecting _ shutterOpened, .shutter => if shutterOpened then [] else [openShutter segment]
  | collecting captureDone _, .camera => if captureDone then [] else [captureImage segment]
  | closing, .shutter => [closeShutter segment]
  | _, _ => []

end Stage

/-- What is issued at a stage begins the visit of the segment. -/
theorem issued_prefix (stage : Stage) (segment : Segment) (device : Device) :
    stage.answered segment device ++ stage.missing segment device <+: visit device segment := by
  cases stage with
  | collecting captureDone shutterOpened =>
    cases device with
    | platform => exact List.prefix_rfl
    | shutter => cases shutterOpened <;> exact ⟨[closeShutter segment], rfl⟩
    | camera => cases captureDone <;> exact List.prefix_rfl
  | between => exact List.nil_prefix
  | moving | arrived | opening | collected | closing | closed =>
    cases device <;>
      simp [Stage.answered, Stage.missing, visit]

theorem visits_prefix (segments : List Segment) (index : Nat) (device : Device) :
    visits (segments.take index) device <+: visits segments device := by
  refine ⟨visits (segments.drop index) device, ?_⟩
  rw [visits, visits, ← List.flatMap_append, List.take_append_drop, visits]

theorem known_visits (segments : List Segment) (device : Device) :
    Known device (visits segments device) := by
  intro cmd member
  obtain ⟨segment, _, visited⟩ := List.mem_flatMap.mp member
  cases device with
  | platform | camera => rw [List.mem_singleton.mp visited]; rfl
  | shutter =>
    cases List.mem_cons.mp visited with
    | inl opens => rw [opens]; rfl
    | inr closes => rw [List.mem_singleton.mp closes]; rfl

/-- The log is that of the segments before the current one, and of a stage of this one. -/
structure Underway (stage : Stage) (controller : ProcessController) : Prop where
  inside : stage = .between ∨ controller.currentIndex < controller.segments.length
  issued : ∀ device, work (issuedTo device controller.log) =
    (visits (controller.segments.take controller.currentIndex) device ++
      stage.answered controller.segment device) ++ stage.missing controller.segment device
  consumed : ∀ device, eventsFrom device (consumed controller.log) =
    answers device (visits (controller.segments.take controller.currentIndex) device ++
      stage.answered controller.segment device)

section Stages

variable {stage next : Stage} {controller : ProcessController} {device : Device} {cmd : Command}
  {evt : Event} {rest : ThreadSafeQueue Event}

theorem Underway.issue (underway : Underway stage controller) (working : cmd.type ≠ .stop)
    (inside : controller.currentIndex < controller.segments.length)
    (answered : ∀ device', next.answered controller.segment device' =
      stage.answered controller.segment device')
    (missing : ∀ device', next.missing controller.segment device' =
      stage.missing controller.segment device' ++ if device = device' then [cmd] else []) :
    Underway next (controller.issue device cmd) where
  inside := .inr inside
  issued device' := by
    have before := underway.issued device'
    simp only [ProcessController.issue, ProcessController.setCmdQ, ProcessController.setWorker,
      issuedTo_snoc, work_append, Observation.issuedTo] at before ⊢
    change _ = visits (controller.segments.take controller.currentIndex) device' ++
      next.answered controller.segment device' ++ next.missing controller.segment device'
    rw [before, answered, missing, ← List.append_assoc]
    split
    · simp [work, working]
    · rfl
  consumed device' := by
    simp only [ProcessController.issue, consumed_snoc, Observation.consumedEvent,
      Option.toList_none, List.append_nil]
    change _ = answers device' (visits (controller.segments.take controller.currentIndex) device' ++
      next.answered controller.segment device')
    rw [answered]
    exact underway.consumed device'

/-- An event takes the first command without an answer to those with one. -/
theorem Underway.consume (underway : Underway stage controller)
    (inside : controller.currentIndex < controller.segments.length)
    (same : ∀ device', next.answered controller.segment device' ++
      next.missing controller.segment device' = stage.answered controller.segment device' ++
        stage.missing controller.segment device')
    (answered : ∀ device', answers device' (next.answered controller.segment device') =
      answers device' (stage.answered controller.segment device') ++ eventsFrom device' [evt]) :
    Underway next (controller.consume evt rest) where
  inside := .inr inside
  issued device' := by
    have before := underway.issued device'
    simp only [ProcessController.consume, issuedTo_snoc, Observation.issuedTo, Option.toList_none,
      List.append_nil]
    change _ = visits (controller.segments.take controller.currentIndex) device' ++
      next.answered controller.segment device' ++ next.missing controller.segment device'
    rw [before, List.append_assoc, List.append_assoc, same]
  consumed device' := by
    simp only [ProcessController.consume, consumed_snoc, Observation.consumedEvent,
      Option.toList_some, eventsFrom_append]
    change _ = answers device' (visits (controller.segments.take controller.currentIndex) device' ++
      next.answered controller.segment device')
    rw [underway.consumed, answers_append, answers_append, answered, List.append_assoc]

/-- All is done for the current segment, and the next one is next. -/
theorem Underway.next_segment (underway : Underway .closed controller)
    (inside : controller.currentIndex < controller.segments.length) :
    Underway .between { controller with currentIndex := controller.currentIndex + 1 } where
  inside := .inl rfl
  issued device := by
    have before := underway.issued device
    rw [before]
    change _ = visits (controller.segments.take (controller.currentIndex + 1)) device ++ [] ++ []
    rw [visits_take inside]
    cases device <;> simp [Stage.answered, Stage.missing, visit]
  consumed device := by
    have before := underway.consumed device
    rw [before]
    change _ = answers device
      (visits (controller.segments.take (controller.currentIndex + 1)) device ++ [])
    rw [visits_take inside]
    cases device <;> simp [Stage.answered, visit]

/-- Both events of the current segment are behind the controller when it closes the shutter. -/
theorem Underway.collected (underway : Underway .collected controller)
    (inside : controller.currentIndex < controller.segments.length) :
    Collected controller.segments controller.log
      (.issued .shutter (closeShutter controller.segment)) := by
  intro _
  have closes : closed controller.log = controller.currentIndex := by
    -- one for each segment before this one
    rw [closed_eq, underway.issued .shutter]
    simp only [List.filter_append, List.length_append, closes_visits, List.length_take]
    exact Nat.min_eq_left (Nat.le_of_lt inside)
  rw [closes, take_segment inside, List.map_append]
  refine ⟨controller.segment, segment_eq inside, rfl, ?_, ?_⟩
  · rw [consumedIds_eq rfl, underway.consumed .shutter, answers_append, List.filter_append,
      List.map_append, ids_visits fun _ => rfl]
    rfl
  · rw [consumedIds_eq rfl, underway.consumed .camera, answers_append, List.filter_append,
      List.map_append, ids_visits fun _ => rfl]
    rfl

/-- What is issued to a device is the beginning of what the segments ask for. -/
theorem Underway.issued_prefix (underway : Underway stage controller) (device : Device) :
    work (issuedTo device controller.log) <+: visits controller.segments device := by
  rw [underway.issued, List.append_assoc]
  cases underway.inside with
  | inl between =>
    -- nothing has been issued for the current segment, which need not exist
    subst between
    simpa [Stage.answered, Stage.missing] using
      visits_prefix controller.segments controller.currentIndex device
  | inr inside =>
    have here := visits_prefix controller.segments (controller.currentIndex + 1) device
    rw [visits_take inside] at here
    exact ((List.prefix_append_right_inj _).mpr
      (Scan.issued_prefix stage controller.segment device)).trans here

end Stages

/-! ## The events that can come -/

section Events

variable {stage : Stage} {controller : ProcessController} {evt : Event} {rest : List Event}

/-- The answer to the only command of the segment that can be next. -/
theorem Underway.next_answer (underway : Underway stage controller)
    (accounted : Accounted controller) (unstopped : Unstopped controller)
    (head : controller.eventQ.queue = evt :: rest) :
    ∃ device more, answers device (stage.missing controller.segment device) = evt :: more := by
  have member : evt ∈ controller.eventQ.queue := head ▸ List.mem_cons_self
  obtain ⟨device, answering⟩ := unstopped.events evt member
  obtain ⟨more, next⟩ := accounted.next_answer head answering (underway.issued device)
    (underway.consumed device)
  exact ⟨device, more, next⟩

theorem moving_event {segment : Segment} {device : Device} {more : List Event}
    (next : answers device (Stage.moving.missing segment device) = evt :: more) :
    evt = ⟨.platformArrived, segment.id, "Platform arrived"⟩ := by
  cases device with
  | platform => exact (List.cons_eq_cons.mp next).1.symm
  | shutter | camera => cases next

theorem closing_event {segment : Segment} {device : Device} {more : List Event}
    (next : answers device (Stage.closing.missing segment device) = evt :: more) :
    evt = ⟨.shutterClosed, segment.id, "Shutter closed"⟩ := by
  cases device with
  | shutter => exact (List.cons_eq_cons.mp next).1.symm
  | platform | camera => cases next

theorem collecting_event {segment : Segment} {device : Device} {more : List Event}
    {captureDone shutterOpened : Bool}
    (next : answers device ((Stage.collecting captureDone shutterOpened).missing segment device) =
      evt :: more) :
    (shutterOpened = false ∧ evt = ⟨.shutterOpened, segment.id, "Shutter opened"⟩) ∨
      (captureDone = false ∧ evt = ⟨.captureDone, segment.id, "Capture done"⟩) := by
  cases device with
  | platform => cases next
  | shutter =>
    cases shutterOpened with
    | true => cases next
    | false => exact .inl ⟨rfl, (List.cons_eq_cons.mp next).1.symm⟩
  | camera =>
    cases captureDone with
    | true => cases next
    | false => exact .inr ⟨rfl, (List.cons_eq_cons.mp next).1.symm⟩

end Events

end PictureReconstruct.Scan
