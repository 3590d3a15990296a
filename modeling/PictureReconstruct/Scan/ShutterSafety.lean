import PictureReconstruct.Scan.FsmLoop

/-! # The platform moves with the shutter closed

* `ShutterSafe`: the platform stands still while the shutter is open, the segments are visited in
  order, and the scan ends when each has been moved to, captured and closed once.
* `scan_safe`: this holds in every state of every run.
* `only_timeouts`: the branches for other events than the expected one are never taken.
-/

namespace PictureReconstruct.Scan

open Library.Runs Library.History

structure ShutterSafe (segments : List Segment) (controller : ProcessController) : Prop where
  /-- no move is pending or executing while the last command to the shutter that was begun, or was
      executed, is `OpenShutter` -/
  still : (∃ cmd ∈ (controller.worker .platform).inFlight, cmd.type = .movePlatform) →
    ∀ cmd, (work (controller.worker .shutter).begun).getLast? = some cmd ∨
      (work (controller.worker .shutter).executed).getLast? = some cmd → cmd.type ≠ .openShutter
  /-- the moves that were begun are those of the first segments in the list -/
  ordered : work (controller.worker .platform).begun <+: segments.map movePlatform
  /-- the shutter of a segment is closed behind both of its events -/
  justified : Justified (Collected segments) controller.log
  /-- at the end, every segment was moved to, captured and closed exactly once -/
  finished : controller.state = .taskFinished →
    work (controller.worker .platform).executed = segments.map movePlatform ∧
    work (controller.worker .camera).executed = segments.map captureImage ∧
    work (controller.worker .shutter).executed =
      segments.flatMap fun segment => [openShutter segment, closeShutter segment]

section Safety

variable {segments : List Segment} {stage : Stage} {controller : ProcessController}

/-- A device whose answers are all in is through with its commands. -/
theorem Sound.settled (sound : Sound segments stage controller) (device : Device)
    (settled : stage.missing controller.segment device = []) :
    work (controller.worker device).inFlight = [] := by
  have issued := sound.underway.issued device
  rw [settled, List.append_nil] at issued
  apply sound.accounted.settled _ issued (sound.underway.consumed device)
  intro cmd member
  rw [← issued] at member
  exact known_visits controller.segments device cmd
    ((sound.underway.issued_prefix device).subset member)

/-- So its commands were executed in full. -/
theorem Sound.executed (sound : Sound segments stage controller) (device : Device)
    (settled : stage.missing controller.segment device = []) :
    work (controller.worker device).executed =
        visits (controller.segments.take controller.currentIndex) device ++
          stage.answered controller.segment device ∧
      work (controller.worker device).begun = work (controller.worker device).executed := by
  have idle := sound.settled device settled
  have issued := sound.underway.issued device
  rw [settled, List.append_nil, sound.accounted.issued, work_append, idle,
    List.append_nil] at issued
  rw [Worker.inFlight, work_append] at idle
  refine ⟨issued, ?_⟩
  rw [sound.accounted.begun, work_append, (List.append_eq_nil_iff.mp idle).1, List.append_nil]

theorem last_visit {segments : List Segment} {cmd : Command}
    (last : (visits segments .shutter).getLast? = some cmd) : cmd.type = .closeShutter := by
  cases segments.eq_nil_or_concat with
  | inl none =>
    subst none
    cases last
  | inr some =>
    obtain ⟨rest, segment, rfl⟩ := some
    rw [List.concat_eq_append, visits, List.flatMap_append, List.flatMap_singleton, visit,
      List.getLast?_append] at last
    cases last
    rfl

theorem Sound.safe (sound : Sound segments stage controller) : ShutterSafe segments controller where
  still := by
    rintro ⟨move, member, moves⟩ cmd last
    have pending : stage.missing controller.segment .platform ≠ [] := by
      intro settled
      have idle := sound.settled .platform settled
      have working : move ∈ work (controller.worker .platform).inFlight :=
        List.mem_filter.mpr ⟨member, by simp [moves]⟩
      rw [idle] at working
      cases working
    -- only one stage waits for the platform, and then the shutter has nothing to do
    cases stage with
    | moving =>
      obtain ⟨executed, begun⟩ := sound.executed .shutter rfl
      rw [Stage.answered, List.append_nil] at executed
      rw [begun, executed, or_self] at last
      rw [last_visit last]
      exact fun absurd => CommandType.noConfusion absurd
    | _ => exact absurd rfl pending
  ordered := by
    have issued := sound.underway.issued_prefix .platform
    rw [sound.scanned, sound.accounted.issued, Worker.inFlight, ← List.append_assoc,
      ← sound.accounted.begun, work_append] at issued
    rw [List.map_eq_flatMap]
    exact (List.prefix_append _ _).trans issued
  justified := sound.justified
  finished finished := by
    cases sound.place with
    | finished _ _ all =>
      have everything : ∀ device, work (controller.worker device).executed =
          visits segments device := by
        intro device
        rw [(sound.executed device rfl).1, all, List.take_length, sound.scanned]
        exact List.append_nil _
      rw [everything, everything, everything, List.map_eq_flatMap, List.map_eq_flatMap]
      exact ⟨rfl, rfl, rfl⟩
    | starting _ working | loaded _ working | move _ working | wait _ working | trigger _ working
    | triggering _ working | collect _ working | collecting _ working | close _ working
    | finish _ working | error _ working => cases working.symm.trans finished

end Safety

theorem run_sound (segments : List Segment) (actions : List Action) : ∃ stage, Sound segments stage
    (run step actions (ProcessController.create segments)) :=
  run_keeps (I := fun controller => ∃ stage, Sound segments stage controller)
    (fun action _ ⟨_, sound⟩ => sound.step action) actions _ ⟨_, Sound.create segments⟩

/-- For every list of segments, and for every run of the four threads with any timeouts. -/
theorem scan_safe (segments : List Segment) (actions : List Action) :
    ShutterSafe segments (run step actions (ProcessController.create segments)) := by
  obtain ⟨stage, sound⟩ := run_sound segments actions
  exact sound.safe

/-- No event is ever unexpected, and nothing but a timeout leads to `Error`. -/
theorem only_timeouts (segments : List Segment) (actions : List Action) :
    ∀ observation ∈ (run step actions (ProcessController.create segments)).log,
      Expected observation := by
  obtain ⟨stage, sound⟩ := run_sound segments actions
  exact sound.expected

/-- A run over one segment comes to its end. -/
example : (run step
    [.fsm false, .fsm false, .fsm false, .pop .platform, .execute .platform, .fsm false,
      .fsm false, .fsm false, .fsm false, .pop .camera, .execute .camera, .pop .shutter,
      .execute .shutter, .fsm false, .fsm false, .fsm false, .pop .shutter, .execute .shutter,
      .fsm false]
    (ProcessController.create [{ id := 1 }])).state = .taskFinished := by
  decide

end PictureReconstruct.Scan
