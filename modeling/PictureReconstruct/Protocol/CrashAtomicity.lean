import PictureReconstruct.Protocol.ProcessingStateMachine

/-! # When a crash inside `saveState` leaves a state behind

`saveState` truncates the only copy of the state before it writes the new one.  The loader wants
all nine lines, so a process that is killed in between leaves nothing to recover.

* `wp_killed`: what an operation leaves behind when the process is killed inside its `saveState`.
* `crash_recovers_iff`: the old or the new state is recovered exactly when the new text was
  complete, up to its last line break.
* `truncated_file_lost`: a kill right behind the truncation.
-/

namespace PictureReconstruct.ProtocolV2

open Library.Procedure Library.Runs ProcessingStateMachine

variable {machine : ProcessingStateMachine} {fault : DiskFault}

/-- What is left behind when the process is killed with `written` characters in the file. -/
def CutOff (fault : DiskFault) (saving : ProcessingResumeState) (cause : Abort)
    (after : ProcessingStateMachine) : Prop :=
  cause = .died → ∃ written, fault = .kill written ∧
    after = { state := saving, file := some ((stateText saving).take written) }

theorem mutate_killed (change : ProcessingResumeState → ProcessingResumeState) :
    wp (mutate fault change) (fun _ _ => True) (CutOff fault (change machine.state)) machine :=
  wp_mutate trivial (fun _ _ => trivial) fun n kill _ => ⟨n, kill, rfl⟩

/-- An operation during which the process is killed. -/
theorem wp_killed (operation : Operation) :
    wp (operation.perform fault) (fun _ _ => True) (CutOff fault (operation.saving machine))
      machine := by
  cases operation with
  | beginLine taskId lineId attemptId =>
    exact mutate_killed fun _ => .beginNew taskId lineId attemptId
  | markFrameSent frameSeq => exact mutate_killed _
  | checkpoint acked last finalized => exact mutate_killed _
  | abortCurrentAttempt => exact mutate_killed _
  | commitCurrentAttempt => exact mutate_killed _
  | resumeFromDisk taskId lineId attemptId =>
    refine wp_resumeFromDisk trivial (by simp [CutOff]) (fun _ _ _ _ => trivial)
      fun text state held loaded _ _ _ => ?_
    have found : recovered machine.file = some state := recovered_eq_some.mpr ⟨text, held, loaded⟩
    rw [Operation.saving, found, Option.getD_some]
    exact @mutate_killed { machine with state } fault .resumed
  | saveState =>
    exact wp_saveState (fun _ => trivial) (fun _ _ => trivial) fun n kill _ => ⟨n, kill, rfl⟩
  | loadState => exact wp_loadState trivial (by simp [CutOff]) fun _ _ _ _ => trivial

/-- A process that is killed inside `saveState` leaves the state that was on disk or the one that
    was being saved to the next process exactly when at most the last line break is missing. -/
theorem crash_recovers_iff (machine crashed : ProcessingStateMachine) (operation : Operation)
    (written : Nat) (crash : operation.perform (.kill written) machine = .error .died crashed) :
    (∃ state, recovered crashed.file = some state ∧
        (recovered machine.file = some state ∨ state = operation.saving machine)) ↔
      (stateText (operation.saving machine)).length ≤ written + 1 := by
  obtain ⟨_, ⟨⟩, rfl⟩ := (wp_killed operation).error crash rfl
  -- the file is a prefix of the new text; of the old one nothing is left
  have found : ∀ state, recovered (some ((stateText (operation.saving machine)).take written)) =
      some state ↔ (stateText (operation.saving machine)).length ≤ written + 1 ∧
        state = operation.saving machine := fun state => by
    simp [recovered_eq_some, loaded_take_iff]
  simp only [found]
  constructor
  · rintro ⟨_, ⟨whole, _⟩, _⟩
    exact whole
  · exact fun whole => ⟨_, ⟨whole, rfl⟩, .inr rfl⟩

/-- A kill behind the last digit of the text. -/
theorem crash_recovers_written :
    ∃ state, recovered ((Step.call (.markFrameSent 10) (.kill 111)).next
        (run Step.next [.call (.beginLine 1001 7 2) .none] (construct none))).file = some state ∧
      (recovered (run Step.next [.call (.beginLine 1001 7 2) .none] (construct none)).file =
          some state ∨
        state = Operation.saving (run Step.next [.call (.beginLine 1001 7 2) .none]
          (construct none)) (.markFrameSent 10)) :=
  (crash_recovers_iff _ _ (.markFrameSent 10) 111 rfl).mpr (by decide +kernel)

/-- A kill behind the truncation: the state of before is lost, and there is no new one. -/
theorem truncated_file_lost :
    recovered (run Step.next [.call (.beginLine 1001 7 2) .none] (construct none)).file =
        some (.beginNew 1001 7 2) ∧
      recovered ((Step.call (.markFrameSent 10) (.kill 0)).next
        (run Step.next [.call (.beginLine 1001 7 2) .none] (construct none))).file = none := by
  decide +kernel

end PictureReconstruct.ProtocolV2
