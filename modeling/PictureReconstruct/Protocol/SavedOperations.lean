import PictureReconstruct.Protocol.StateInvariants

/-! # When a successful operation is on disk

`saveState` takes its result from the stream before the stream is closed.  The text is still in
the buffer then, so a disk that is full shows up when nobody looks any more.

* `saved_iff`: after an operation that returned `true`, a new process gets the state of the
  machine exactly when the write did not fail before the last line break.
* `full_disk_unnoticed`: an operation that returns `true` on a full disk.
-/

namespace PictureReconstruct.ProtocolV2

open Library.Procedure ProcessingStateMachine

variable {machine : ProcessingStateMachine} {fault : DiskFault}

/-- What an operation that returned `true` leaves in memory and on disk: of the text, all that was
    written before the write failed, or all of it. -/
def WroteState (fault : DiskFault) (saving : ProcessingResumeState)
    (after : ProcessingStateMachine) : Prop :=
  ∃ written, after = { state := saving, file := some ((stateText saving).take written) } ∧
    ((fault = .none ∧ (stateText saving).length ≤ written) ∨ fault = .write written)

theorem saveState_wrote : wp (saveState fault)
    (fun result after => result = true → WroteState fault machine.state after) (fun _ _ => True)
    machine := by
  cases fault with
  | none => exact fun _ => ⟨_, rfl, .inl ⟨rfl, Nat.le_refl _⟩⟩
  | «open» => exact fun absurd => Bool.noConfusion absurd
  | write written => exact fun _ => ⟨written, rfl, .inr rfl⟩
  | kill written => trivial

theorem mutate_wrote (change : ProcessingResumeState → ProcessingResumeState) :
    wp (mutate fault change)
      (fun result after => result = true → WroteState fault (change machine.state) after)
      (fun _ _ => True) machine := by
  simp only [mutate, wp_bind, wp_modify]
  exact @saveState_wrote { machine with state := change machine.state } fault

/-- An operation that returns `true` has written the state that it saves. -/
theorem operation_wrote (operation : Operation) (saves : operation ≠ .loadState) :
    wp (operation.perform fault)
      (fun result after => result = true → WroteState fault (operation.saving machine) after)
      (fun _ _ => True) machine := by
  cases operation with
  | beginLine taskId lineId attemptId =>
    exact mutate_wrote fun _ => .beginNew taskId lineId attemptId
  | markFrameSent frameSeq => exact mutate_wrote _
  | checkpoint acked last finalized => exact mutate_wrote _
  | abortCurrentAttempt => exact mutate_wrote _
  | commitCurrentAttempt => exact mutate_wrote _
  | resumeFromDisk taskId lineId attemptId =>
    refine wp_resumeFromDisk (fun absurd => Bool.noConfusion absurd) trivial
      (fun _ _ _ _ absurd => Bool.noConfusion absurd) fun text state held loaded _ _ _ => ?_
    have found : recovered machine.file = some state := recovered_eq_some.mpr ⟨text, held, loaded⟩
    rw [Operation.saving, found, Option.getD_some]
    exact @mutate_wrote { machine with state } fault .resumed
  | saveState => exact saveState_wrote
  | loadState => exact absurd rfl saves

/-- After an operation that returned `true`, a new process loads the state of the machine exactly
    when a write that failed did so behind all but the last line break of the text. -/
theorem saved_iff (machine after : ProcessingStateMachine) (operation : Operation)
    (fault : DiskFault) (saves : operation ≠ .loadState)
    (succeeded : operation.perform fault machine = .ok true after) :
    recovered after.file = some after.state ↔
      ∀ written, fault = .write written →
        (stateText (operation.saving machine)).length ≤ written + 1 := by
  obtain ⟨reached, rfl, cause⟩ := (operation_wrote operation saves).ok succeeded rfl
  have found : recovered (some ((stateText (operation.saving machine)).take reached)) =
      some (operation.saving machine) ↔
        (stateText (operation.saving machine)).length ≤ reached + 1 := by
    simp [recovered_eq_some, loaded_take_iff]
  rw [found]
  cases cause with
  | inl complete =>
    obtain ⟨rfl, whole⟩ := complete
    exact ⟨fun _ _ failed => DiskFault.noConfusion failed, fun _ => by omega⟩
  | inr failed =>
    constructor
    · rintro whole written rfl
      exact DiskFault.write.inj failed ▸ whole
    · exact fun whole => whole reached failed

/-- A write that fails behind the last digit. -/
theorem saved_iff_digits :
    recovered ((Step.call (.beginLine 1001 7 2) (.write 111)).next (construct none)).file =
      some ((Step.call (.beginLine 1001 7 2) (.write 111)).next (construct none)).state :=
  (saved_iff (construct none) _ (.beginLine 1001 7 2) (.write 111) (by decide) rfl).mpr (by
    intro written failed
    obtain rfl := DiskFault.write.inj failed
    decide +kernel)

/-- On a full disk `beginLine` returns `true`, and a new process finds no state. -/
theorem full_disk_unnoticed :
    ∃ after, ProcessingStateMachine.beginLine (.write 0) 1001 7 2 (construct none) =
      .ok true after ∧ recovered after.file ≠ some after.state :=
  ⟨_, rfl, by decide +kernel⟩

end PictureReconstruct.ProtocolV2
