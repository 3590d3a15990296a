import PictureReconstruct.Protocol.ProcessingStateMachine

/-! # Invariants of the state, in memory and on disk

A machine loads what an earlier one saved, so a property of the state holds over a run when it
holds of the state in memory and of the one in the file.  Both come from what the operations
save.

* `Upholds`: a property holds in memory and on disk.
* `operation_upholds`, `call_upholds`: it is kept by a step that saves only states with the
  property.
-/

namespace PictureReconstruct.ProtocolV2.ProcessingStateMachine

open Library.Procedure

/-- `P` holds of the state in memory and of the one that a new process gets out of the file. -/
structure Upholds (P : ProcessingResumeState → Prop) (machine : ProcessingStateMachine) : Prop where
  state : P machine.state
  file : ∀ state, recovered machine.file = some state → P state

/-- The operation changes the state or saves it; `resumeFromDisk` does when the file holds the
    expected attempt. -/
def Operation.Applies (machine : ProcessingStateMachine) : Operation → Prop
  | .resumeFromDisk taskId lineId attemptId =>
    (recovered machine.file).map ProcessingResumeState.attempt = some (taskId, lineId, attemptId)
  | .loadState => False
  | _ => True

/-- What an operation that does not return leaves behind. -/
def LeavesUpheld (P : ProcessingResumeState → Prop) (cause : Abort)
    (machine : ProcessingStateMachine) : Prop :=
  (cause = .threw → P machine.state) ∧ ∀ state, recovered machine.file = some state → P state

section Steps

variable {P : ProcessingResumeState → Prop} {machine : ProcessingStateMachine} {fault : DiskFault}
  {operation : Operation}

/-- A file that was written, whole or in part, gives the state back or nothing. -/
theorem recovered_landed {n : Nat} {state : ProcessingResumeState}
    (found : recovered (machine.landed n).file = some state) : state = machine.state := by
  obtain ⟨_, ⟨⟩, loaded⟩ := recovered_eq_some.mp found
  exact (loaded_take_iff.mp loaded).2

theorem Upholds.landed (upholds : Upholds P machine) (n : Nat) : Upholds P (machine.landed n) where
  state := upholds.state
  file _ found := recovered_landed found ▸ upholds.state

theorem saveState_upholds (upholds : Upholds P machine) :
    wp (saveState fault) (fun _ => Upholds P) (LeavesUpheld P) machine :=
  wp_saveState (fun _ => upholds) (fun n _ => upholds.landed n)
    (fun n _ => ⟨fun _ => upholds.state, (upholds.landed n).file⟩)

theorem mutate_upholds (change : ProcessingResumeState → ProcessingResumeState)
    (saved : P (change machine.state)) (upholds : Upholds P machine) :
    wp (mutate fault change) (fun _ => Upholds P) (LeavesUpheld P) machine := by
  simp only [mutate, wp_bind, wp_modify]
  exact saveState_upholds ⟨saved, upholds.file⟩

theorem resumeFromDisk_upholds {taskId : UInt64} {lineId attemptId : UInt32}
    (saved : (Operation.resumeFromDisk taskId lineId attemptId).Applies machine →
      P ((Operation.resumeFromDisk taskId lineId attemptId).saving machine))
    (upholds : Upholds P machine) :
    wp (resumeFromDisk fault taskId lineId attemptId) (fun _ => Upholds P) (LeavesUpheld P)
      machine := by
  have loading : ∀ text state, machine.file = some text → Loaded text state →
      recovered machine.file = some state ∧ Upholds P { machine with state } :=
    fun text state held loaded =>
      have found := recovered_eq_some.mpr ⟨text, held, loaded⟩
      ⟨found, upholds.file state found, upholds.file⟩
  refine wp_resumeFromDisk upholds ⟨fun _ => upholds.state, upholds.file⟩
    (fun text state held loaded => (loading text state held loaded).2) ?_
  rintro text state held loaded rfl rfl rfl
  obtain ⟨found, upholds⟩ := loading text state held loaded
  refine mutate_upholds _ ?_ upholds
  have applies : (recovered machine.file).map ProcessingResumeState.attempt =
      some state.attempt := by
    rw [found, Option.map_some]
  have resumed := saved applies
  rw [Operation.saving, found, Option.getD_some] at resumed
  exact resumed

/-- An operation keeps the property when what it saves has it. -/
theorem operation_upholds (saved : operation.Applies machine → P (operation.saving machine))
    (upholds : Upholds P machine) :
    wp (operation.perform fault) (fun _ => Upholds P) (LeavesUpheld P) machine := by
  cases operation with
  | beginLine taskId lineId attemptId =>
    exact mutate_upholds (fun _ => .beginNew taskId lineId attemptId) (saved trivial) upholds
  | markFrameSent frameSeq => exact mutate_upholds _ (saved trivial) upholds
  | checkpoint acked last finalized => exact mutate_upholds _ (saved trivial) upholds
  | abortCurrentAttempt => exact mutate_upholds _ (saved trivial) upholds
  | commitCurrentAttempt => exact mutate_upholds _ (saved trivial) upholds
  | resumeFromDisk taskId lineId attemptId => exact resumeFromDisk_upholds saved upholds
  | saveState => exact saveState_upholds upholds
  | loadState =>
    exact wp_loadState upholds ⟨fun _ => upholds.state, upholds.file⟩ fun text state held loaded =>
      ⟨upholds.file state (recovered_eq_some.mpr ⟨text, held, loaded⟩), upholds.file⟩

/-- A new process over an empty directory. -/
theorem Upholds.construct (fresh : P (.beginNew 0 0 0)) : Upholds P (construct none) where
  state := fresh
  file state found := by
    obtain ⟨_, ⟨⟩, _⟩ := recovered_eq_some.mp found

theorem Upholds.restart (fresh : P (.beginNew 0 0 0)) (upholds : Upholds P machine) :
    Upholds P machine.restart :=
  ⟨fresh, upholds.file⟩

/-- A call keeps the property; where it kills the process, the state of a new one has to have
    it. -/
theorem call_upholds (saved : operation.Applies machine → P (operation.saving machine))
    (fresh : wp (operation.perform fault) (fun _ _ => True)
      (fun cause _ => cause = .died → P (.beginNew 0 0 0)) machine)
    (upholds : Upholds P machine) : Upholds P ((Step.call operation fault).next machine) := by
  refine Step.next_of_wp (((operation_upholds saved upholds).and fresh).mono
    (fun _ _ ended => ended.1) fun cause after ended => ?_)
  exact ⟨fun threw => ⟨ended.1.1 threw, ended.1.2⟩, fun died => ⟨ended.2 died, ended.1.2⟩⟩

end Steps

end PictureReconstruct.ProtocolV2.ProcessingStateMachine
