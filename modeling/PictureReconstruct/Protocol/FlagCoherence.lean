import PictureReconstruct.Protocol.StateInvariants

/-! # When the flags of a state say what its phase says

A state stores twice whether it is committed or aborted, in the phase and in two flags.
`markFrameSent` and `resumeFromDisk` set the phase and leave `committed` as it was, while
`checkpoint` and the others write both.

* `Coherent`: the flags agree with the phase.
* `Coheres`: what a step has to meet.
* `flags_coherent`: in a run of such steps every state is coherent.
* `committed_flag_stale`: the next frame behind a commit does not meet it.
-/

namespace PictureReconstruct.ProtocolV2

open Library.Procedure Library.Runs ProcessingStateMachine

/-- The flags say what the phase says. -/
def Coherent (state : ProcessingResumeState) : Prop :=
  (state.committed = true ↔ state.phase = .committed) ∧
    (state.aborted = true ↔ state.phase = .aborted) ∧
    ¬ (state.committed = true ∧ state.aborted = true)

instance (state : ProcessingResumeState) : Decidable (Coherent state) :=
  inferInstanceAs (Decidable (_ ∧ _ ∧ _))

/-- What an operation has to meet: no frame is marked while the machine shows its line as
    committed, and no attempt is resumed that the file shows as committed. -/
def ProcessingStateMachine.Operation.Coheres (machine : ProcessingStateMachine) :
    Operation → Prop
  | .markFrameSent _ => machine.state.committed = false
  | .resumeFromDisk taskId lineId attemptId => ∀ state ∈ recovered machine.file,
    state.attempt = (taskId, lineId, attemptId) → state.committed = false
  | _ => True

instance (machine : ProcessingStateMachine) (operation : Operation) :
    Decidable (operation.Coheres machine) :=
  match operation with
  | .markFrameSent _ => inferInstanceAs (Decidable (_ = _))
  | .resumeFromDisk _ _ _ => inferInstanceAs (Decidable (∀ state ∈ recovered _, _ → _))
  | .beginLine _ _ _ | .checkpoint _ _ _ | .abortCurrentAttempt | .commitCurrentAttempt
  | .saveState | .loadState => inferInstanceAs (Decidable True)

/-- What a step has to meet. -/
def Coheres (step : Step) (machine : ProcessingStateMachine) : Prop :=
  ∀ operation fault, step = .call operation fault → operation.Coheres machine

section Steps

variable {machine : ProcessingStateMachine} {state : ProcessingResumeState}

/-- A state that starts or goes on is coherent when nothing is committed. -/
theorem Coherent.of_running (running : state.phase = .running) (committed : state.committed = false)
    (aborted : state.aborted = false) : Coherent state := by
  have phases : ProcessingPhase.running ≠ .committed ∧ ProcessingPhase.running ≠ .aborted := by
    decide
  simp [Coherent, running, committed, aborted, phases]

theorem Coherent.checkpointed (acked last : UInt64) (finalized : Bool) :
    Coherent (state.checkpointed acked last finalized) := by
  have phases : ProcessingPhase.running ≠ .committed ∧ ProcessingPhase.running ≠ .aborted ∧
      ProcessingPhase.committed ≠ .aborted := by decide
  cases finalized <;> simp [Coherent, ProcessingResumeState.checkpointed, phases]

theorem Coherent.attemptAborted : Coherent state.attemptAborted := by
  have phases : ProcessingPhase.aborted ≠ .committed := by decide
  simp [Coherent, ProcessingResumeState.attemptAborted, phases]

theorem Coherent.attemptCommitted : Coherent state.attemptCommitted := by
  have phases : ProcessingPhase.committed ≠ .aborted := by decide
  simp [Coherent, ProcessingResumeState.attemptCommitted, phases]

/-- What an operation saves is coherent. -/
theorem saving_coherent {operation : Operation} (coheres : operation.Coheres machine)
    (upholds : Upholds Coherent machine) (applies : operation.Applies machine) :
    Coherent (operation.saving machine) := by
  cases operation with
  | beginLine taskId lineId attemptId => exact .of_running rfl rfl rfl
  | markFrameSent frameSeq => exact .of_running rfl coheres rfl
  | checkpoint acked last finalized => exact .checkpointed acked last finalized
  | abortCurrentAttempt => exact .attemptAborted
  | commitCurrentAttempt => exact .attemptCommitted
  | resumeFromDisk taskId lineId attemptId =>
    obtain ⟨loaded, found, expected⟩ := Option.map_eq_some_iff.mp applies
    rw [Operation.saving, found, Option.getD_some]
    exact .of_running rfl (coheres loaded found expected) rfl
  | saveState => exact upholds.state
  | loadState => exact upholds.state

/-- One step. -/
theorem next_coherent {step : Step} (coheres : Coheres step machine)
    (upholds : Upholds Coherent machine) : Upholds Coherent (step.next machine) := by
  have fresh : Coherent (.beginNew 0 0 0) := .of_running rfl rfl rfl
  cases step with
  | restart => exact upholds.restart fresh
  | call operation fault =>
    refine call_upholds (saving_coherent (coheres operation fault rfl) upholds) ?_ upholds
    unfold wp
    split
    · trivial
    · exact fun _ => fresh

end Steps

/-- In a run of such steps, restarts, failed writes and kills included, the machine shows flags
    that agree with the phase. -/
theorem flags_coherent (steps : List Step)
    (coheres : Admits Step.next Coheres steps (construct none)) :
    Coherent (run Step.next steps (construct none)).state :=
  have start : Upholds Coherent (construct none) := .construct (.of_running rfl rfl rfl)
  (run_invariant (I := fun _ machine => Upholds Coherent machine)
    (fun _ _ _ upholds coheres => next_coherent coheres upholds) steps _ start coheres).state

/-- A line that is committed, reloaded and followed by the next one. -/
theorem flags_coherent_reloaded :
    Coherent (run Step.next
      [.call (.beginLine 1001 7 2) .none, .call (.markFrameSent 10) .none,
        .call .commitCurrentAttempt .none, .restart, .call .loadState .none,
        .call (.beginLine 1001 8 1) .none, .call (.markFrameSent 11) .none]
      (construct none)).state :=
  flags_coherent _ ⟨by rintro _ _ ⟨⟩; trivial, by rintro _ _ ⟨⟩; rfl, by rintro _ _ ⟨⟩; trivial,
    by rintro _ _ ⟨⟩, by rintro _ _ ⟨⟩; trivial, by rintro _ _ ⟨⟩; trivial,
    by rintro _ _ ⟨⟩; rfl, trivial⟩

/-- The next frame behind a commit: the phase is running, the flag still says committed. -/
theorem committed_flag_stale :
    ¬ Coherent (run Step.next
      [.call (.beginLine 1001 7 2) .none, .call .commitCurrentAttempt .none,
        .call (.markFrameSent 10) .none] (construct none)).state := by
  decide +kernel

end PictureReconstruct.ProtocolV2
