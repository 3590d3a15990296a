import PictureReconstruct.Protocol.StateInvariants

/-! # When an aborted attempt stays aborted

An attempt that was aborted must not come back: its frames are no part of the reconstruction.
But no operation looks at `aborted` before it writes the phase.

* `Spares`: what a step has to meet.
* `aborted_stays_aborted`: in a run of such steps the machine and its file do not revive an
  aborted attempt, whatever writes fail and whenever the process is killed.
* `aborted_attempt_revived`: the next `markFrameSent` does not meet it.
-/

namespace PictureReconstruct.ProtocolV2

open Library.Procedure Library.Runs ProcessingStateMachine

/-- A state that is about `attempt` shows it as aborted. -/
def ShowsAborted (attempt : UInt64 × UInt32 × UInt32) (state : ProcessingResumeState) : Prop :=
  state.attempt = attempt → state.aborted = true ∧ state.phase = .aborted

instance (attempt : UInt64 × UInt32 × UInt32) (state : ProcessingResumeState) :
    Decidable (ShowsAborted attempt state) :=
  inferInstanceAs (Decidable (_ → _))

/-- What an operation has to meet: it is no `beginLine`; it does not mark a frame, save a
    checkpoint or commit while the machine is about `attempt`; and it does not resume `attempt`
    while the file holds it. -/
def ProcessingStateMachine.Operation.Spares (attempt : UInt64 × UInt32 × UInt32)
    (machine : ProcessingStateMachine) : Operation → Prop
  | .beginLine _ _ _ => False
  | .markFrameSent _ | .checkpoint _ _ _ | .commitCurrentAttempt =>
    machine.state.attempt ≠ attempt
  | .resumeFromDisk taskId lineId attemptId => (taskId, lineId, attemptId) = attempt →
    (recovered machine.file).map ProcessingResumeState.attempt ≠ some attempt
  | .abortCurrentAttempt | .saveState | .loadState => True

instance (attempt : UInt64 × UInt32 × UInt32) (machine : ProcessingStateMachine)
    (operation : Operation) : Decidable (operation.Spares attempt machine) :=
  match operation with
  | .beginLine _ _ _ => inferInstanceAs (Decidable False)
  | .markFrameSent _ | .checkpoint _ _ _ | .commitCurrentAttempt =>
    inferInstanceAs (Decidable (machine.state.attempt ≠ attempt))
  | .resumeFromDisk _ _ _ => inferInstanceAs (Decidable (_ → _ ≠ _))
  | .abortCurrentAttempt | .saveState | .loadState => inferInstanceAs (Decidable True)

/-- What a step has to meet; a new process starts out about the attempt `(0, 0, 0)`. -/
def Spares (attempt : UInt64 × UInt32 × UInt32) (step : Step) (machine : ProcessingStateMachine) :
    Prop :=
  match step with
  | .restart => attempt ≠ (0, 0, 0)
  | .call operation fault => operation.Spares attempt machine ∧
    wp (operation.perform fault) (fun _ _ => True)
      (fun cause _ => cause = .died → attempt ≠ (0, 0, 0)) machine

instance (attempt : UInt64 × UInt32 × UInt32) (step : Step) (machine : ProcessingStateMachine) :
    Decidable (Spares attempt step machine) :=
  match step with
  | .restart => inferInstanceAs (Decidable (_ ≠ _))
  | .call _ _ => inferInstanceAs (Decidable (_ ∧ _))

section Steps

variable {attempt : UInt64 × UInt32 × UInt32} {machine : ProcessingStateMachine}

/-- What an operation saves does not revive `attempt`. -/
theorem ProcessingStateMachine.Operation.Spares.saves {operation : Operation}
    (spares : operation.Spares attempt machine)
    (upholds : Upholds (ShowsAborted attempt) machine) (applies : operation.Applies machine) :
    ShowsAborted attempt (operation.saving machine) := by
  -- the operations that revive an attempt are those that `Spares` keeps away from it
  cases operation with
  | beginLine taskId lineId attemptId => exact spares.elim
  | markFrameSent frameSeq => exact fun same => absurd same spares
  | checkpoint acked last finalized => exact fun same => absurd same spares
  | abortCurrentAttempt => exact fun _ => ⟨rfl, rfl⟩
  | commitCurrentAttempt => exact fun same => absurd same spares
  | resumeFromDisk taskId lineId attemptId =>
    -- the attempt that is resumed is the one in the file
    obtain ⟨state, found, expected⟩ := Option.map_eq_some_iff.mp applies
    intro same
    simp only [Operation.saving, found, Option.getD_some] at same
    exact absurd (applies.trans (congrArg some (expected.symm.trans same)))
      (spares (expected.symm.trans same))
  | saveState => exact upholds.state
  | loadState => exact upholds.state

/-- One step: neither the machine nor its file revives `attempt`. -/
theorem next_keeps {step : Step} (spares : Spares attempt step machine)
    (upholds : Upholds (ShowsAborted attempt) machine) :
    Upholds (ShowsAborted attempt) (step.next machine) := by
  have fresh : attempt ≠ (0, 0, 0) → ShowsAborted attempt (.beginNew 0 0 0) :=
    fun other same => absurd same.symm other
  cases step with
  | restart => exact upholds.restart (fresh spares)
  | call operation fault =>
    exact call_upholds (spares.1.saves upholds)
      (spares.2.mono (fun _ _ _ => trivial) fun _ _ other died => fresh (other died)) upholds

end Steps

/-- Once `abortCurrentAttempt` has returned `true`, the attempt is shown as aborted in every state
    of a run of such steps. -/
theorem aborted_stays_aborted (machine aborted : ProcessingStateMachine) (fault : DiskFault)
    (succeeded : abortCurrentAttempt fault machine = .ok true aborted) (steps : List Step)
    (spares : Admits Step.next (Spares machine.state.attempt) steps aborted) :
    ShowsAborted machine.state.attempt (run Step.next steps aborted).state := by
  have start : wp (abortCurrentAttempt fault)
      (fun result after => result = true → Upholds (ShowsAborted machine.state.attempt) after)
      (fun _ _ => True) machine :=
    wp_mutate (by simp) (fun _ _ _ => ⟨fun _ => ⟨rfl, rfl⟩,
      fun _ found => recovered_landed found ▸ fun _ => ⟨rfl, rfl⟩⟩) (fun _ _ => trivial)
  exact (run_invariant (I := fun _ after => Upholds (ShowsAborted machine.state.attempt) after)
    (fun _ _ _ keeps spares => next_keeps spares keeps) steps aborted
    (start.ok succeeded rfl) spares).state

/-- A resume of another attempt, a save, a restart and a load. -/
theorem aborted_stays_aborted_restarted :
    ShowsAborted (1001, 7, 2) (run Step.next
      [.call (.resumeFromDisk 1001 7 3) .none, .call .saveState .none, .restart,
        .call .loadState .none]
      (run Step.next [.call (.beginLine 1001 7 2) .none, .call .abortCurrentAttempt .none]
        (construct none))).state :=
  aborted_stays_aborted (run Step.next [.call (.beginLine 1001 7 2) .none] (construct none)) _ .none
    rfl _ ⟨by decide +kernel, by decide +kernel, by decide +kernel, by decide +kernel, trivial⟩

/-- The next frame of an aborted attempt shows it as running again. -/
theorem aborted_attempt_revived :
    ¬ ShowsAborted (1001, 7, 2) (run Step.next [.call (.markFrameSent 10) .none]
      (run Step.next [.call (.beginLine 1001 7 2) .none, .call .abortCurrentAttempt .none]
        (construct none))).state := by
  decide +kernel

end PictureReconstruct.ProtocolV2
