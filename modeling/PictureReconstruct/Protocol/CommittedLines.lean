import PictureReconstruct.Protocol.StateInvariants

/-! # When a committed line stays committed

A line that was committed must not be opened again: it is complete, and nobody scans it a second
time.  But no operation looks at `committed` before it writes the phase.

* `LeavesCommitted`: what a step has to meet.
* `committed_stays_committed`: in a run of such steps the machine and its file do not reopen a
  committed line, whatever writes fail and whenever the process is killed.
* `committed_line_reopened`: the next `checkpoint` does not meet it.
-/

namespace PictureReconstruct.ProtocolV2

open Library.Procedure Library.Runs ProcessingStateMachine

/-- A state that is about `attempt` shows it as committed. -/
def ShowsCommitted (attempt : UInt64 × UInt32 × UInt32) (state : ProcessingResumeState) : Prop :=
  state.attempt = attempt → state.phase = .committed ∧ state.committed = true

instance (attempt : UInt64 × UInt32 × UInt32) (state : ProcessingResumeState) :
    Decidable (ShowsCommitted attempt state) :=
  inferInstanceAs (Decidable (_ → _))

/-- What an operation has to meet: it is no `beginLine`; it does not mark a frame, abort or save a
    checkpoint that is not final while the machine is about `attempt`; and it does not resume
    `attempt` while the file holds it. -/
def ProcessingStateMachine.Operation.LeavesCommitted (attempt : UInt64 × UInt32 × UInt32)
    (machine : ProcessingStateMachine) : Operation → Prop
  | .beginLine _ _ _ => False
  | .markFrameSent _ | .abortCurrentAttempt => machine.state.attempt ≠ attempt
  | .checkpoint _ _ finalized => finalized = false → machine.state.attempt ≠ attempt
  | .resumeFromDisk taskId lineId attemptId => (taskId, lineId, attemptId) = attempt →
    (recovered machine.file).map ProcessingResumeState.attempt ≠ some attempt
  | .commitCurrentAttempt | .saveState | .loadState => True

instance (attempt : UInt64 × UInt32 × UInt32) (machine : ProcessingStateMachine)
    (operation : Operation) : Decidable (operation.LeavesCommitted attempt machine) :=
  match operation with
  | .beginLine _ _ _ => inferInstanceAs (Decidable False)
  | .markFrameSent _ | .abortCurrentAttempt =>
    inferInstanceAs (Decidable (machine.state.attempt ≠ attempt))
  | .checkpoint _ _ _ | .resumeFromDisk _ _ _ => inferInstanceAs (Decidable (_ → _ ≠ _))
  | .commitCurrentAttempt | .saveState | .loadState => inferInstanceAs (Decidable True)

/-- What a step has to meet; a new process starts out about the attempt `(0, 0, 0)`. -/
def LeavesCommitted (attempt : UInt64 × UInt32 × UInt32) (step : Step)
    (machine : ProcessingStateMachine) : Prop :=
  match step with
  | .restart => attempt ≠ (0, 0, 0)
  | .call operation fault => operation.LeavesCommitted attempt machine ∧
    wp (operation.perform fault) (fun _ _ => True)
      (fun cause _ => cause = .died → attempt ≠ (0, 0, 0)) machine

instance (attempt : UInt64 × UInt32 × UInt32) (step : Step) (machine : ProcessingStateMachine) :
    Decidable (LeavesCommitted attempt step machine) :=
  match step with
  | .restart => inferInstanceAs (Decidable (_ ≠ _))
  | .call _ _ => inferInstanceAs (Decidable (_ ∧ _))

section Steps

variable {attempt : UInt64 × UInt32 × UInt32} {machine : ProcessingStateMachine}
  {operation : Operation}

/-- What an operation saves does not reopen `attempt`. -/
theorem saving_showsCommitted (leaves : operation.LeavesCommitted attempt machine)
    (upholds : Upholds (ShowsCommitted attempt) machine) (applies : operation.Applies machine) :
    ShowsCommitted attempt (operation.saving machine) := by
  -- the operations that reopen a line are those that `LeavesCommitted` keeps away from it
  cases operation with
  | beginLine taskId lineId attemptId => exact leaves.elim
  | markFrameSent frameSeq => exact fun same => absurd same leaves
  | checkpoint acked last finalized =>
    cases finalized with
    | false => exact fun same => absurd same (leaves rfl)
    | true => exact fun _ => ⟨rfl, rfl⟩
  | abortCurrentAttempt => exact fun same => absurd same leaves
  | commitCurrentAttempt => exact fun _ => ⟨rfl, rfl⟩
  | resumeFromDisk taskId lineId attemptId =>
    obtain ⟨loaded, found, expected⟩ := Option.map_eq_some_iff.mp applies
    rw [Operation.saving, found, Option.getD_some]
    intro same
    -- the attempt that is resumed is the one in the file
    have resumed : (taskId, lineId, attemptId) = attempt := expected.symm.trans same
    exact absurd (applies.trans (congrArg some resumed)) (leaves resumed)
  | saveState => exact upholds.state
  | loadState => exact upholds.state

/-- One step. -/
theorem next_showsCommitted {step : Step} (leaves : LeavesCommitted attempt step machine)
    (upholds : Upholds (ShowsCommitted attempt) machine) :
    Upholds (ShowsCommitted attempt) (step.next machine) := by
  have fresh : attempt ≠ (0, 0, 0) → ShowsCommitted attempt (.beginNew 0 0 0) :=
    fun other same => absurd same.symm other
  cases step with
  | restart => exact upholds.restart (fresh leaves)
  | call operation fault =>
    refine call_upholds (saving_showsCommitted leaves.1 upholds)
      (leaves.2.mono (fun _ _ _ => trivial) fun _ _ other died => fresh (other died)) upholds

/-- A state that is in phase `Committed` has the flag set. -/
def FlaggedCommitted (state : ProcessingResumeState) : Prop :=
  state.phase = .committed → state.committed = true

/-- No operation writes the phase `Committed` without the flag. -/
theorem next_flaggedCommitted {step : Step} (upholds : Upholds FlaggedCommitted machine) :
    Upholds FlaggedCommitted (step.next machine) := by
  have running : ProcessingPhase.running ≠ .committed := by decide
  have aborted : ProcessingPhase.aborted ≠ .committed := by decide
  have fresh : FlaggedCommitted (.beginNew 0 0 0) := fun phase => absurd phase running
  cases step with
  | restart => exact upholds.restart fresh
  | call operation fault =>
    refine call_upholds (fun applies => ?_) ?_ upholds
    · cases operation with
      | beginLine taskId lineId attemptId => exact fun phase => absurd phase running
      | markFrameSent frameSeq => exact fun phase => absurd phase running
      | checkpoint acked last finalized =>
        cases finalized with
        | false => exact fun phase => absurd phase running
        | true => exact fun _ => rfl
      | abortCurrentAttempt => exact fun phase => absurd phase aborted
      | commitCurrentAttempt => exact fun _ => rfl
      | resumeFromDisk taskId lineId attemptId => exact fun phase => absurd phase running
      | saveState => exact upholds.state
      | loadState => exact upholds.state
    · unfold wp
      split
      · trivial
      · exact fun _ => fresh

end Steps

/-- A machine that was reached by any steps and is in phase `Committed` shows its line as committed
    in every state of a run of such steps, provided that its file does not show it otherwise. -/
theorem committed_stays_committed (history : List Step) (steps : List Step)
    (committed : (run Step.next history (construct none)).state.phase = .committed)
    (saved : ∀ state ∈ recovered (run Step.next history (construct none)).file,
      ShowsCommitted (run Step.next history (construct none)).state.attempt state)
    (leaves : Admits Step.next
      (LeavesCommitted (run Step.next history (construct none)).state.attempt) steps
      (run Step.next history (construct none))) :
    ShowsCommitted (run Step.next history (construct none)).state.attempt
      (run Step.next steps (run Step.next history (construct none))).state := by
  have flagged : Upholds FlaggedCommitted (run Step.next history (construct none)) :=
    run_keeps (fun _ _ upholds => next_flaggedCommitted upholds) history _
      (.construct fun phase => absurd phase (by decide))
  exact (run_invariant (I := fun _ machine => Upholds (ShowsCommitted _) machine)
    (fun _ _ _ upholds leaves => next_showsCommitted leaves upholds) steps _
    ⟨fun _ => ⟨committed, flagged.state committed⟩, saved⟩ leaves).state

/-- Another commit, a final checkpoint, a restart and a load. -/
theorem committed_stays_committed_restarted :
    ShowsCommitted (1001, 7, 2) (run Step.next
      [.call .commitCurrentAttempt .none, .call (.checkpoint 10 10 true) .none, .restart,
        .call .loadState .none]
      (run Step.next [.call (.beginLine 1001 7 2) .none, .call .commitCurrentAttempt .none]
        (construct none))).state :=
  committed_stays_committed
    [.call (.beginLine 1001 7 2) .none, .call .commitCurrentAttempt .none] _ rfl
    (by decide +kernel)
    ⟨by decide +kernel, by decide +kernel, by decide +kernel, by decide +kernel, trivial⟩

/-- A checkpoint behind the commit, with its default arguments, shows the line as running again. -/
theorem committed_line_reopened :
    ¬ ShowsCommitted (1001, 7, 2) (run Step.next [.call (.checkpoint 10 0 false) .none]
      (run Step.next [.call (.beginLine 1001 7 2) .none, .call .commitCurrentAttempt .none]
        (construct none))).state := by
  decide +kernel

end PictureReconstruct.ProtocolV2
