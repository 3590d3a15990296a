import PictureReconstruct.Library.Procedure
import PictureReconstruct.Library.Runs
import PictureReconstruct.Protocol.ProcessingState

/-! # `ProcessingStateMachine`

The machine is its state in memory with the file "processing_state.txt".  `saveState` truncates
the file and hands the text to a stream that holds it back until it is closed, when the result is
already known: a write that fails is not reported, and a process that is killed leaves any part
of the text behind.

* `wp_mutate`, `wp_loadState`: what the operations can do.
* `Step.next`: an operation, or a restart of the process, as a step of a run.
* `recovered_eq_some`: what a new process gets out of a file.
-/

namespace PictureReconstruct.ProtocolV2

open Library.Procedure

namespace ProcessingResumeState

/-! ## What the operations make of the state -/

def frameSent (frameSeq : UInt64) (state : ProcessingResumeState) : ProcessingResumeState :=
  { state with
    frameIndex := state.frameIndex + 1
    lastFrameSeq := frameSeq
    phase := .running
    aborted := false }

def checkpointed (lastAckedFrameSeq lastFrameSeq : UInt64) (finalized : Bool)
    (state : ProcessingResumeState) : ProcessingResumeState :=
  { state with
    lastAckedFrameSeq := lastAckedFrameSeq
    lastFrameSeq := if lastFrameSeq != 0 then lastFrameSeq else state.lastFrameSeq
    phase := if finalized then .committed else .running
    committed := finalized
    aborted := false }

def attemptAborted (state : ProcessingResumeState) : ProcessingResumeState :=
  { state with phase := .aborted, aborted := true, committed := false }

def attemptCommitted (state : ProcessingResumeState) : ProcessingResumeState :=
  { state with phase := .committed, committed := true, aborted := false }

def resumed (state : ProcessingResumeState) : ProcessingResumeState :=
  { state with phase := .running, aborted := false }

end ProcessingResumeState

/-- A machine; `file` is nothing while the file does not exist, and outlives the process. -/
structure ProcessingStateMachine where
  state : ProcessingResumeState
  file : Option (List Char)
deriving DecidableEq

namespace ProcessingStateMachine

/-- The constructor, over a state directory. -/
def construct (file : Option (List Char)) : ProcessingStateMachine where
  state := .beginNew 0 0 0
  file := file

/-- The machine with the first `n` characters of the text of its state in the file. -/
def landed (machine : ProcessingStateMachine) (n : Nat) : ProcessingStateMachine :=
  { machine with file := some ((stateText machine.state).take n) }

/-- `saveState`, given the fate of the file. -/
def saveState (fault : DiskFault) : EStateM Abort ProcessingStateMachine Bool := do
  match fault with
  | .open => return false
  | .none =>
    modify fun machine => machine.landed (stateText machine.state).length
    return true
  -- the stream fails when it is closed, and nobody looks
  | .write written =>
    modify fun machine => machine.landed written
    return true
  | .kill written =>
    modify fun machine => machine.landed written
    throw .died

def loadState : EStateM Abort ProcessingStateMachine Bool := do
  match (← get).file with
  | none => return false
  | some text =>
    match (parseState text).run with
    | .error _ => throw .threw
    | .ok none => return false
    | .ok (some state) =>
      modify fun machine => { machine with state }
      return true

/-- The operations change the state in memory, then save it. -/
def mutate (fault : DiskFault) (change : ProcessingResumeState → ProcessingResumeState) :
    EStateM Abort ProcessingStateMachine Bool := do
  modify fun machine => { machine with state := change machine.state }
  saveState fault

variable (fault : DiskFault)

def beginLine (taskId : UInt64) (lineId attemptId : UInt32) :
    EStateM Abort ProcessingStateMachine Bool :=
  mutate fault fun _ => .beginNew taskId lineId attemptId

def markFrameSent (frameSeq : UInt64) : EStateM Abort ProcessingStateMachine Bool :=
  mutate fault (.frameSent frameSeq)

def checkpoint (lastAckedFrameSeq lastFrameSeq : UInt64) (finalized : Bool) :
    EStateM Abort ProcessingStateMachine Bool :=
  mutate fault (.checkpointed lastAckedFrameSeq lastFrameSeq finalized)

def abortCurrentAttempt : EStateM Abort ProcessingStateMachine Bool :=
  mutate fault .attemptAborted

def commitCurrentAttempt : EStateM Abort ProcessingStateMachine Bool :=
  mutate fault .attemptCommitted

def resumeFromDisk (expectedTaskId : UInt64) (expectedLineId expectedAttemptId : UInt32) :
    EStateM Abort ProcessingStateMachine Bool := do
  if !(← loadState) then return false
  let state := (← get).state
  if state.taskId != expectedTaskId || state.isStaleFor expectedLineId expectedAttemptId then
    return false
  mutate fault .resumed

/-! ## What the operations can do -/

section Rules

variable {fault} {machine : ProcessingStateMachine} {Q : Bool → ProcessingStateMachine → Prop}
  {E : Abort → ProcessingStateMachine → Prop}

theorem wp_saveState (refused : fault = .open → Q false machine)
    (saved : ∀ n, (∀ written, fault ≠ .kill written) → Q true (machine.landed n))
    (killed : ∀ n, fault = .kill n → E .died (machine.landed n)) :
    wp (saveState fault) Q E machine := by
  cases fault with
  | none => exact saved _ (by simp)
  | «open» => exact refused rfl
  | write written => exact saved written (by simp)
  | kill written => exact killed written rfl

theorem wp_mutate {change : ProcessingResumeState → ProcessingResumeState}
    (refused : Q false { machine with state := change machine.state })
    (saved : ∀ n, (∀ written, fault ≠ .kill written) →
      Q true (landed { machine with state := change machine.state } n))
    (killed : ∀ n, fault = .kill n →
      E .died (landed { machine with state := change machine.state } n)) :
    wp (mutate fault change) Q E machine := by
  simp only [mutate, wp_bind, wp_modify]
  exact wp_saveState (fun _ => refused) saved killed

/-- A load that does not succeed leaves the machine alone. -/
theorem wp_loadState (failed : Q false machine) (threw : E .threw machine)
    (loaded : ∀ text state, machine.file = some text → Loaded text state →
      Q true { machine with state }) :
    wp loadState Q E machine := by
  simp only [loadState, wp_bind, wp_get]
  cases file : machine.file with
  | none => exact failed
  | some text =>
    simp only
    cases parsed : (parseState text).run with
    | error _ => exact threw
    | ok result =>
      cases result with
      | none => exact failed
      | some state =>
        simp only [wp_bind, wp_modify, wp_pure]
        exact loaded text state file parsed

theorem wp_resumeFromDisk {expectedTaskId : UInt64} {expectedLineId expectedAttemptId : UInt32}
    (failed : Q false machine) (threw : E .threw machine)
    (stale : ∀ text state, machine.file = some text → Loaded text state →
      Q false { machine with state })
    (resuming : ∀ text state, machine.file = some text → Loaded text state →
      state.taskId = expectedTaskId → state.lineId = expectedLineId →
      state.attemptId = expectedAttemptId → wp (mutate fault .resumed) Q E { machine with state }) :
    wp (resumeFromDisk fault expectedTaskId expectedLineId expectedAttemptId) Q E machine := by
  simp only [resumeFromDisk, wp_bind]
  refine wp_loadState failed threw fun text state file loaded => ?_
  simp only [Bool.not_true, Bool.false_eq_true, if_false, wp_bind, wp_get, wp_ite, wp_pure]
  refine ⟨fun _ => stale text state file loaded, fun current => ?_⟩
  simp only [Bool.or_eq_true, bne_iff_ne, ne_eq, ProcessingResumeState.isStaleFor,
    ProcessingResumeState.matching, Bool.not_eq_true', Bool.and_eq_false_iff, beq_eq_false_iff_ne,
    not_or, not_not] at current
  exact resuming text state file loaded current.1 current.2.1 current.2.2

end Rules

/-! ## Runs -/

inductive Operation
  | beginLine (taskId : UInt64) (lineId attemptId : UInt32)
  | markFrameSent (frameSeq : UInt64)
  | checkpoint (lastAckedFrameSeq lastFrameSeq : UInt64) (finalized : Bool)
  | abortCurrentAttempt
  | commitCurrentAttempt
  | resumeFromDisk (expectedTaskId : UInt64) (expectedLineId expectedAttemptId : UInt32)
  | saveState
  | loadState
deriving DecidableEq

def Operation.perform (fault : DiskFault) : Operation → EStateM Abort ProcessingStateMachine Bool
  | beginLine taskId lineId attemptId =>
    ProcessingStateMachine.beginLine fault taskId lineId attemptId
  | markFrameSent frameSeq => ProcessingStateMachine.markFrameSent fault frameSeq
  | checkpoint lastAckedFrameSeq lastFrameSeq finalized =>
    ProcessingStateMachine.checkpoint fault lastAckedFrameSeq lastFrameSeq finalized
  | abortCurrentAttempt => ProcessingStateMachine.abortCurrentAttempt fault
  | commitCurrentAttempt => ProcessingStateMachine.commitCurrentAttempt fault
  | resumeFromDisk expectedTaskId expectedLineId expectedAttemptId =>
    ProcessingStateMachine.resumeFromDisk fault expectedTaskId expectedLineId expectedAttemptId
  | saveState => ProcessingStateMachine.saveState fault
  | loadState => ProcessingStateMachine.loadState

/-- A process that ends leaves the file to a new one. -/
def restart (machine : ProcessingStateMachine) : ProcessingStateMachine := construct machine.file

inductive Step
  | call (operation : Operation) (fault : DiskFault)
  | restart
deriving DecidableEq

/-- A process that was killed is started again, an exception is caught by the caller. -/
def Step.next : Step → ProcessingStateMachine → ProcessingStateMachine
  | restart, machine => machine.restart
  | call operation fault, machine =>
    match operation.perform fault machine with
    | .ok _ after => after
    | .error .threw after => after
    | .error .died after => after.restart

theorem Step.next_of_wp {operation : Operation} {fault : DiskFault}
    {machine : ProcessingStateMachine} {I : ProcessingStateMachine → Prop}
    (ends : wp (operation.perform fault) (fun _ => I)
      (fun cause after => (cause = .threw → I after) ∧ (cause = .died → I after.restart)) machine) :
    I ((Step.call operation fault).next machine) := by
  cases run : operation.perform fault machine with
  | ok _ after =>
    simp only [next, run]
    exact ends.ok run
  | error cause after =>
    cases cause with
    | threw =>
      simp only [next, run]
      exact (ends.error run).1 rfl
    | died =>
      simp only [next, run]
      exact (ends.error run).2 rfl

/-! ## What a new process gets out of a file -/

/-- The state that a new machine reports once its `loadState` has returned `true`. -/
def recovered (file : Option (List Char)) : Option ProcessingResumeState :=
  match loadState (construct file) with
  | .ok true machine => some machine.state
  | _ => none

theorem recovered_eq_some {file : Option (List Char)} {state : ProcessingResumeState} :
    recovered file = some state ↔ ∃ text, file = some text ∧ Loaded text state := by
  constructor
  · intro same
    have ends : wp loadState
        (fun result after => result = true → ∃ text, file = some text ∧ Loaded text after.state)
        (fun _ _ => True) (construct file) :=
      wp_loadState (by simp) trivial fun text state held loaded _ => ⟨text, held, loaded⟩
    unfold recovered at same
    split at same
    · next machine run => exact Option.some.inj same ▸ ends.ok run rfl
    · exact absurd same (by simp)
  · rintro ⟨text, rfl, loaded⟩
    have ends : wp loadState (fun result after => result = true ∧ after.state = state)
        (fun _ _ => False) (construct (some text)) := by
      unfold Loaded at loaded
      simp only [loadState, construct, wp_bind, wp_get, loaded, wp_modify, wp_pure, and_self]
    cases run : loadState (construct (some text)) with
    | error _ _ => exact (ends.error run).elim
    | ok result after =>
      obtain ⟨rfl, rfl⟩ := ends.ok run
      rw [recovered, run]

/-- The state that an operation saves, if it saves one. -/
def Operation.saving (machine : ProcessingStateMachine) :
    Operation → ProcessingResumeState
  | .beginLine taskId lineId attemptId => .beginNew taskId lineId attemptId
  | .markFrameSent frameSeq => machine.state.frameSent frameSeq
  | .checkpoint lastAckedFrameSeq lastFrameSeq finalized =>
    machine.state.checkpointed lastAckedFrameSeq lastFrameSeq finalized
  | .abortCurrentAttempt => machine.state.attemptAborted
  | .commitCurrentAttempt => machine.state.attemptCommitted
  | .resumeFromDisk _ _ _ => ((recovered machine.file).getD machine.state).resumed
  | .saveState | .loadState => machine.state

end ProcessingStateMachine

end PictureReconstruct.ProtocolV2
