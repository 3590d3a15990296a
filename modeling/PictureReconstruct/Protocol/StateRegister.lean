import PictureReconstruct.Library.Views
import PictureReconstruct.Protocol.TornFiles

/-! # The state file as a register

What `ProcessingStateMachine` is for: a state in memory and a copy of it that outlives the
process.  The copy is a state, or nothing that can be loaded.

* `Register.perform`, `Register.next`: the operations on such a register.
* `view`: a machine as a register; the text of the file is gone.
* `state_file_is_register`: whatever happens to the file and the process, a caller cannot tell the
  machine from the register.
* `reboot_resumes`: what a process that is started again goes on with.
-/

namespace PictureReconstruct.ProtocolV2

open Library.Procedure Library.Runs Library.Views ProcessingStateMachine

/-- What is on disk, as a load comes out of it. -/
inductive Durable
  /-- `loadState` returns `false` -/
  | nothing
  /-- `loadState` throws -/
  | broken
  | holds (state : ProcessingResumeState)
deriving DecidableEq

structure Register where
  memory : ProcessingResumeState
  disk : Durable
deriving DecidableEq

/-- What is left of a state when a write of it ends early: all that a load needs, or a value of
    which not one digit is there, or too little. -/
def survivor (state : ProcessingResumeState) (written : Nat) : Durable :=
  if (stateText state).length ≤ written + 1 then .holds state
  else if written ∈ valueStarts state Field.all then .broken
  else .nothing

namespace Register

/-! ## The operations -/

def save (fault : DiskFault) : EStateM Abort Register Bool := do
  match fault with
  | .open => return false
  | .none =>
    modify fun register => { register with disk := .holds register.memory }
    return true
  | .write written =>
    modify fun register => { register with disk := survivor register.memory written }
    return true
  | .kill written =>
    modify fun register => { register with disk := survivor register.memory written }
    throw .died

def load : EStateM Abort Register Bool := do
  match (← get).disk with
  | .nothing => return false
  | .broken => throw .threw
  | .holds state =>
    modify fun register => { register with memory := state }
    return true

def mutate (fault : DiskFault) (change : ProcessingResumeState → ProcessingResumeState) :
    EStateM Abort Register Bool := do
  modify fun register => { register with memory := change register.memory }
  save fault

/-- The attempt that is on disk goes on if it is the one that is asked for. -/
def resume (fault : DiskFault) (attempt : UInt64 × UInt32 × UInt32) :
    EStateM Abort Register Bool := do
  if ← load then
    if (← get).memory.attempt = attempt then mutate fault .resumed else return false
  else return false

def perform (fault : DiskFault) : Operation → EStateM Abort Register Bool
  | .beginLine taskId lineId attemptId => mutate fault fun _ => .beginNew taskId lineId attemptId
  | .markFrameSent frameSeq => mutate fault (.frameSent frameSeq)
  | .checkpoint lastAckedFrameSeq lastFrameSeq finalized =>
    mutate fault (.checkpointed lastAckedFrameSeq lastFrameSeq finalized)
  | .abortCurrentAttempt => mutate fault .attemptAborted
  | .commitCurrentAttempt => mutate fault .attemptCommitted
  | .resumeFromDisk taskId lineId attemptId => resume fault (taskId, lineId, attemptId)
  | .saveState => save fault
  | .loadState => load

/-- Only the disk outlives the process. -/
def restart (register : Register) : Register := { register with memory := .beginNew 0 0 0 }

def next : Step → Register → Register
  | .restart, register => register.restart
  | .call operation fault, register =>
    match perform fault operation register with
    | .ok _ after => after
    | .error .threw after => after
    | .error .died after => after.restart

/-- What the caller gets, and what `state()` is afterwards. -/
def shows : Step → Register → Except Abort Bool × ProcessingResumeState
  | .restart, register => (.ok true, register.restart.memory)
  | .call operation fault, register =>
    match perform fault operation register with
    | .ok result after => (.ok result, after.memory)
    | .error cause after => (.error cause, after.memory)

end Register

/-- What the caller gets, and what `state()` is afterwards. -/
def ProcessingStateMachine.Step.shows :
    Step → ProcessingStateMachine → Except Abort Bool × ProcessingResumeState
  | .restart, machine => (.ok true, machine.restart.state)
  | .call operation fault, machine =>
    match operation.perform fault machine with
    | .ok result after => (.ok result, after.state)
    | .error cause after => (.error cause, after.state)

/-! ## The simulation -/

def Durable.ofResult : Except Abort (Option ProcessingResumeState) → Durable
  | .error _ => .broken
  | .ok none => .nothing
  | .ok (some state) => .holds state

/-- A file, as a load comes out of it. -/
def durable (file : Option (List Char)) : Durable :=
  match file with
  | none => .nothing
  | some text => .ofResult (parseState text).run

def view (machine : ProcessingStateMachine) : Register := ⟨machine.state, durable machine.file⟩

theorem durable_landed (state : ProcessingResumeState) (n : Nat) :
    durable (some ((stateText state).take n)) = survivor state n := by
  rw [durable, parseState_cut, survivor, apply_ite Durable.ofResult, apply_ite Durable.ofResult]
  rfl

theorem view_landed (machine : ProcessingStateMachine) (n : Nat) :
    view (machine.landed n) = { view machine with disk := survivor machine.state n } := by
  rw [view, landed, durable_landed]
  rfl

theorem saveState_follows (fault : DiskFault) :
    Follows view (saveState fault) (Register.save fault) := by
  cases fault with
  | «open» => exact .pure false
  | none =>
    refine .bind (.modify fun machine => ?_) fun _ => .pure true
    rw [view_landed, survivor, if_pos (Nat.le_succ _)]
    rfl
  | write written => exact .bind (.modify fun machine => view_landed machine _) fun _ => .pure true
  | kill written =>
    exact .bind (.modify fun machine => view_landed machine _) fun _ => .throw Abort.died

theorem loadState_follows : Follows view loadState Register.load := by
  rintro ⟨state, file⟩
  cases file with
  | none => rfl
  | some text =>
    have loads (memory : ProcessingResumeState) : view ⟨memory, some text⟩ =
        ⟨memory, .ofResult (parseState text).run⟩ := rfl
    rw [loadState_ends, loads]
    -- an exception, a `return false`, a state
    rcases parsed : (parseState text).run with _ | _ | loaded
    · exact congrArg (EStateM.Result.error Abort.threw) (parsed ▸ loads state)
    · exact congrArg (EStateM.Result.ok false) (parsed ▸ loads state)
    · exact congrArg (EStateM.Result.ok true) (parsed ▸ loads loaded)

theorem mutate_follows (fault : DiskFault)
    (change : ProcessingResumeState → ProcessingResumeState) :
    Follows view (mutate fault change) (Register.mutate fault change) :=
  .bind (.modify fun _ => rfl) fun _ => saveState_follows fault

theorem attempt_eq_iff {state : ProcessingResumeState} {taskId : UInt64}
    {lineId attemptId : UInt32} : state.attempt = (taskId, lineId, attemptId) ↔
      ¬ (state.taskId != taskId || state.isStaleFor lineId attemptId) = true := by
  simp [ProcessingResumeState.attempt, ProcessingResumeState.isStaleFor,
    ProcessingResumeState.matching]

theorem resumeFromDisk_follows (fault : DiskFault) (taskId : UInt64) (lineId attemptId : UInt32) :
    Follows view (resumeFromDisk fault taskId lineId attemptId)
      (Register.resume fault (taskId, lineId, attemptId)) := by
  refine .bind loadState_follows fun loaded => ?_
  cases loaded with
  | false => exact .pure false
  | true =>
    intro machine
    simp only [Bool.not_true, Bool.false_eq_true, if_false, if_true, run_get_bind]
    have current : (view machine).memory.attempt = (taskId, lineId, attemptId) ↔
        ¬ (machine.state.taskId != taskId || machine.state.isStaleFor lineId attemptId) = true :=
      attempt_eq_iff
    by_cases stale :
        (machine.state.taskId != taskId || machine.state.isStaleFor lineId attemptId) = true
    · rw [if_pos stale, if_neg fun same => current.mp same stale]
      rfl
    · rw [if_neg stale, if_pos (current.mpr stale)]
      exact mutate_follows fault .resumed machine

/-- An operation on the machine is the operation on the register. -/
theorem perform_follows (fault : DiskFault) (operation : Operation) :
    Follows view (operation.perform fault) (Register.perform fault operation) := by
  cases operation with
  | beginLine taskId lineId attemptId =>
    exact mutate_follows fault fun _ => .beginNew taskId lineId attemptId
  | markFrameSent frameSeq => exact mutate_follows fault _
  | checkpoint acked last finalized => exact mutate_follows fault _
  | abortCurrentAttempt => exact mutate_follows fault _
  | commitCurrentAttempt => exact mutate_follows fault _
  | resumeFromDisk taskId lineId attemptId =>
    exact resumeFromDisk_follows fault taskId lineId attemptId
  | saveState => exact saveState_follows fault
  | loadState => exact loadState_follows

theorem view_next (step : Step) (machine : ProcessingStateMachine) :
    view (step.next machine) = Register.next step (view machine) := by
  cases step with
  | restart => rfl
  | call operation fault =>
    rw [Step.next, Register.next, ← perform_follows fault operation machine]
    cases operation.perform fault machine with
    | ok result after => rfl
    | error cause after =>
      cases cause with
      | threw => rfl
      | died => rfl

theorem shows_view (step : Step) (machine : ProcessingStateMachine) :
    step.shows machine = Register.shows step (view machine) := by
  cases step with
  | restart => rfl
  | call operation fault =>
    rw [Step.shows, Register.shows, ← perform_follows fault operation machine]
    cases operation.perform fault machine with
    | ok result after => rfl
    | error cause after => rfl

/-- Over any file, whatever is called, fails, is killed and is started again: the results, the
    exceptions and the states are those of a register. -/
theorem state_file_is_register (file : Option (List Char)) (steps : List Step) :
    observed Step.next Step.shows steps (construct file) =
      observed Register.next Register.shows steps ⟨.beginNew 0 0 0, durable file⟩ :=
  observed_eq shows_view view_next steps (construct file)

/-! ## Reboots -/

/-- The process ends between two calls, and a new one asks for the attempt of the old one. -/
def reboot (machine : ProcessingStateMachine) : ProcessingStateMachine :=
  (Step.call (.resumeFromDisk machine.state.taskId machine.state.lineId machine.state.attemptId)
    .none).next machine.restart

inductive Event
  /-- a call over a disk that does not fail -/
  | call (operation : Operation)
  | reboot
deriving DecidableEq

def Event.next : Event → ProcessingStateMachine → ProcessingStateMachine
  | .call operation, machine => (Step.call operation .none).next machine
  | .reboot, machine => ProtocolV2.reboot machine

/-- The register holds what is in memory. -/
def Synced (register : Register) : Prop := register.disk = .holds register.memory

theorem next_resume {register : Register} {state : ProcessingResumeState}
    (held : register.disk = .holds state) (taskId : UInt64) (lineId attemptId : UInt32) :
    Register.next (.call (.resumeFromDisk taskId lineId attemptId) .none) register =
      if state.attempt = (taskId, lineId, attemptId) then ⟨state.resumed, .holds state.resumed⟩
      else ⟨state, .holds state⟩ := by
  obtain ⟨memory, disk⟩ := register
  subst held
  have resumes : Register.resume .none (taskId, lineId, attemptId) ⟨memory, .holds state⟩ =
      if state.attempt = (taskId, lineId, attemptId) then
        Register.mutate .none .resumed ⟨state, .holds state⟩
      else .ok false ⟨state, .holds state⟩ := by
    show (if state.attempt = (taskId, lineId, attemptId) then Register.mutate .none .resumed
      else return false : EStateM Abort Register Bool) ⟨state, .holds state⟩ = _
    exact ite_apply _ _ _ _
  rw [Register.next, Register.perform, resumes]
  by_cases current : state.attempt = (taskId, lineId, attemptId)
  · rw [if_pos current, if_pos current]
    rfl
  · rw [if_neg current, if_neg current]

/-- On a disk that does not fail the register keeps up with the memory. -/
theorem Synced.call {register : Register} (synced : Synced register) (operation : Operation) :
    Synced (Register.next (.call operation .none) register) := by
  cases operation with
  | beginLine _ _ _ | markFrameSent _ | checkpoint _ _ _ | abortCurrentAttempt
  | commitCurrentAttempt | saveState => exact rfl
  | resumeFromDisk taskId lineId attemptId =>
    rw [next_resume synced]
    split
    · rfl
    · rfl
  | loadState =>
    obtain ⟨memory, disk⟩ := register
    obtain rfl : disk = .holds memory := synced
    exact rfl

theorem view_reboot {machine : ProcessingStateMachine} (synced : Synced (view machine)) :
    view (reboot machine) = ⟨machine.state.resumed, .holds machine.state.resumed⟩ := by
  have held : (view machine.restart).disk = .holds machine.state := synced
  rw [reboot, view_next, next_resume held]
  exact if_pos rfl

theorem Synced.next {machine : ProcessingStateMachine} (synced : Synced (view machine))
    (event : Event) : Synced (view (event.next machine)) := by
  cases event with
  | call operation =>
    rw [Event.next, view_next]
    exact synced.call operation
  | reboot =>
    rw [Event.next, view_reboot synced]
    rfl

theorem resumed_eq_iff {state : ProcessingResumeState} :
    state.resumed = state ↔ state.phase = .running ∧ state.aborted = false := by
  obtain ⟨taskId, lineId, attemptId, frameIndex, last, acked, phase, aborted, committed⟩ := state
  simp [ProcessingResumeState.resumed, eq_comm]

/-- Behind a `beginLine` that was saved, and as long as every save succeeds: in every state that
    calls and reboots lead to, one more reboot is a change to `Running`, and it goes unnoticed
    exactly while the line is under way. -/
theorem reboot_resumes (file : Option (List Char)) (taskId : UInt64) (lineId attemptId : UInt32)
    (events : List Event) :
    let machine := run Event.next events
      ((Step.call (.beginLine taskId lineId attemptId) .none).next (construct file))
    view (reboot machine) = ⟨machine.state.resumed, .holds machine.state.resumed⟩ ∧
      (view (reboot machine) = view machine ↔
        machine.state.phase = .running ∧ machine.state.aborted = false) := by
  intro machine
  have start : Synced (view ((Step.call (.beginLine taskId lineId attemptId) .none).next
      (construct file))) := by
    rw [view_next]
    rfl
  have synced : Synced (view machine) :=
    run_keeps (I := fun machine => Synced (view machine))
      (fun event _ synced => Synced.next synced event) events _ start
  refine ⟨view_reboot synced, ?_⟩
  have same : view machine = ⟨machine.state, .holds machine.state⟩ :=
    congrArg (Register.mk machine.state) synced
  rw [view_reboot synced, same, Register.mk.injEq, Durable.holds.injEq, and_self, resumed_eq_iff]

end PictureReconstruct.ProtocolV2
