import PictureReconstruct.Network.RawFrameSender
import PictureReconstruct.Storage.SenderSpool

/-! # `ResumeSession`: persist first, resume after a reconnect

A `Session` is a `ResumeSession` with its spool directory, its connection and the history of
the run.  The process can be killed at every system call, the removal of a spool file included.
It has the memory for what the headers of the spool announce, up to the largest vector, unless a
statement passes another `allocates` to `requestResume`.

* `wp_sendFrame_iff`, `wp_requestResume_iff`: the two procedures that delete frames, cut at the
  point where they begin to.
-/

namespace PictureReconstruct

open Library.Procedure ProtocolV2 TcpClient SenderSpool

inductive SessionState
  | disconnected
  | connecting
  | handshaking
  | recovering
  | ready
  | failed
deriving DecidableEq

/-- A `ResumeSession`; `net` outlives the process, and so do the files of the spool. -/
structure Session where
  state : SessionState := .disconnected
  highestDurableFrameSeq : UInt64 := 0
  spool : SenderSpool
  net : Net := {}
deriving DecidableEq

abbrev Procedure := EStateM Abort Session

namespace Session

def onNet {α : Type} (m : EStateM Abort Net α) : Procedure α :=
  zoom Session.net (fun net session => { session with net }) m

def onSpool {α : Type} (m : EStateM Abort SenderSpool α) : Procedure α :=
  zoom Session.spool (fun spool session => { session with spool }) m

def setState (state : SessionState) : Procedure Unit :=
  modify fun session => { session with state }

def record (event : Event) (session : Session) : Session :=
  { session with net := session.net.record event }

end Session

namespace ResumeSession

open Session

/-- The `fragmentSize_` of `frameSender_`, which keeps its initial value. -/
def fragmentSize : UInt32 := 64 * 1024

variable (env : Environment) (taskId : UInt64)

def loadPendingFrames (allocates : List Char → Nat → Bool := fun _ _ => true) :
    Procedure (List RawFrame) := do
  match (← get).spool.loadPendingFrames allocates with
  | .ok frames => return frames
  | .error cause => throw cause

/-- `spool_.removeFrame`. -/
def removeFrame (frameId : UInt64) : Procedure Unit := do
  onNet (systemCall env)
  modify fun session => { session with spool := session.spool.removeFrame frameId }

/-- `spool_.persist`. -/
def persist (frame : RawFrame) : Procedure Bool := do
  onNet (systemCall env)
  let persisted ← onSpool (SenderSpool.persist (env.disk (← get).net) frame)
  if persisted then modify (record (.persisted frame))
  return persisted

def requestResume (allocates : List Char → Nat → Bool := fun _ _ => true) : Procedure Bool := do
  if !(← onNet (sendAll env (.resumeRequest taskId))) then return false
  match ← onNet (recvAll env (12 + 16)) with
  | none => return false
  | some replyBuffer =>
    let (parsed, reply) := parseResumeReply replyBuffer ⟨0, 0⟩
    if !parsed then return false
    -- `reply.taskId` is printed and not compared with `taskId`
    modify fun session =>
      { session with highestDurableFrameSeq := reply.highestDurableFrameSeq }.record
        (.resumed session.net.connection reply)
    (← loadPendingFrames allocates).forM fun frame => do
      if frame.frameId ≤ (← get).highestDurableFrameSeq then removeFrame env frame.frameId
    return true

def replayPendingFrames : Procedure Bool := do
  let frames ← loadPendingFrames
  if frames.isEmpty then return true
  frames.allM fun frame => onNet (RawFrameSender.sendFrame env fragmentSize frame)

def reconnectAndResume : Procedure Bool := do
  setState .connecting
  if !(← onNet (connectToServer env)) then
    setState .disconnected
    return false
  setState .handshaking
  if !(← onNet (sendAll env (.hello taskId))) then
    onNet closeConnection
    setState .failed
    return false
  if !(← requestResume env taskId) then
    onNet closeConnection
    setState .failed
    return false
  setState .recovering
  -- the connection stays open here
  if !(← replayPendingFrames env) then
    setState .failed
    return false
  setState .ready
  return true

def start : Procedure Bool := reconnectAndResume env taskId

def sendFrame (frame : RawFrame) : Procedure Bool := do
  if !(← persist env frame) then return false
  if !(← onNet isConnected) then
    if !(← reconnectAndResume env taskId) then return false
  if !(← onNet (RawFrameSender.sendFrame env fragmentSize frame)) then
    onNet closeConnection
    setState .failed
    return false
  -- the last byte was taken by `send`; nothing says that the receiver has it
  removeFrame env frame.frameId
  return true

/-! ## The two procedures that delete frames -/

/-- `requestResume` up to the reply; `none` where it returns `false`. -/
def receiveReply : EStateM Abort Net (Option ResumeReply) := do
  if !(← sendAll env (.resumeRequest taskId)) then return none
  match ← recvAll env (12 + 16) with
  | none => return none
  | some replyBuffer =>
    let (parsed, reply) := parseResumeReply replyBuffer ⟨0, 0⟩
    return if parsed then some reply else none

/-- `requestResume` once the reply is accepted. -/
def prune (reply : ResumeReply) (allocates : List Char → Nat → Bool := fun _ _ => true) :
    Procedure Unit := do
  modify fun session =>
    { session with highestDurableFrameSeq := reply.highestDurableFrameSeq }.record
      (.resumed session.net.connection reply)
  (← loadPendingFrames allocates).forM fun frame => do
    if frame.frameId ≤ (← get).highestDurableFrameSeq then removeFrame env frame.frameId

/-- `sendFrame` up to its direct send; `true` where that is reached. -/
def prepare (frame : RawFrame) : Procedure Bool := do
  if !(← persist env frame) then return false
  if !(← onNet isConnected) then reconnectAndResume env taskId else return true

/-- The direct send of `sendFrame` up to the removal; `true` where that is reached. -/
def transmit (frame : RawFrame) : Procedure Bool := do
  if !(← onNet (RawFrameSender.sendFrame env fragmentSize frame)) then
    onNet closeConnection
    setState .failed
    return false
  onNet (systemCall env)
  return true

section Rules

variable {Q : Bool → Session → Prop} {E : Abort → Session → Prop} {session : Session}
  {frame : RawFrame}

theorem wp_direct : wp (do
      if !(← onNet (RawFrameSender.sendFrame env fragmentSize frame)) then
        onNet closeConnection
        setState .failed
        return false
      removeFrame env frame.frameId
      return true) Q E session ↔
    wp (transmit env frame) (fun sent last =>
      if sent then Q true { last with spool := last.spool.removeFrame frame.frameId }
      else Q false last) E session := by
  simp only [transmit, removeFrame, wp_bind]
  refine wp_congr fun sent middle => ?_
  cases sent with
  | false =>
    simp only [Bool.not_false, if_true, wp_bind]
    exact wp_congr fun _ _ => Iff.rfl
  | true =>
    simp only [Bool.not_true, Bool.false_eq_true, if_false, wp_bind]
    exact wp_congr fun _ _ => by simp only [wp_modify, wp_pure, if_true]

theorem wp_sendFrame_iff : wp (sendFrame env taskId frame) Q E session ↔
    wp (prepare env taskId frame) (fun reached middle =>
      if reached then
        wp (transmit env frame) (fun sent last =>
          if sent then Q true { last with spool := last.spool.removeFrame frame.frameId }
          else Q false last) E middle
      else Q false middle) E session := by
  simp only [← wp_direct]
  simp only [sendFrame, prepare, wp_bind]
  refine wp_congr fun persisted middle => ?_
  cases persisted with
  | false => rfl
  | true =>
    simp only [Bool.not_true, Bool.false_eq_true, if_false, wp_bind]
    refine wp_congr fun connected middle => ?_
    cases connected with
    | true => simp only [Bool.not_true, Bool.false_eq_true, if_false, wp_pure, if_true, wp_bind]
    | false =>
      simp only [Bool.not_false, if_true, wp_bind]
      refine wp_congr fun resumed middle => ?_
      cases resumed <;>
        simp only [Bool.not_false, Bool.not_true, Bool.false_eq_true, if_true, if_false, wp_pure,
          wp_bind]

theorem wp_requestResume_iff {allocates : List Char → Nat → Bool} :
    wp (requestResume env taskId allocates) Q E session ↔
    wp (onNet (receiveReply env taskId)) (fun reply middle =>
      match reply with
      | none => Q false middle
      | some reply => wp (prune env reply allocates) (fun _ last => Q true last) E middle)
      E session := by
  simp only [requestResume, receiveReply, prune, wp_bind, onNet, wp_zoom]
  refine wp_congr fun sent middle => ?_
  cases sent with
  | false => rfl
  | true =>
    simp only [Bool.not_true, Bool.false_eq_true, if_false, wp_bind, wp_zoom]
    refine wp_congr fun replyBuffer middle => ?_
    cases replyBuffer with
    | none => rfl
    | some replyBuffer =>
      simp only
      generalize parseResumeReply replyBuffer ⟨0, 0⟩ = outcome
      obtain ⟨_ | _, reply⟩ := outcome
      · rfl
      · simp only [Bool.not_true, Bool.false_eq_true, if_false, if_true, wp_bind, wp_pure,
          wp_modify]
        refine wp_congr fun frames middle => ?_
        rw [wp_bind]
        exact wp_congr fun _ _ => Iff.rfl

end Rules

end ResumeSession

end PictureReconstruct
