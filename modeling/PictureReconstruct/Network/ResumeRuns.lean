import PictureReconstruct.Library.Runs
import PictureReconstruct.Network.ResumeRules

/-! # Runs of a `ResumeSession`

* `Call.next`: a call, or a restart of the process, as a step of a run.
* `run_owned`: a spool that starts with its own files finds no others in any run.
* `Environment.serving`: a peer that never fails.
-/

namespace PictureReconstruct

open Library.Procedure Library.Runs ProtocolV2 TcpClient SenderSpool ResumeSession

/-! ## Runs -/

namespace Session

/-- A new `ResumeSession` over a spool directory. -/
def construct (files : Directory) (net : Net) : Session where
  spool := openRoot files
  net := net

/-- The process ends, and its connection with it; a new one constructs its session over the same
    directory. -/
def restart (session : Session) : Session :=
  construct session.spool.files { session.net with connected := false }

end Session

inductive Call
  | start
  | sendFrame (frame : RawFrame)
  | reconnectAndResume
  | requestResume
  | replayPendingFrames
  | setMaxSpoolBytes (maxBytes : UInt64)
  | restart
deriving DecidableEq

namespace Call

variable (env : Environment) (taskId : UInt64)

def perform : Call → Procedure Bool
  | start => ResumeSession.start env taskId
  | sendFrame frame => ResumeSession.sendFrame env taskId frame
  | reconnectAndResume => ResumeSession.reconnectAndResume env taskId
  | requestResume => ResumeSession.requestResume env taskId
  | replayPendingFrames => ResumeSession.replayPendingFrames env
  | setMaxSpoolBytes maxBytes => do
    modify fun session => { session with spool := session.spool.setMaxSpoolBytes maxBytes }
    return true
  | restart => do
    modify Session.restart
    return true

/-- A call as a step of a run: a process that was killed is started again, an exception is
    caught by the caller. -/
def next (call : Call) (session : Session) : Session :=
  match call.perform env taskId session with
  | .ok _ after => after
  | .error .threw after => after
  | .error .died after => after.restart

variable {env taskId}

/-- A call keeps an invariant when it holds at a normal end and after an exception, and a restart
    from where the process was killed establishes it. -/
theorem next_of_abort {call : Call} {session : Session} {I : Session → Prop}
    (ends : wp (call.perform env taskId) (fun _ => I)
      (fun cause after => (cause = .threw → I after) ∧ (cause = .died → I after.restart)) session) :
    I (call.next env taskId session) := by
  unfold next
  cases run : call.perform env taskId session with
  | ok _ after => exact ends.ok run
  | error cause after =>
    -- a process that was killed comes back over the same files
    cases cause with
    | threw => exact (ends.error run).1 rfl
    | died => exact (ends.error run).2 rfl

/-- An invariant that a restart keeps is kept by a call when it holds however the call ends. -/
theorem next_of_wp {call : Call} {session : Session} {I : Session → Prop}
    (ends : wp (call.perform env taskId) (fun _ => I) (fun _ => I) session)
    (restarts : ∀ after, I after → I after.restart) : I (call.next env taskId session) :=
  next_of_abort (ends.mono (fun _ _ inv => inv)
    fun _ after inv => ⟨fun _ => inv, fun _ => restarts after inv⟩)

end Call

/-! ## The files of the spool over a run -/

section Files

variable {env : Environment} {taskId : UInt64}

theorem ResumeSession.Resumes.owned {spool spool' : SenderSpool} {net after : Net} {done : Bool}
    (resumes : Resumes env spool net done spool' after) (owned : Owned spool.files) :
    Owned spool'.files := by
  cases resumes with
  | unanswered _ => exact owned
  | answered _ _ _ _ _ => exact owned.removeAll _

theorem ResumeSession.Reconnects.owned {spool spool' : SenderSpool} {net after : Net}
    {done : Bool} (reconnects : Reconnects env spool net done spool' after)
    (owned : Owned spool.files) : Owned spool'.files := by
  cases reconnects with
  | resuming _ resumes => exact Resumes.owned resumes owned
  | replaying _ resumes _ => exact Resumes.owned resumes owned

theorem ResumeSession.prepare_owned {session : Session} (owned : Owned session.spool.files)
    (frame : RawFrame) :
    wp (prepare env taskId frame) (fun _ after => Owned after.spool.files)
      (fun _ after => Owned after.spool.files) session := by
  have persisting : wp (persist env frame) (fun _ after => Owned after.spool.files)
      (fun _ after => Owned after.spool.files) session :=
    wp_persist env (fun _ => owned) (fun _ => owned) (fun written filled _ => owned.landed filled _)
      (fun written filled _ => owned.landed filled _) (fun filled _ _ => owned.landed filled _)
  refine wp_prepare env taskId (persisting.post (fun _ middle owned => ?_))
  exact ⟨fun _ => owned, fun _ _ => owned, fun _ _ =>
    (wp_reconnectAndResume env taskId).mono
      (fun _ _ reconnects => Reconnects.owned reconnects owned)
      (fun _ _ reconnects => Reconnects.owned reconnects owned)⟩

theorem ResumeSession.sendFrame_owned {session : Session} (owned : Owned session.spool.files)
    (frame : RawFrame) :
    wp (sendFrame env taskId frame) (fun _ after => Owned after.spool.files)
      (fun _ after => Owned after.spool.files) session := by
  rw [wp_sendFrame_iff]
  apply (prepare_owned owned frame).post
  intro reached middle owned
  cases reached with
  | false => exact owned
  | true =>
    refine (wp_transmit env).mono ?_ (fun _ _ sent => sent.1 ▸ owned)
    rintro sent last ⟨same, _⟩
    cases sent with
    | false => exact same ▸ owned
    | true =>
      have kept : Owned last.spool.files := same ▸ owned
      exact kept.removeAll [frame.frameId]

/-- Whatever happens, the spool finds only files that it wrote. -/
theorem Call.next_owned (call : Call) {session : Session} (owned : Owned session.spool.files) :
    Owned (call.next env taskId session).spool.files := by
  refine Call.next_of_wp (I := fun after => Owned after.spool.files) ?_ (fun _ owned => owned)
  have reconnecting : wp (ResumeSession.reconnectAndResume env taskId)
      (fun _ after => Owned after.spool.files) (fun _ after => Owned after.spool.files) session :=
    (wp_reconnectAndResume env taskId).mono
      (fun _ _ reconnects => Reconnects.owned reconnects owned)
      (fun _ _ reconnects => Reconnects.owned reconnects owned)
  cases call with
  | start => exact reconnecting
  | sendFrame frame => exact sendFrame_owned owned frame
  | reconnectAndResume => exact reconnecting
  | requestResume =>
    exact (wp_requestResume env taskId).mono (fun _ _ resumes => Resumes.owned resumes owned)
      (fun _ _ resumes => Resumes.owned resumes owned)
  | replayPendingFrames =>
    exact wp_replayPendingFrames env (fun _ => owned) (fun _ _ _ => owned) (fun _ _ _ => owned)
  | setMaxSpoolBytes maxBytes => exact owned
  | restart => exact owned

theorem run_owned (calls : List Call) {session : Session} (owned : Owned session.spool.files) :
    Owned (run (Call.next env taskId) calls session).spool.files :=
  run_keeps (I := fun session => Owned session.spool.files)
    (fun call _ owned => call.next_owned owned) calls session owned

end Files

/-! ## A peer without failures -/

/-- The frames that were sent in full. -/
def Net.frames (net : Net) : List RawFrame := framesSent net.history

/-- Nothing fails; a request is answered by `reply`, or not at all, and `stores` is what the
    receiver stores. -/
def Environment.serving (reply : Net → Option ResumeReply) (stores : Net → List RawFrame) :
    Environment where
  dies _ := false
  stores := stores
  connect _ := true
  send _ packet _ := packet.bytes.length
  recv net received := match reply net with
    | none => []
    | some reply =>
      (makeResumeReplyMessage reply.taskId reply.highestDurableFrameSeq).drop received
  disk _ := .none

/-- What such a peer answers. -/
theorem Environment.serving_reply {reply : Net → Option ResumeReply}
    {stores : Net → List RawFrame} {net : Net} {answer : ResumeReply}
    (parsed : parseResumeReply (recvLoop ((serving reply stores).recv net) 28 28 []) ⟨0, 0⟩ =
      (true, answer)) : reply net = some answer := by
  cases given : reply net with
  | none =>
    have silent : recvLoop ((serving reply stores).recv net) 28 28 [] = [] := by
      simp [recvLoop, serving, given]
    have refused : (parseResumeReply [] ⟨0, 0⟩).1 = false := rfl
    rw [silent] at parsed
    rw [parsed] at refused
    exact absurd refused Bool.noConfusion
  | some sent =>
    have whole : recvLoop ((serving reply stores).recv net)
        (makeResumeReplyMessage sent.taskId sent.highestDurableFrameSeq).length 28 [] =
          makeResumeReplyMessage sent.taskId sent.highestDurableFrameSeq := by
      refine recvLoop_delivers _ _ 28 [] (fun n inside => ?_) List.nil_prefix (by simp)
      have next : (serving reply stores).recv net n =
          (makeResumeReplyMessage sent.taskId sent.highestDurableFrameSeq).drop n := by
        simp [serving, given]
      rw [next]
      exact ⟨by simpa using inside, List.prefix_refl _⟩
    rw [makeResumeReplyMessage_length] at whole
    rw [whole, ← List.append_nil (makeResumeReplyMessage _ _), parseResumeReply_make] at parsed
    exact congrArg some (congrArg Prod.snd parsed)

end PictureReconstruct
