import PictureReconstruct.Library.Ghost
import PictureReconstruct.Network.SingleTransmission

/-! # No frame overtakes another on a connection

The procedures of `ResumeSession` are watched: whenever a frame is handed to `frameSender_` while
connected, the spool and the history at that moment are noted.

* `Transmission.Orderly`: the older frames that are in the spool went out on the connection before.
* `watched_run`: without the notes, a watched run is the run.
* `no_overtaking`: every run over a spool that only `persist` writes to, whatever fails except a
  write to the disk.
-/

namespace PictureReconstruct

open Library.Procedure Library.Runs Library.Ghost ProtocolV2 TcpClient SenderSpool Session

/-- A frame that is about to be sent on a connection, with the spool and the history at that
    moment. -/
structure Transmission where
  frame : RawFrame
  connection : Nat
  files : Directory
  history : List Event

/-- Every frame of the spool with a smaller id has been sent in full on the same connection. -/
def Transmission.Orderly (transmission : Transmission) : Prop :=
  ∀ older ∈ pending transmission.files, older.frameId < transmission.frame.frameId →
    .frameSent transmission.connection older ∈ transmission.history

abbrev WatchedSession := Watched Session (List Transmission)

/-- The calls that drive a session, and a restart of its process. -/
inductive Drive
  | start
  | reconnectAndResume
  | sendFrame (frame : RawFrame)
  | restart
deriving DecidableEq

def Drive.call : Drive → Call
  | start => .start
  | reconnectAndResume => .reconnectAndResume
  | sendFrame frame => .sendFrame frame
  | restart => .restart

namespace ResumeSession

/-! ## The watched procedures -/

variable (env : Environment) (taskId : UInt64)

/-- The transmission that begins if `frame` is handed to `frameSender_` now. -/
def transmission (frame : RawFrame) (session : Session) : Transmission where
  frame := frame
  connection := session.net.connection
  files := session.spool.files
  history := session.net.history

/-- `frameSender_.sendFrame` -/
def watchedTransmit (frame : RawFrame) : EStateM Abort WatchedSession Bool := do
  note fun session noted =>
    if session.net.connected then noted ++ [transmission frame session] else noted
  lift (onNet (RawFrameSender.sendFrame env fragmentSize frame))

def watchedReplayPendingFrames : EStateM Abort WatchedSession Bool := do
  let frames ← lift loadPendingFrames
  if frames.isEmpty then return true
  frames.allM (watchedTransmit env)

def watchedReconnectAndResume : EStateM Abort WatchedSession Bool := do
  lift (setState .connecting)
  if !(← lift (onNet (connectToServer env))) then
    lift (setState .disconnected)
    return false
  lift (setState .handshaking)
  if !(← lift (onNet (sendAll env (.hello taskId)))) then
    lift (onNet closeConnection)
    lift (setState .failed)
    return false
  if !(← lift (requestResume env taskId)) then
    lift (onNet closeConnection)
    lift (setState .failed)
    return false
  lift (setState .recovering)
  if !(← watchedReplayPendingFrames env) then
    lift (setState .failed)
    return false
  lift (setState .ready)
  return true

def watchedSendFrame (frame : RawFrame) : EStateM Abort WatchedSession Bool := do
  if !(← lift (persist env frame)) then return false
  if !(← lift (onNet isConnected)) then
    if !(← watchedReconnectAndResume env taskId) then return false
  if !(← watchedTransmit env frame) then
    lift (onNet closeConnection)
    lift (setState .failed)
    return false
  lift (removeFrame env frame.frameId)
  return true

end ResumeSession

open ResumeSession

namespace Drive

variable (env : Environment) (taskId : UInt64)

def perform : Drive → EStateM Abort WatchedSession Bool
  | start => watchedReconnectAndResume env taskId
  | reconnectAndResume => watchedReconnectAndResume env taskId
  | sendFrame frame => watchedSendFrame env taskId frame
  | restart => do
    lift (modify Session.restart)
    return true

/-- A watched call as a step of a run. -/
def next (drive : Drive) (watched : WatchedSession) : WatchedSession :=
  match drive.perform env taskId watched with
  | .ok _ after => after
  | .error .threw after => after
  | .error .died after => { after with state := after.state.restart }

end Drive

/-! ## Without the notes -/

section Erasure

variable (env : Environment) (taskId : UInt64)

theorem watchedTransmit_erases (frame : RawFrame) :
    Erases (watchedTransmit env frame) (onNet (RawFrameSender.sendFrame env fragmentSize frame)) :=
  .note (.lift _)

theorem watchedReplayPendingFrames_erases :
    Erases (watchedReplayPendingFrames env) (replayPendingFrames env) := by
  unfold watchedReplayPendingFrames replayPendingFrames
  apply Erases.bind (.lift _)
  intro frames
  exact .ite (.pure true) (.allM (watchedTransmit_erases env) frames)

theorem watchedReconnectAndResume_erases :
    Erases (watchedReconnectAndResume env taskId) (reconnectAndResume env taskId) := by
  have failing : Erases
      (do
        lift (onNet closeConnection)
        lift (setState .failed)
        return false : EStateM Abort WatchedSession Bool)
      (do
        onNet closeConnection
        setState .failed
        return false) :=
    .bind (.lift _) fun _ => .bind (.lift _) fun _ => .pure false
  unfold watchedReconnectAndResume reconnectAndResume
  refine .bind (.lift _) fun _ => .bind (.lift _) fun connected => .ite ?_ ?_
  · exact .bind (.lift _) fun _ => .pure false
  refine .bind (.lift _) fun _ => .bind (.lift _) fun greeted => .ite (failing) ?_
  refine .bind (.lift _) fun resumed => .ite (failing) ?_
  refine .bind (.lift _) fun _ => .bind (watchedReplayPendingFrames_erases env) fun replayed =>
    .ite ?_ ?_
  · exact .bind (.lift _) fun _ => .pure false
  · exact .bind (.lift _) fun _ => .pure true

theorem watchedSendFrame_erases (frame : RawFrame) :
    Erases (watchedSendFrame env taskId frame) (ResumeSession.sendFrame env taskId frame) := by
  have direct : Erases
      (do
        if !(← watchedTransmit env frame) then
          lift (onNet closeConnection)
          lift (setState .failed)
          return false
        lift (removeFrame env frame.frameId)
        return true)
      (do
        if !(← onNet (RawFrameSender.sendFrame env fragmentSize frame)) then
          onNet closeConnection
          setState .failed
          return false
        removeFrame env frame.frameId
        return true) := by
    refine .bind (watchedTransmit_erases env frame) fun sent => .ite ?_ ?_
    · exact .bind (.lift _) fun _ => .bind (.lift _) fun _ => .pure false
    · exact .bind (.lift _) fun _ => .pure true
  unfold watchedSendFrame ResumeSession.sendFrame
  refine .bind (.lift _) fun persisted => .ite (.pure false) ?_
  refine .bind (.lift _) fun connected => .ite ?_ direct
  exact .bind (watchedReconnectAndResume_erases env taskId) fun resumed =>
    .ite (.pure false) direct

/-- Without its notes, a watched step is the call. -/
theorem Drive.next_state (drive : Drive) (watched : WatchedSession) :
    (drive.next env taskId watched).state = drive.call.next env taskId watched.state := by
  have erases : Erases (drive.perform env taskId) (drive.call.perform env taskId) := by
    cases drive with
    | start => exact watchedReconnectAndResume_erases env taskId
    | reconnectAndResume => exact watchedReconnectAndResume_erases env taskId
    | sendFrame frame => exact watchedSendFrame_erases env taskId frame
    | restart => exact .bind (.lift _) fun _ => .pure true
  have same := erases watched
  unfold Drive.next Call.next
  rw [← same]
  cases drive.perform env taskId watched with
  | ok _ after => rfl
  | error cause after => cases cause <;> rfl

/-- Without its notes, a watched run is the run. -/
theorem watched_run (drives : List Drive) (watched : WatchedSession) :
    (run (Drive.next env taskId) drives watched).state =
      run (Call.next env taskId) (drives.map Drive.call) watched.state := by
  induction drives generalizing watched with
  | nil => rfl
  | cons drive drives ih =>
    change (run (Drive.next env taskId) drives (drive.next env taskId watched)).state =
      run (Call.next env taskId) (drives.map Drive.call) (drive.call.next env taskId watched.state)
    rw [ih, Drive.next_state]

end Erasure

/-! ## What holds at every moment -/

/-- The frames went out in full on the current connection, if there is one. -/
def Net.Carries (net : Net) (frames : List RawFrame) : Prop :=
  net.connected = true → ∀ frame ∈ frames, .frameSent net.connection frame ∈ net.history

/-- The ids of the frames whose transmission on `connection` was noted, in order. -/
def begun (connection : Nat) (noted : List Transmission) : List UInt64 :=
  (noted.filter fun transmission => transmission.connection = connection).map fun transmission =>
    transmission.frame.frameId

/-- What holds even in the middle of a call. -/
structure InOrder (watched : WatchedSession) : Prop where
  owned : Owned watched.state.spool.files
  orderly : ∀ transmission ∈ watched.ghost, transmission.Orderly
  /-- no header went out without a note -/
  noted : ∀ c, (headersOn c watched.state.net.history).Sublist (begun c watched.ghost)

/-- Between the calls, the current connection has carried the whole spool. -/
structure CaughtUp (watched : WatchedSession) : Prop extends InOrder watched where
  carried : watched.state.net.Carries (pending watched.state.spool.files)

/-- What holds when a procedure does not return. -/
def Cut (cause : Abort) (watched : WatchedSession) : Prop := cause = .died ∧ InOrder watched

section Steps

variable {env : Environment} {taskId : UInt64} {net after : Net} {ids : List UInt64}
  {frames : List RawFrame} {watched : WatchedSession} {frame : RawFrame}

theorem Net.Carries.down (down : net.connected = false) : net.Carries frames :=
  fun up => absurd up (by simp [down])

theorem Net.Carries.progress (carries : net.Carries frames) (progress : Progress ids net after) :
    after.Carries frames := by
  intro up frame member
  rw [progress.connection]
  exact progress.mem (carries (progress.connected up) frame member)

/-- A session without a new header on the wire. -/
theorem InOrder.silent (inOrder : InOrder watched) {session : Session}
    (owned : Owned session.spool.files)
    (same : ∀ c, headersOn c session.net.history = headersOn c watched.state.net.history) :
    InOrder { watched with state := session } where
  owned := owned
  orderly := inOrder.orderly
  noted c := same c ▸ inOrder.noted c

/-! ## One transmission -/

/-- A frame with everything older in the spool already on the connection. -/
theorem watchedTransmit_inOrder (inOrder : InOrder watched)
    (older : watched.state.net.connected = true → (transmission frame watched.state).Orderly) :
    wp (watchedTransmit env frame)
      (fun sent after => InOrder after ∧ after.state.spool = watched.state.spool ∧
        Progress [frame.frameId] watched.state.net after.state.net ∧
        (sent = true → .frameSent after.state.net.connection frame ∈ after.state.net.history) ∧
        (sent = false → frame.empty = true ∨ after.state.net.connected = false))
      Cut watched := by
  -- what is noted when the connection is up, and the headers that go out then
  have sending : ∀ after, watched.state.net.connected = true →
      Progress [frame.frameId] watched.state.net after →
      InOrder ⟨{ watched.state with net := after },
        watched.ghost ++ [transmission frame watched.state]⟩ := by
    intro after up progress
    refine ⟨inOrder.owned, fun noted member => ?_, fun c => ?_⟩
    · cases List.mem_append.mp member with
      | inl old => exact inOrder.orderly noted old
      | inr new => exact List.mem_singleton.mp new ▸ older up
    · obtain ⟨added, grown, _, headers, others⟩ := progress.history
      rw [grown, headersOn_append, begun, List.filter_append, List.map_append]
      apply (inOrder.noted c).append
      by_cases current : c = watched.state.net.connection
      · simpa [transmission, current] using headers
      · simp [others c current]
  simp only [watchedTransmit, wp_bind, wp_note, wp_lift, onNet, wp_zoom]
  have recorded := @RawFrameSender.wp_sendFrame_recorded env fragmentSize frame watched.state.net
  by_cases up : watched.state.net.connected = true
  · simp only [up, if_true]
    refine (recorded.and (RawFrameSender.wp_sendFrame
      (Q := fun sent after => Progress [frame.frameId] watched.state.net after ∧
        (sent = false → frame.empty = true ∨ after.connected = false))
      (E := fun _ after => Progress [frame.frameId] watched.state.net after)
      (fun skipped => ⟨(Progress.refl _).mono (List.nil_sublist _), fun _ => skipped⟩)
      (fun _ _ _ progress => progress) (fun _ _ _ progress down => ⟨progress, fun _ => .inr down⟩)
      (fun _ _ _ progress _ => ⟨progress, fun absurd => Bool.noConfusion absurd⟩))).mono ?_ ?_
    · intro sent after ended
      obtain ⟨recorded, progress, failed⟩ := ended
      exact ⟨sending after up progress, trivial, progress, recorded, failed⟩
    · intro cause after ended
      exact ⟨ended.1, sending after up ended.2⟩
  · simp only [up, Bool.false_eq_true, if_false]
    refine RawFrameSender.wp_sendFrame (fun _ => ?_) (fun _ _ live => absurd live up)
      (fun _ _ live => absurd live up) (fun _ _ live => absurd live up)
    refine ⟨inOrder, trivial, (Progress.refl _).mono (List.nil_sublist _), ?_, fun _ => ?_⟩
    · exact fun absurd => Bool.noConfusion absurd
    · exact .inr (Bool.not_eq_true _ ▸ up)

/-! ## The procedures -/

/-- The frames go out in ascending order. -/
theorem watchedReplayPendingFrames_inOrder (inOrder : InOrder watched) :
    wp (watchedReplayPendingFrames env) (fun _ => CaughtUp) Cut watched := by
  simp only [watchedReplayPendingFrames, wp_bind, wp_lift]
  refine wp_loadPendingFrames (fun threw => absurd inOrder.owned.loads threw) fun _ => ?_
  simp only [wp_ite, wp_pure]
  refine ⟨fun isEmpty => ⟨inOrder, fun _ => ?_⟩, fun _ => ?_⟩
  · simp [List.isEmpty_iff.mp isEmpty]
  -- the invariant: the connection, if it is still there, carries the frames so far
  refine wp_allM
    (fun remaining after => ∃ earlier, pending watched.state.spool.files = earlier ++ remaining ∧
      InOrder after ∧ after.state.spool = watched.state.spool ∧ after.state.net.Carries earlier)
    ?_ ?_ _ _ ⟨[], rfl, inOrder, rfl, fun _ => by simp⟩
  · intro after loop
    obtain ⟨earlier, whole, inOrder, same, carries⟩ := loop
    rw [List.append_nil] at whole
    exact ⟨inOrder, by rw [same, whole]; exact carries⟩
  · intro frame remaining after loop
    obtain ⟨earlier, whole, inOrder, same, carries⟩ := loop
    have ascending := inOrder.owned.ascending
    rw [same, whole] at ascending
    have orderly : after.state.net.connected = true →
        (transmission frame after.state).Orderly := by
      intro up older member less
      simp only [transmission, same, whole, List.mem_append, List.mem_cons] at member less
      obtain before | rfl | later := member
      · exact carries up older before
      · exact absurd less (UInt64.lt_irrefl _)
      · -- a frame that comes later is not older
        have behind := (List.pairwise_append.mp ascending).2.1
        have greater := (List.pairwise_cons.mp behind).1 older later
        exact absurd less (UInt64.lt_asymm greater)
    refine (watchedTransmit_inOrder inOrder orderly).post (fun sent last ended => ?_)
    obtain ⟨inOrder', same', progress, recorded, failed⟩ := ended
    cases sent with
    | false =>
      have filled : frame.empty = false :=
        (inOrder.owned.pending (by rw [same, whole]; simp)).1
      have down : last.state.net.connected = false :=
        (failed rfl).resolve_left (by simp [filled])
      exact ⟨inOrder', .down down⟩
    | true =>
      refine ⟨earlier ++ [frame], by simp [whole], inOrder', same'.trans same, ?_⟩
      intro up older member
      cases List.mem_append.mp member with
      | inl old => exact carries.progress progress up older old
      | inr new => exact List.mem_singleton.mp new ▸ recorded rfl

theorem requestResume_dies {session : Session} (loads : Loads session.spool.files) :
    wp (requestResume env taskId) (fun _ _ => True) (fun cause _ => cause = .died) session := by
  rw [wp_requestResume_iff]
  simp only [onNet, wp_zoom]
  refine wp_receiveReply env taskId (fun _ _ _ => rfl) (fun _ _ => trivial)
    (fun before bytes reply _ _ _ _ => ?_)
  exact wp_prune env (fun threw => absurd loads threw) (fun _ _ _ _ _ _ => rfl)
    (fun _ _ _ _ => trivial)

theorem requestResume_inOrder (inOrder : InOrder watched) :
    wp (lift (requestResume env taskId)) (fun _ => InOrder) Cut watched := by
  rw [wp_lift]
  have resumed : ∀ {done : Bool} {session : Session},
      Resumes env watched.state.spool watched.state.net done session.spool session.net →
      InOrder { watched with state := session } := fun resumes =>
    inOrder.silent (Resumes.owned resumes inOrder.owned) (Resumes.quiet resumes).headers
  exact ((wp_requestResume env taskId).and (requestResume_dies inOrder.owned.loads)).mono
    (fun _ _ ended => resumed ended.1) (fun _ _ ended => ⟨ended.2, resumed ended.1⟩)

theorem connectToServer_inOrder (inOrder : InOrder watched) :
    wp (lift (onNet (connectToServer env)))
      (fun up after => InOrder after ∧ (up = false → after.state.net.connected = false)) Cut
      watched := by
  have ticked : ∀ {after}, Ticks watched.state.net after →
      InOrder ⟨{ watched.state with net := after }, watched.ghost⟩ := fun ticks =>
    inOrder.silent inOrder.owned (Progress.of_ticks ticks).quiet.headers
  simp only [wp_lift, onNet, wp_zoom]
  refine wp_connectToServer env (fun _ => ⟨inOrder, fun absurd => Bool.noConfusion absurd⟩)
    (fun _ _ ticks _ => ⟨rfl, ticked ticks⟩)
    (fun _ down ticks _ => ⟨ticked ticks, fun _ => ticks.connected.trans down⟩)
    (fun after _ ticks _ => ⟨?_, fun absurd => Bool.noConfusion absurd⟩)
  refine (ticked ticks).silent inOrder.owned fun c => ?_
  simp [Net.record, headersOn, Event.headerOn]

theorem hello_inOrder (inOrder : InOrder watched) :
    wp (lift (onNet (sendAll env (.hello taskId)))) (fun _ => InOrder) Cut watched := by
  have greeted : ∀ {after}, Progress [] watched.state.net after →
      InOrder ⟨{ watched.state with net := after }, watched.ghost⟩ := fun progress =>
    inOrder.silent inOrder.owned progress.quiet.headers
  simp only [wp_lift, onNet, wp_zoom]
  exact ((RawFrameSender.wp_sendAll_silent (.hello taskId) trivial).and
    (RawFrameSender.wp_sendAll_dies _)).mono (fun _ _ ended => greeted ended.1.1)
    (fun _ _ ended => ⟨ended.2, greeted ended.1⟩)

theorem wp_setState {state : SessionState} {Q : Unit → WatchedSession → Prop}
    {E : Abort → WatchedSession → Prop} : wp (lift (setState state)) Q E watched ↔
      Q () { watched with state := { watched.state with state } } := Iff.rfl

theorem wp_isConnected {Q : Bool → WatchedSession → Prop} {E : Abort → WatchedSession → Prop} :
    wp (lift (onNet isConnected)) Q E watched ↔ Q watched.state.net.connected watched := Iff.rfl

/-- The state of the session is of no concern. -/
theorem InOrder.setState (inOrder : InOrder watched) (state : SessionState) :
    InOrder { watched with state := { watched.state with state } } :=
  inOrder.silent inOrder.owned fun _ => rfl

theorem CaughtUp.setState (caughtUp : CaughtUp watched) (state : SessionState) :
    CaughtUp { watched with state := { watched.state with state } } :=
  ⟨caughtUp.toInOrder.setState state, caughtUp.carried⟩

/-- A connection that is closed has nothing to catch up with. -/
theorem InOrder.close (inOrder : InOrder watched) (state : SessionState) :
    CaughtUp { watched with state := { watched.state with
      state, net := { watched.state.net with connected := false } } } :=
  ⟨inOrder.silent inOrder.owned fun _ => rfl, .down rfl⟩

/-- However a reconnect ends, a connection that is left has carried the spool. -/
theorem watchedReconnectAndResume_inOrder (inOrder : InOrder watched) :
    wp (watchedReconnectAndResume env taskId) (fun _ => CaughtUp) Cut watched := by
  simp only [watchedReconnectAndResume, wp_bind, wp_setState]
  refine (connectToServer_inOrder (inOrder.setState .connecting)).post
    (fun up connected ended => ?_)
  cases up with
  | false => exact CaughtUp.setState ⟨ended.1, .down (ended.2 rfl)⟩ .disconnected
  | true =>
    simp only [Bool.not_true, Bool.false_eq_true, if_false, wp_bind, wp_setState]
    refine (hello_inOrder (ended.1.setState .handshaking)).post (fun sent greeted inOrder => ?_)
    cases sent with
    | false => exact inOrder.close .failed
    | true =>
      simp only [Bool.not_true, Bool.false_eq_true, if_false, wp_bind]
      refine (requestResume_inOrder inOrder).post (fun resumed answered inOrder => ?_)
      cases resumed with
      | false => exact inOrder.close .failed
      | true =>
        simp only [Bool.not_true, Bool.false_eq_true, if_false, wp_bind, wp_setState]
        refine (watchedReplayPendingFrames_inOrder (inOrder.setState .recovering)).post
          (fun replayed after caughtUp => ?_)
        cases replayed with
        | false => exact caughtUp.setState .failed
        | true => exact caughtUp.setState .ready

/-! ## `sendFrame` -/

/-- The connection has carried the spool except for the frame to be sent. -/
structure Behind (frame : RawFrame) (watched : WatchedSession) : Prop extends InOrder watched where
  carried : watched.state.net.Carries
    ((pending watched.state.spool.files).filter fun other => other ≠ frame)

theorem CaughtUp.behind (caughtUp : CaughtUp watched) (frame : RawFrame) : Behind frame watched :=
  ⟨caughtUp.toInOrder, fun up other member =>
    caughtUp.carried up other (List.mem_filter.mp member).1⟩

theorem persist_behind (intact : ∀ net written, env.disk net ≠ .write written)
    (caughtUp : CaughtUp watched) :
    wp (lift (persist env frame))
      (fun persisted after => if persisted then Behind frame after else CaughtUp after) Cut
      watched := by
  have ticks : Progress [] watched.state.net (watched.state.net.tick env) :=
    .of_ticks (Ticks.tick env watched.state.net)
  have inOrder : InOrder { watched with state := ticked env watched.state } :=
    caughtUp.silent caughtUp.owned ticks.quiet.headers
  rw [wp_lift]
  refine wp_persist env (fun _ => ⟨rfl, inOrder⟩)
    (fun _ => ⟨inOrder, caughtUp.carried.progress ticks⟩)
    (fun written _ fault => absurd fault (intact _ written))
    (fun written filled _ => ⟨rfl, inOrder.silent (caughtUp.owned.landed filled _) fun _ => rfl⟩)
    (fun filled _ _ => ?_)
  refine ⟨inOrder.silent (caughtUp.owned.landed filled _) fun c => ?_, fun up other member => ?_⟩
  · simp [record, ticked, Net.record, headersOn, Event.headerOn]
  · -- all that is new in the spool is the frame itself
    obtain ⟨inSpool, differs⟩ := List.mem_filter.mp member
    have old : other ∈ pending watched.state.spool.files :=
      (pending_of_landed filled inSpool).resolve_left (of_decide_eq_true differs)
    exact List.mem_append_left _ (caughtUp.carried.progress ticks up other old)

/-- The direct send, behind which the whole spool has gone out. -/
theorem direct_caughtUp (behind : Behind frame watched) :
    wp (do
      if !(← watchedTransmit env frame) then
        lift (onNet closeConnection)
        lift (setState .failed)
        return false
      lift (removeFrame env frame.frameId)
      return true) (fun _ => CaughtUp) Cut watched := by
  have orderly : watched.state.net.connected = true →
      (transmission frame watched.state).Orderly := by
    intro up older member less
    have other : older ≠ frame := fun same => absurd less (same ▸ UInt64.lt_irrefl _)
    exact behind.carried up older (List.mem_filter.mpr ⟨member, decide_eq_true other⟩)
  rw [wp_bind]
  refine (watchedTransmit_inOrder behind.toInOrder orderly).post (fun sent after ended => ?_)
  obtain ⟨inOrder, same, progress, recorded, _⟩ := ended
  cases sent with
  | false => exact inOrder.close .failed
  | true =>
    simp only [Bool.not_true, Bool.false_eq_true, if_false, wp_bind, wp_pure, wp_lift,
      ResumeSession.removeFrame, onNet, wp_zoom, wp_systemCall_iff, wp_modify]
    have ticks : Progress [] after.state.net (after.state.net.tick env) :=
      .of_ticks (Ticks.tick env after.state.net)
    refine ⟨fun _ => ⟨rfl, inOrder.silent inOrder.owned ticks.quiet.headers⟩, fun _ => ?_⟩
    refine ⟨inOrder.silent (inOrder.owned.removeAll [frame.frameId]) ticks.quiet.headers,
      fun up older member => ?_⟩
    have inSpool : older ∈ pending watched.state.spool.files := by
      rw [← same]
      exact @pending_of_removeAll after.state.spool [frame.frameId] older member
    by_cases sent : older = frame
    · exact ticks.mem (sent ▸ recorded rfl)
    · exact (behind.carried.progress progress).progress ticks up older
        (List.mem_filter.mpr ⟨inSpool, decide_eq_true sent⟩)

theorem watchedSendFrame_caughtUp (intact : ∀ net written, env.disk net ≠ .write written)
    (caughtUp : CaughtUp watched) :
    wp (watchedSendFrame env taskId frame) (fun _ => CaughtUp) Cut watched := by
  simp only [watchedSendFrame]
  rw [wp_bind]
  refine (persist_behind intact caughtUp).post (fun persisted middle ended => ?_)
  cases persisted with
  | false => exact ended
  | true =>
    simp only [Bool.not_true, Bool.false_eq_true, if_false]
    rw [wp_bind, wp_isConnected]
    cases middle.state.net.connected with
    | true => exact direct_caughtUp ended
    | false =>
      simp only [Bool.not_false, if_true]
      rw [wp_bind]
      refine (watchedReconnectAndResume_inOrder ended.toInOrder).post
        (fun resumed after caughtUp => ?_)
      cases resumed with
      | false => exact caughtUp
      | true => exact direct_caughtUp (caughtUp.behind frame)

/-- One call, or a restart. -/
theorem Drive.next_caughtUp (intact : ∀ net written, env.disk net ≠ .write written)
    (drive : Drive) (caughtUp : CaughtUp watched) : CaughtUp (drive.next env taskId watched) := by
  have restarting : ∀ {after : WatchedSession}, InOrder after →
      CaughtUp { after with state := after.state.restart } := fun inOrder =>
    ⟨inOrder.silent inOrder.owned fun _ => rfl, .down rfl⟩
  have ends : wp (drive.perform env taskId) (fun _ => CaughtUp) Cut watched := by
    cases drive with
    | start => exact watchedReconnectAndResume_inOrder caughtUp.toInOrder
    | reconnectAndResume => exact watchedReconnectAndResume_inOrder caughtUp.toInOrder
    | sendFrame frame => exact watchedSendFrame_caughtUp intact caughtUp
    | restart => exact restarting caughtUp.toInOrder
  unfold Drive.next
  cases run : drive.perform env taskId watched with
  | ok _ after => exact ends.ok run
  | error cause after =>
    obtain ⟨died, inOrder⟩ := ends.error run
    subst died
    exact restarting inOrder

end Steps

/-- A watched run from a new session over a spool directory. -/
def watchedRun (env : Environment) (taskId : UInt64) (files : Directory) (drives : List Drive) :
    WatchedSession :=
  run (Drive.next env taskId) drives ⟨construct files {}, []⟩

/-- In every run over a spool that only `persist` writes to and whose writes do not fail: the
    watched run is the run, every header that goes out belongs to a transmission that was noted, and
    every transmission finds the older frames of the spool sent in full on its connection. -/
theorem no_overtaking (env : Environment) (taskId : UInt64)
    (intact : ∀ net written, env.disk net ≠ .write written) (files : Directory)
    (owned : Owned files) (drives : List Drive) :
    (watchedRun env taskId files drives).state =
        run (Call.next env taskId) (drives.map Drive.call) (construct files {}) ∧
      (∀ connection, (headersOn connection
        (watchedRun env taskId files drives).state.net.history).Sublist
          (begun connection (watchedRun env taskId files drives).ghost)) ∧
      ∀ transmission ∈ (watchedRun env taskId files drives).ghost, transmission.Orderly := by
  have start : CaughtUp ⟨construct files {}, []⟩ :=
    ⟨⟨owned, fun _ absurd => by simp at absurd, fun _ => List.Sublist.refl _⟩, .down rfl⟩
  have caughtUp : CaughtUp (watchedRun env taskId files drives) :=
    run_keeps (fun drive _ caughtUp => drive.next_caughtUp intact caughtUp) drives _ start
  exact ⟨watched_run env taskId drives _, caughtUp.noted, caughtUp.orderly⟩

/-- A spool with frame 3 from an earlier process: frame 7 goes out behind it, once in the replay
    and once more on its own. -/
theorem no_overtaking_replayed :
    ((watchedRun (.serving (fun _ => some ⟨1, 0⟩) fun _ => []) 1
        ((openRoot ∅).landed (pixel 3 1) 41).files [.sendFrame (pixel 7 2)]).ghost.map
          fun transmission => transmission.frame.frameId) = [3, 7, 7] ∧
      ∀ transmission ∈ (watchedRun (.serving (fun _ => some ⟨1, 0⟩) fun _ => []) 1
        ((openRoot ∅).landed (pixel 3 1) 41).files [.sendFrame (pixel 7 2)]).ghost,
          transmission.Orderly :=
  ⟨by decide +kernel, (no_overtaking _ 1 (fun _ _ => DiskFault.noConfusion) _
    (Owned.empty.landed (by decide) 41) _).2.2⟩

end PictureReconstruct
