import PictureReconstruct.Network.ResumeSession

/-! # What the procedures of `ResumeSession` can do

Whatever the environment, each procedure changes the spool and the connection in one of a few
ways.  They are said once here; what holds in a run is derived from them.

* `wp_persist`, `wp_prepare`, `wp_transmit`: the three parts of `sendFrame`.
* `Resumes`, `wp_requestResume`: a reply is accepted or not, and frames it covers are removed.
* `Replays`, `wp_replayPendingFrames`: the frames of the spool are sent in order.
* `wp_reconnectAndResume_steps`, `Reconnects`, `wp_reconnectAndResume`: the steps of a reconnect.
-/

namespace PictureReconstruct

open Library.Procedure ProtocolV2 TcpClient SenderSpool Session

namespace ResumeSession

variable (env : Environment) (taskId : UInt64)

section Rules

variable {E : Abort → Session → Prop} {session : Session} {frame : RawFrame}

theorem wp_loadPendingFrames {Q : List RawFrame → Session → Prop}
    {allocates : List Char → Nat → Bool}
    (threw : ¬ Loads session.spool.files allocates → E .threw session)
    (frames : Loads session.spool.files allocates → Q (pending session.spool.files) session) :
    wp (loadPendingFrames allocates) Q E session := by
  simp only [loadPendingFrames, wp_bind, wp_get, loadPendingFrames_eq]
  by_cases loads : Loads session.spool.files allocates
  · simpa only [if_pos loads, wp_pure] using frames loads
  · simpa only [if_neg loads, wp_throw] using threw loads

/-- The session one system call later. -/
def ticked (session : Session) : Session := { session with net := session.net.tick env }

theorem wp_persist {Q : Bool → Session → Prop}
    (died : env.dies (session.net.tick env) = true → E .died (ticked env session))
    (refused : frame.empty = true ∨ session.spool.canPersist (requiredBytes frame) = false ∨
      env.disk (session.net.tick env) = .open → Q false (ticked env session))
    (cut : ∀ written, frame.empty = false → env.disk (session.net.tick env) = .write written →
      Q false { ticked env session with spool := session.spool.landed frame written })
    (killed : ∀ written, frame.empty = false → env.disk (session.net.tick env) = .kill written →
      E .died { ticked env session with spool := session.spool.landed frame written })
    (persisted : frame.empty = false → session.spool.canPersist (requiredBytes frame) = true →
      env.disk (session.net.tick env) = .none →
      Q true (record (.persisted frame) { ticked env session with
        spool := { session.spool.landed frame (spoolFile frame).length with
          bytesUsed := session.spool.bytesUsed + requiredBytes frame } })) :
    wp (persist env frame) Q E session := by
  simp only [persist, wp_bind, onNet, onSpool, wp_zoom, wp_systemCall_iff, wp_get]
  refine ⟨died, fun _ => SenderSpool.wp_persist (fun reason => ?_) (fun written filled fault => ?_)
    killed (fun filled room fault => ?_)⟩
  · simp only [Bool.false_eq_true, if_false, wp_pure]
    exact refused reason
  · simp only [Bool.false_eq_true, if_false, wp_pure]
    exact cut written filled fault
  · simp only [if_true, wp_bind, wp_pure, wp_modify]
    exact persisted filled room fault

/-- The session right after a reply was accepted. -/
def accepted (reply : ResumeReply) (session : Session) : Session :=
  { session with highestDurableFrameSeq := reply.highestDurableFrameSeq }.record
    (.resumed session.net.connection reply)

/-- The ids of the frames that a reply lets `requestResume` remove. -/
def covered (reply : ResumeReply) (files : Directory) : List UInt64 :=
  ((pending files).filter fun frame => frame.frameId ≤ reply.highestDurableFrameSeq).map
    RawFrame.frameId

theorem mem_covered {reply : ResumeReply} {files : Directory} {frameId : UInt64} :
    frameId ∈ covered reply files ↔ frameId ≤ reply.highestDurableFrameSeq ∧
      ∃ frame ∈ pending files, frame.frameId = frameId := by
  simp only [covered, List.mem_map, List.mem_filter, decide_eq_true_eq]
  constructor
  · rintro ⟨frame, ⟨member, durable⟩, rfl⟩
    exact ⟨durable, frame, member, rfl⟩
  · rintro ⟨durable, frame, member, rfl⟩
    exact ⟨frame, ⟨member, durable⟩, rfl⟩

theorem wp_prune {reply : ResumeReply} {Q : Unit → Session → Prop}
    {allocates : List Char → Nat → Bool}
    (threw : ¬ Loads session.spool.files allocates → E .threw (accepted reply session))
    (died : ∀ removed net, Loads session.spool.files allocates →
      removed <+: covered reply session.spool.files →
      Progress [] (accepted reply session).net net → env.dies net = true →
      E .died { accepted reply session with spool := session.spool.removeAll removed, net })
    (done : ∀ net, Loads session.spool.files allocates →
      Progress [] (accepted reply session).net net → net.connected = session.net.connected →
      Q () { accepted reply session with
        spool := session.spool.removeAll (covered reply session.spool.files), net }) :
    wp (prune env reply allocates) Q E session := by
  simp only [prune, wp_bind, wp_modify]
  refine wp_loadPendingFrames threw fun loads => ?_
  -- the invariant: of the frames so far, those that the reply covers are removed
  refine wp_forM
    (fun remaining s => ∃ earlier net, pending session.spool.files = earlier ++ remaining ∧
      Progress [] (accepted reply session).net net ∧ net.connected = session.net.connected ∧
      s = { accepted reply session with
        spool := session.spool.removeAll ((earlier.filter fun frame =>
          frame.frameId ≤ reply.highestDurableFrameSeq).map RawFrame.frameId), net })
    ?_ ?_ _ _ ⟨[], _, rfl, .refl _, rfl, rfl⟩
  · rintro _ ⟨earlier, net, whole, progress, connected, rfl⟩
    rw [List.append_nil] at whole
    simpa only [covered, whole] using done net loads progress connected
  · rintro frame remaining _ ⟨earlier, net, whole, progress, connected, rfl⟩
    have next : pending session.spool.files = (earlier ++ [frame]) ++ remaining := by simp [whole]
    simp only [wp_bind, wp_get, wp_ite, wp_pure]
    refine ⟨fun durable => ?_, fun fresh => ?_⟩
    · simp only [removeFrame, wp_bind, onNet, wp_zoom, wp_systemCall_iff, wp_modify]
      have ticks := progress.trans (Progress.of_ticks (Ticks.tick env net))
      refine ⟨fun dies => died _ _ loads ?_ ticks dies, fun _ => ⟨_, _, next, ticks, connected, ?_⟩⟩
      · rw [covered, whole, List.filter_append, List.map_append]
        exact List.prefix_append _ _
      · have durable' : frame.frameId ≤ reply.highestDurableFrameSeq := durable
        simp [List.filter_append, durable', removeAll_concat]
    · have fresh' : ¬ frame.frameId ≤ reply.highestDurableFrameSeq := fresh
      exact ⟨_, net, next, progress, connected, by simp [List.filter_append, fresh']⟩

/-- A reply that parses arrives on the connection of `before` and is accepted in `after`. -/
structure Answered (before after : Net) (reply : ResumeReply) : Prop where
  live : before.connected = true
  received : ∃ bytes, bytes = recvLoop (env.recv before) 28 28 [] ∧
    parseResumeReply bytes ⟨0, 0⟩ = (true, reply) ∧
    after = (before.record (.received before.connection bytes)).record
      (.resumed before.connection reply)

theorem wp_receiveReply {Q : Option ResumeReply → Net → Prop} {E : Abort → Net → Prop} {net : Net}
    (died : ∀ after, Progress [] net after → env.dies after = true → E .died after)
    (failed : ∀ after, Progress [] net after → Q none after)
    (received : ∀ before bytes reply, Progress [] net before → before.connected = true →
      bytes = recvLoop (env.recv before) 28 28 [] →
      parseResumeReply bytes ⟨0, 0⟩ = (true, reply) →
      Q (some reply) (before.record (.received before.connection bytes))) :
    wp (receiveReply env taskId) Q E net := by
  simp only [receiveReply, wp_bind]
  refine wp_sendAll env (fun _ => failed _ (.refl net))
    (fun after _ ticks dies => died _ (.of_ticks ticks) dies)
    (fun after accepted _ ticks _ _ => ?_) (fun after live ticks lives => ?_)
  · refine failed _ (((Progress.of_ticks ticks).trans ?_).close)
    rw [← ticks.connection]
    exact Progress.record after trivial fun _ => rfl
  · have requested : Progress [] net (after.record (.sent net.connection (.resumeRequest taskId)
        (Packet.resumeRequest taskId).bytes.length)) := by
      rw [← ticks.connection]
      exact (Progress.of_ticks ticks).trans (Progress.record after trivial fun _ => rfl)
    simp only [Bool.not_true, Bool.false_eq_true, if_false, wp_bind]
    refine wp_recvAll env (fun _ => failed _ requested)
      (fun before _ ticks' dies => died _ (requested.trans (.of_ticks ticks')) dies)
      (fun before bytes live' ticks' same => ?_)
    have asked := requested.trans (.of_ticks ticks')
    have answered : Progress [] net (before.record (.received before.connection bytes)) :=
      asked.trans (Progress.record before trivial fun _ => rfl)
    rw [← ticks'.connection]
    refine ⟨fun _ => failed _ (answered.close), fun _ => ?_⟩
    simp only [wp_pure]
    generalize result : parseResumeReply bytes ⟨0, 0⟩ = outcome
    -- whether the reply parses
    obtain ⟨_ | _, reply⟩ := outcome
    · exact failed _ answered
    · exact received before bytes reply asked (by rw [ticks'.connected, live']) same result

/-- What `requestResume` makes of a spool and a connection, and whether it returns `true`. -/
inductive Resumes (spool : SenderSpool) (net : Net) : Bool → SenderSpool → Net → Prop
  /-- no reply is accepted -/
  | unanswered {after} : Progress [] net after → Resumes spool net false spool after
  /-- a reply is accepted and the frames `removed` are removed, all of those that it covers unless
      the process is killed or an exception thrown -/
  | answered {before middle after reply removed done} : Progress [] net before →
    Answered env before middle reply → removed <+: covered reply spool.files →
    Progress [] middle after →
    (done = true → removed = covered reply spool.files ∧ after.connected = true ∧
      Loads spool.files) →
    Resumes spool net done (spool.removeAll removed) after

theorem wp_requestResume : wp (requestResume env taskId)
    (fun done after => Resumes env session.spool session.net done after.spool after.net)
    (fun _ after => Resumes env session.spool session.net false after.spool after.net)
    session := by
  rw [wp_requestResume_iff]
  simp only [onNet, wp_zoom]
  refine wp_receiveReply env taskId (fun _ progress _ => .unanswered progress)
    (fun _ progress => .unanswered progress) (fun before bytes reply asked live same parsed => ?_)
  have answered : Answered env before ((before.record (.received before.connection bytes)).record
      (.resumed before.connection reply)) reply := ⟨live, bytes, same, parsed, rfl⟩
  refine wp_prune env (fun _ => ?_) (fun removed net _ isPrefix progress _ => ?_)
    (fun net loads progress connected => ?_)
  · have nothing : Resumes env session.spool session.net false (session.spool.removeAll []) _ :=
      .answered asked answered List.nil_prefix (.refl _) (by simp)
    exact nothing
  · exact .answered asked answered isPrefix progress (by simp)
  · exact .answered asked answered (List.prefix_refl _) progress
      fun _ => ⟨rfl, by simpa [Net.record] using connected.trans live, loads⟩

/-- What `replayPendingFrames` makes of a connection. -/
inductive Replays (files : Directory) (net : Net) : Net → Prop
  /-- there is nothing to send, or no connection, or the spool cannot be read -/
  | unsent : Replays files net net
  | sent {after} : net.connected = true →
    Progress ((pending files).map RawFrame.frameId) net after → Replays files net after

theorem Replays.progress {files : Directory} {net after : Net}
    (replays : Replays files net after) : ∃ ids, Progress ids net after := by
  cases replays with
  | unsent => exact ⟨[], .refl net⟩
  | sent _ progress => exact ⟨_, progress⟩

theorem wp_replayPendingFrames {Q : Bool → Session → Prop}
    (threw : ¬ Loads session.spool.files → E .threw session)
    (died : ∀ e net, Replays session.spool.files session.net net → E e { session with net })
    (ended : ∀ done net, Replays session.spool.files session.net net →
      Q done { session with net }) :
    wp (replayPendingFrames env) Q E session := by
  simp only [replayPendingFrames, wp_bind]
  refine wp_loadPendingFrames threw fun _ => ?_
  rw [wp_ite]
  refine ⟨fun _ => ended true _ .unsent, fun _ => ?_⟩
  have part : ∀ {earlier remaining}, pending session.spool.files = earlier ++ remaining →
      (earlier.map RawFrame.frameId).Sublist ((pending session.spool.files).map RawFrame.frameId) :=
    fun whole => by rw [whole, List.map_append]; exact List.sublist_append_left _ _
  -- a frame that goes out needs the connection that the replay started with
  refine wp_allM
    (fun remaining s => ∃ earlier net, pending session.spool.files = earlier ++ remaining ∧
      Progress (earlier.map RawFrame.frameId) session.net net ∧
      Replays session.spool.files session.net net ∧ s = { session with net })
    ?_ ?_ _ _ ⟨[], _, rfl, .refl _, .unsent, rfl⟩
  · rintro _ ⟨earlier, net, whole, progress, replayed, rfl⟩
    exact ended true _ replayed
  · rintro frame remaining _ ⟨earlier, net, whole, progress, replayed, rfl⟩
    have next : pending session.spool.files = (earlier ++ [frame]) ++ remaining := by simp [whole]
    have sending : ∀ after, Progress [frame.frameId] net after →
        Progress ((earlier ++ [frame]).map RawFrame.frameId) session.net after := by
      intro after step
      rw [List.map_append]
      exact progress.trans step
    have sent : ∀ after, net.connected = true → Progress [frame.frameId] net after →
        Replays session.spool.files session.net after := fun after live step =>
      .sent (progress.connected live) ((sending after step).mono (part next))
    simp only [onNet, wp_zoom]
    refine RawFrameSender.wp_sendFrame (fun _ => ended false net replayed)
      (fun e after live step => died e after (sent after live step))
      (fun after _ live step _ => ended false after (sent after live step))
      (fun after _ live step _ => ⟨_, after, next, sending after step, sent after live step, rfl⟩)

/-- What `reconnectAndResume` does to a connection before it asks for a reply. -/
inductive Greets (net : Net) : Net → Prop
  /-- the connection was up, or none could be established -/
  | same {after} : Progress [] net after → Greets net after
  | established {middle after} : net.connected = false → Progress [] net middle →
    Progress [] ({ middle with connected := true, connection := net.connection + 1 }.record
      (.connected (net.connection + 1))) after → Greets net after

theorem Greets.trans {net middle after : Net} (greets : Greets net middle)
    (progress : Progress [] middle after) : Greets net after := by
  cases greets with
  | same before => exact .same (before.trans progress)
  | established idle before greeted => exact .established idle before (greeted.trans progress)

theorem Greets.mem {net after : Net} (greets : Greets net after) {event : Event}
    (old : event ∈ net.history) : event ∈ after.history := by
  cases greets with
  | same progress => exact progress.mem old
  | established _ before greeted =>
    exact greeted.mem (List.mem_append_left _ (before.mem old))

/-- A new connection and silent traffic are all that is added. -/
theorem Greets.mem_of_not_passive {net after : Net} (greets : Greets net after) {event : Event}
    (active : ¬ event.passive) (other : ∀ connection, event ≠ .connected connection)
    (member : event ∈ after.history) : event ∈ net.history := by
  cases greets with
  | same progress => exact progress.mem_of_not_passive active member
  | established _ before greeted =>
    have accepted := greeted.mem_of_not_passive active member
    cases List.mem_append.mp accepted with
    | inl old => exact before.mem_of_not_passive active old
    | inr new => exact absurd (List.mem_singleton.mp new) (other _)

/-- What `reconnectAndResume` makes of a spool and a connection, and whether it returns `true`. -/
inductive Reconnects (spool : SenderSpool) (net : Net) : Bool → SenderSpool → Net → Prop
  /-- the handshake does not succeed -/
  | resuming {greeted after spool'} : Greets net greeted →
    Resumes env spool greeted false spool' after → Reconnects spool net false spool' after
  | replaying {greeted middle after spool' done} : Greets net greeted →
    Resumes env spool greeted true spool' middle → Replays spool'.files middle after →
    Reconnects spool net done spool' after

theorem wp_connectToServer_greets {net : Net} :
    wp (connectToServer env) (fun _ after => Greets net after) (fun _ after => Greets net after)
      net := by
  refine wp_connectToServer env (fun _ => .same (.refl net))
    (fun _ _ ticks _ => .same (.of_ticks ticks)) (fun _ _ ticks _ => .same (.of_ticks ticks))
    (fun after idle ticks _ => ?_)
  exact .established idle (.of_ticks ticks) (.refl _)

/-- A failed handshake followed by `closeConnection`. -/
theorem Resumes.close {spool spool' : SenderSpool} {net after : Net}
    (resumes : Resumes env spool net false spool' after) :
    Resumes env spool net false spool' { after with connected := false } := by
  cases resumes with
  | unanswered progress => exact .unanswered (progress.close)
  | answered asked answer isPrefix progress _ =>
    exact .answered asked answer isPrefix (progress.close) (by simp)

/-- The steps of `reconnectAndResume`, with what holds between them. -/
theorem wp_reconnectAndResume_steps {Q : Bool → Session → Prop} (connected greeted : Net → Prop)
    (resumed : Session → Prop)
    (connects : wp (connectToServer env)
      (fun up net => if up then connected net
        else Q false { session with state := .disconnected, net })
      (fun cause net => E cause { session with state := .connecting, net }) session.net)
    (greets : ∀ net, connected net → wp (sendAll env (.hello taskId))
      (fun sent net => if sent then greeted net
        else Q false { session with state := .failed, net := { net with connected := false } })
      (fun cause net => E cause { session with state := .handshaking, net }) net)
    (resumes : ∀ net, greeted net → wp (requestResume env taskId)
      (fun done after => if done then resumed after
        else Q false
          { after with state := .failed, net := { after.net with connected := false } })
      E { session with state := .handshaking, net })
    (replays : ∀ after, resumed after → wp (replayPendingFrames env)
      (fun done last => Q done { last with state := if done then .ready else .failed }) E
      { after with state := .recovering }) :
    wp (reconnectAndResume env taskId) Q E session := by
  simp only [reconnectAndResume, setState, closeConnection, wp_bind, wp_modify, onNet, wp_zoom]
  apply connects.post
  intro up net connected
  cases up with
  | false => exact connected
  | true =>
    simp only [Bool.not_true, Bool.false_eq_true, if_false, wp_bind, wp_modify, wp_zoom]
    apply (greets net connected).post
    intro sent net greeted
    cases sent with
    | false => exact greeted
    | true =>
      simp only [Bool.not_true, Bool.false_eq_true, if_false, wp_bind]
      apply (resumes net greeted).post
      intro done after resumed
      cases done with
      | false => exact resumed
      | true =>
        simp only [Bool.not_true, Bool.false_eq_true, if_false, wp_bind, wp_modify]
        apply (replays after resumed).post
        intro done last ended
        cases done with
        | false => exact ended
        | true => exact ended

theorem wp_reconnectAndResume : wp (reconnectAndResume env taskId)
    (fun done after => Reconnects env session.spool session.net done after.spool after.net)
    (fun _ after => Reconnects env session.spool session.net false after.spool after.net)
    session := by
  have silent : ∀ {after}, Greets session.net after →
      Reconnects env session.spool session.net false session.spool after := fun greets =>
    .resuming greets (.unanswered (.refl _))
  apply wp_reconnectAndResume_steps env taskId (Greets session.net) (Greets session.net)
    fun after => ∃ greeted, Greets session.net greeted ∧
      Resumes env session.spool greeted true after.spool after.net
  · apply (wp_connectToServer_greets env).mono
    · intro up connected greets
      cases up with
      | false => exact silent greets
      | true => exact greets
    · exact fun _ _ greets => silent greets
  · intro connected greets
    apply (RawFrameSender.wp_sendAll_silent (.hello taskId) trivial).mono
    · rintro sent greeted ⟨hello, _⟩
      cases sent with
      | false => exact silent (greets.trans hello.close)
      | true => exact greets.trans hello
    · exact fun _ _ hello => silent (greets.trans hello)
  · intro greeted greets
    apply (wp_requestResume env taskId).mono
    · intro resumed answered resumes
      cases resumed with
      | false => exact .resuming greets resumes.close
      | true => exact ⟨greeted, greets, resumes⟩
    · exact fun _ _ resumes => .resuming greets resumes
  · rintro answered ⟨greeted, greets, resumes⟩
    have replaying : ∀ done net, Replays answered.spool.files answered.net net →
        Reconnects env session.spool session.net done answered.spool net :=
      fun _ _ replays => .replaying greets resumes replays
    apply wp_replayPendingFrames env
    · exact fun _ => replaying _ _ .unsent
    · exact fun _ net replays => replaying false net replays
    · exact fun replayed net replays => replaying replayed net replays

theorem wp_prepare {Q : Bool → Session → Prop}
    (persisting : wp (persist env frame) (fun persisted middle =>
      (persisted = false → Q false middle) ∧
      (persisted = true → middle.net.connected = true → Q true middle) ∧
      (persisted = true → middle.net.connected = false →
        wp (reconnectAndResume env taskId) Q E middle)) E session) :
    wp (prepare env taskId frame) Q E session := by
  simp only [prepare, wp_bind]
  apply persisting.post
  rintro persisted middle ⟨failed, up, down⟩
  cases persisted with
  | false => exact failed rfl
  | true =>
    simp only [Bool.not_true, Bool.false_eq_true, if_false, wp_bind, onNet, wp_zoom, isConnected,
      wp_get, wp_pure, wp_ite, Bool.not_eq_true', Bool.not_eq_false]
    exact ⟨down rfl, up rfl⟩

/-- The direct send leaves the spool alone and the connection up if it succeeds. -/
theorem wp_transmit : wp (transmit env frame)
    (fun sent after => after.spool = session.spool ∧
      Progress [frame.frameId] session.net after.net ∧ after.net.connected = sent)
    (fun _ after => after.spool = session.spool ∧
      Progress [frame.frameId] session.net after.net) session := by
  simp only [transmit, setState, closeConnection, onNet, wp_bind, wp_zoom]
  refine RawFrameSender.wp_sendFrame (fun _ => ?_) (fun _ _ _ progress => ⟨trivial, progress⟩)
    (fun after _ _ progress _ => ?_) (fun after _ _ progress live => ?_)
  · exact ⟨rfl, ((Progress.refl _).mono (List.nil_sublist _)).close, rfl⟩
  · exact ⟨rfl, progress.close, rfl⟩
  · simp only [Bool.not_true, Bool.false_eq_true, if_false, wp_bind, wp_zoom, wp_systemCall_iff,
      wp_pure]
    have ticked : Progress [frame.frameId] session.net (after.tick env) := by
      simpa using progress.trans (.of_ticks (Ticks.tick env after))
    exact ⟨fun _ => ⟨trivial, ticked⟩, fun _ => ⟨trivial, ticked, live⟩⟩

end Rules

end ResumeSession

end PictureReconstruct
