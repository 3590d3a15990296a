import PictureReconstruct.Network.ResumeRuns

/-! # When a durable frame is not sent again

A reply tells the session up to which id the receiver has the frames.  The replay works on the
spool that this reply has pruned, but `sendFrame` sends its frame whatever the reply says.

* `Respects`: no header of a frame that a reply has declared durable follows the reply.
* `Undeclared`: what a call of `sendFrame` has to meet.
* `declared_not_sent`: in a run of such calls the history respects all replies.
* `retried_frame_sent_again`: the retry after a lost acknowledgement does not meet it.
-/

namespace PictureReconstruct

open Library.Procedure Library.Runs ProtocolV2 TcpClient SenderSpool ResumeSession Session

/-- What an accepted reply for the session's own task declares durable on `connection`. -/
def Event.declares (taskId : UInt64) (connection : Nat) : Event → Option UInt64
  | .resumed c reply =>
    if c = connection ∧ reply.taskId = taskId then some reply.highestDurableFrameSeq else none
  | _ => none

/-- The values of all own replies on `connection`. -/
def declared (taskId : UInt64) (connection : Nat) (history : List Event) : List UInt64 :=
  history.filterMap (Event.declares taskId connection)

/-- After an own reply no frame that it covers is sent on the connection of the reply. -/
def Respects (taskId : UInt64) (history : List Event) : Prop :=
  history.Pairwise fun earlier later => ∀ connection durable frameId,
    earlier.declares taskId connection = some durable →
    later.headerOn connection = some frameId → durable < frameId

/-- No own reply on the current connection covers `frameId`. -/
def Above (taskId : UInt64) (net : Net) (frameId : UInt64) : Prop :=
  ∀ durable ∈ declared taskId net.connection net.history, durable < frameId

instance (taskId : UInt64) (net : Net) (frameId : UInt64) : Decidable (Above taskId net frameId) :=
  List.decidableBAll (fun durable => durable < frameId) _

/-- What has to be met before `sendFrame` is called with `frame`: on a connected session, no own
    reply on the connection covers the frame that comes into the spool; on another one, none on
    the new connection covers it when the direct send is reached. -/
structure UndeclaredSend (env : Environment) (taskId : UInt64) (frame : RawFrame)
    (session : Session) : Prop where
  up : session.net.connected = true → wp (persist env frame)
    (fun _ middle => frame ∈ pending middle.spool.files → Above taskId middle.net frame.frameId)
    (fun _ _ => True) session
  down : session.net.connected = false → wp (prepare env taskId frame)
    (fun reached middle => reached = true → Above taskId middle.net frame.frameId)
    (fun _ _ => True) session

def Undeclared (env : Environment) (taskId : UInt64) (call : Call) (session : Session) : Prop :=
  ∀ frame, call = .sendFrame frame → UndeclaredSend env taskId frame session

/-- What holds at any moment. -/
structure Durable (taskId : UInt64) (files : Directory) (net : Net) : Prop where
  filed : Filed files
  respects : Respects taskId net.history
  future : ∀ c, net.connection < c → declared taskId c net.history = []

/-- What holds between calls: the spool of a connected session holds no frame that is covered. -/
structure Pruned (taskId : UInt64) (files : Directory) (net : Net) : Prop
    extends Durable taskId files net where
  clear : net.connected = true → ∀ frame ∈ pending files, Above taskId net frame.frameId

section Steps

variable {env : Environment} {taskId : UInt64} {files : Directory} {net middle after : Net}
  {ids : List UInt64}

/-! ## Replies and traffic -/

theorem declared_append (c : Nat) (before after : List Event) :
    declared taskId c (before ++ after) = declared taskId c before ++ declared taskId c after := by
  simp [declared]

theorem Event.passive.declares {event : Event} (passive : event.passive) (c : Nat) :
    event.declares taskId c = none := by
  cases event with
  | resumed connection reply => exact passive.elim
  | _ => rfl

theorem declared_passive {added : List Event} (passive : ∀ event ∈ added, event.passive) (c : Nat) :
    declared taskId c added = [] :=
  List.filterMap_eq_nil_iff.mpr fun event member => (passive event member).declares c

theorem Progress.declared (progress : Progress ids net after) (c : Nat) :
    declared taskId c after.history = declared taskId c net.history := by
  obtain ⟨added, grown, passive, _⟩ := progress.history
  rw [grown, declared_append, declared_passive passive, List.append_nil]

theorem Progress.above (progress : Progress ids net after) {frameId : UInt64} :
    Above taskId after frameId ↔ Above taskId net frameId := by
  rw [Above, Above, progress.declared, progress.connection]

/-- Events that declare nothing, with headers that are above all own replies. -/
theorem Respects.append {history added : List Event} (respects : Respects taskId history)
    (silent : ∀ event ∈ added, ∀ c, event.declares taskId c = none)
    (above : ∀ c, ∀ durable ∈ declared taskId c history, ∀ frameId ∈ headersOn c added,
      durable < frameId) : Respects taskId (history ++ added) := by
  refine List.pairwise_append.mpr ⟨respects, ?_, ?_⟩
  · refine List.pairwise_of_forall_mem_list fun earlier member _ _ c durable _ declares => ?_
    exact absurd declares (by simp [silent earlier member c])
  · intro earlier old later new c durable frameId declares header
    exact above c durable (List.mem_filterMap.mpr ⟨earlier, old, declares⟩) frameId
      (List.mem_filterMap.mpr ⟨later, new, header⟩)

/-- Traffic with headers that are above all own replies on the connection. -/
theorem Durable.progress (durable : Durable taskId files net) (progress : Progress ids net after)
    (above : ∀ id ∈ ids, Above taskId net id) : Durable taskId files after := by
  refine ⟨durable.filed, ?_, fun c later => ?_⟩
  · obtain ⟨added, grown, passive, headers, silent⟩ := progress.history
    rw [grown]
    apply durable.respects.append (fun event member c => (passive event member).declares c)
    intro c value old frameId sent
    rcases eq_or_ne c net.connection with rfl | other
    · exact above frameId (headers.subset sent) value old
    · simp [silent c other] at sent
  · rw [progress.declared]
    exact durable.future c (progress.connection ▸ later)

/-- An event that is neither a reply nor a header. -/
theorem Durable.record (durable : Durable taskId files net) {event : Event}
    (silent : ∀ c, event.declares taskId c = none) (headless : ∀ c, event.headerOn c = none) :
    Durable taskId files (net.record event) := by
  have nothing : ∀ c, headersOn c [event] = [] := fun c => by simp [headersOn, headless]
  refine ⟨durable.filed, durable.respects.append (by simpa using silent) (by simp [nothing]), ?_⟩
  intro c later
  rw [Net.record, declared_append, durable.future c later]
  simp [declared, silent]

theorem above_record {event : Event} (silent : ∀ c, event.declares taskId c = none)
    {frameId : UInt64} : Above taskId (net.record event) frameId ↔ Above taskId net frameId := by
  simp [Above, Net.record, declared, silent]

theorem Pruned.progress (pruned : Pruned taskId files net) (progress : Progress ids net after)
    (above : ∀ id ∈ ids, Above taskId net id) : Pruned taskId files after where
  toDurable := pruned.toDurable.progress progress above
  clear up frame member := progress.above.mpr (pruned.clear (progress.connected up) frame member)

theorem Pruned.silent (pruned : Pruned taskId files net) (progress : Progress [] net after) :
    Pruned taskId files after :=
  pruned.progress progress (by simp)

theorem Pruned.removeAll {spool : SenderSpool} (pruned : Pruned taskId spool.files net)
    (removed : List UInt64) : Pruned taskId (spool.removeAll removed).files net :=
  { pruned with
    filed := pruned.filed.removeAll removed
    clear := fun up frame member => pruned.clear up frame (pending_of_removeAll member) }

/-! ## A resume -/

theorem declared_resumed (c connection : Nat) (reply : ResumeReply) {durable : UInt64}
    (member : durable ∈ declared taskId c [.resumed connection reply]) :
    connection = c ∧ durable = reply.highestDurableFrameSeq := by
  simp only [declared, List.filterMap_cons, List.filterMap_nil, Event.declares] at member
  split at member
  · exact absurd member List.not_mem_nil
  · next declares =>
    split at declares
    · next own => exact ⟨own.1, by simp_all⟩
    · exact absurd declares (by simp)

/-- A reply arrives. -/
theorem Durable.accept (durable : Durable taskId files net) (reply : ResumeReply) :
    Durable taskId files (net.record (.resumed net.connection reply)) := by
  refine ⟨durable.filed, ?_, fun c later => ?_⟩
  · refine List.pairwise_append.mpr ⟨durable.respects, List.pairwise_singleton _ _, ?_⟩
    intro earlier _ later new c value frameId _ header
    obtain rfl := List.mem_singleton.mp new
    exact absurd header (by simp [Event.headerOn])
  · simp only [Net.record] at later ⊢
    rw [declared_append, durable.future c later, List.nil_append]
    refine List.eq_nil_iff_forall_not_mem.mpr fun value member => ?_
    have same := (declared_resumed c _ reply member).1
    omega

/-- What is left in the spool once the covered frames are removed. -/
theorem Pruned.prune {spool : SenderSpool} (pruned : Pruned taskId spool.files net)
    (up : net.connected = true) (reply : ResumeReply) :
    Pruned taskId (spool.removeAll (covered reply spool.files)).files
      (net.record (.resumed net.connection reply)) := by
  have accepted := pruned.toDurable.accept reply
  -- what is left in the spool was there before
  refine { accepted with filed := accepted.filed.removeAll _, clear := fun _ frame member => ?_ }
  intro value declares
  simp only [Net.record] at declares
  rw [declared_append] at declares
  obtain ⟨name, spooled⟩ := mem_pending.mp member
  obtain ⟨earlier, kept⟩ := spooled.of_removeAll
  have inSpool := mem_pending.mpr ⟨name, earlier⟩
  -- an earlier reply on this connection, or the one that just came
  cases List.mem_append.mp declares with
  | inl old => exact pruned.clear up frame inSpool value old
  | inr new =>
    -- a frame that the reply covers would have been removed under its name
    rw [(declared_resumed _ _ reply new).2, ← UInt64.not_le]
    intro covers
    rw [pruned.filed.named name frame earlier] at kept
    exact kept (List.mem_map_of_mem (mem_covered.mpr ⟨covers, frame, inSpool, rfl⟩))

/-- What holds when a call does not return. -/
def Interrupted (taskId : UInt64) (cause : Abort) (after : Session) : Prop :=
  (cause = .threw → Pruned taskId after.spool.files after.net) ∧
    Durable taskId after.spool.files after.net

variable {session : Session} {frame : RawFrame}

theorem Pruned.interrupted (pruned : Pruned taskId session.spool.files session.net)
    (cause : Abort) : Interrupted taskId cause session :=
  ⟨fun _ => pruned, pruned.toDurable⟩

theorem requestResume_pruned (pruned : Pruned taskId session.spool.files session.net) :
    wp (requestResume env taskId) (fun _ after => Pruned taskId after.spool.files after.net)
      (Interrupted taskId) session := by
  rw [wp_requestResume_iff]
  simp only [onNet, wp_zoom]
  refine wp_receiveReply env taskId (fun _ progress _ => ?_) (fun _ progress => ?_)
    (fun before bytes reply asked up _ _ => ?_)
  · exact ⟨fun _ => pruned.silent progress, (pruned.silent progress).toDurable⟩
  · exact pruned.silent progress
  · have received : Pruned taskId session.spool.files
        (before.record (.received before.connection bytes)) :=
      (pruned.silent asked).silent (Progress.record before trivial fun _ => rfl)
    refine wp_prune env (fun threw => absurd received.filed.loads threw)
      (fun removed net _ _ progress _ => ⟨fun absurd => by simp at absurd, ?_⟩)
      (fun net _ progress _ => ?_)
    · have durable := (received.toDurable.accept reply).progress progress (by simp)
      exact { durable with filed := durable.filed.removeAll removed }
    · exact (received.prune up reply).silent progress

theorem Pruned.greets (pruned : Pruned taskId files net) (greets : Greets net after) :
    Pruned taskId files after := by
  cases greets with
  | same progress => exact pruned.silent progress
  | @established middle _ _ before greeted =>
    have earlier := pruned.silent before
    have unused : ∀ c, net.connection < c →
        declared taskId c (middle.history ++ [.connected (net.connection + 1)]) = [] := by
      intro c later
      rw [declared_append, earlier.future c (by rw [before.connection]; omega)]
      rfl
    have connected : Pruned taskId files
        ({ middle with connected := true, connection := net.connection + 1 }.record
          (.connected (net.connection + 1))) := by
      refine { earlier with respects := ?_, future := ?_, clear := ?_ }
      · exact earlier.respects.append (by simp [Event.declares])
          (by simp [headersOn, Event.headerOn])
      · intro c later
        exact unused c (by simp only [Net.record] at later; omega)
      · intro _ frame _ durable declares
        rw [Net.record, unused _ (by simp)] at declares
        exact absurd declares List.not_mem_nil
    exact connected.silent greeted

theorem Pruned.replays (pruned : Pruned taskId files net)
    (replays : Replays files net after) : Pruned taskId files after := by
  cases replays with
  | unsent => exact pruned
  | sent up progress =>
    refine pruned.progress progress fun id member => ?_
    obtain ⟨frame, held, rfl⟩ := List.mem_map.mp member
    exact pruned.clear up frame held

theorem reconnectAndResume_pruned (pruned : Pruned taskId session.spool.files session.net) :
    wp (reconnectAndResume env taskId) (fun _ after => Pruned taskId after.spool.files after.net)
      (Interrupted taskId) session := by
  have greeting : ∀ {net}, Greets session.net net → Pruned taskId session.spool.files net :=
    pruned.greets
  apply wp_reconnectAndResume_steps env taskId (Greets session.net) (Greets session.net)
    fun after => Pruned taskId after.spool.files after.net
  · apply (wp_connectToServer_greets env).mono
    · intro up connected greets
      cases up with
      | false => exact greeting greets
      | true => exact greets
    · exact fun _ _ greets => ⟨fun _ => greeting greets, (greeting greets).toDurable⟩
  · intro connected greets
    apply (RawFrameSender.wp_sendAll_silent (.hello taskId) trivial).mono
    · rintro sent greeted ⟨hello, _⟩
      cases sent with
      | false => exact greeting (greets.trans hello.close)
      | true => exact greets.trans hello
    · exact fun _ _ hello => ((greeting greets).silent hello).interrupted _
  · intro greeted greets
    apply (@requestResume_pruned env taskId { session with state := .handshaking, net := greeted }
      (greeting greets)).post
    intro resumed answered pruned
    cases resumed with
    | false => exact pruned.silent (Progress.refl _).close
    | true => exact pruned
  · intro answered pruned
    apply wp_replayPendingFrames env
    · exact fun threw => absurd pruned.filed.loads threw
    · exact fun _ _ replays => ⟨fun _ => pruned.replays replays, (pruned.replays replays).toDurable⟩
    · exact fun _ _ replays => pruned.replays replays

/-! ## `sendFrame` -/

/-- `persist` brings at most its frame into the spool. -/
theorem persist_durable (pruned : Pruned taskId session.spool.files session.net) :
    wp (persist env frame)
      (fun persisted middle => Durable taskId middle.spool.files middle.net ∧
        middle.net.connected = session.net.connected ∧
        (persisted = true → frame ∈ pending middle.spool.files) ∧
        (session.net.connected = true → ∀ other ∈ pending middle.spool.files,
          other = frame ∨ Above taskId middle.net other.frameId))
      (Interrupted taskId) session := by
  have ticks : Progress [] session.net (session.net.tick env) := .of_ticks (Ticks.tick env _)
  have ticked := pruned.silent ticks
  have landed : ∀ n, frame.empty = false →
      Durable taskId (session.spool.landed frame n).files (session.net.tick env) := fun n filled =>
    { ticked.toDurable with filed := pruned.filed.landed filled n }
  have clear : ∀ n, frame.empty = false → session.net.connected = true →
      ∀ other ∈ pending (session.spool.landed frame n).files,
        other = frame ∨ Above taskId (session.net.tick env) other.frameId :=
    fun n filled up other member => (pending_of_landed filled member).imp id (ticked.clear up other)
  refine wp_persist env (fun _ => ⟨fun _ => ticked, ticked.toDurable⟩) (fun _ => ?_)
    (fun n filled _ => ?_) (fun n filled _ => ?_) (fun filled _ _ => ?_)
  · exact ⟨ticked.toDurable, rfl, by simp,
      fun up other member => .inr (ticked.clear up other member)⟩
  · exact ⟨landed n filled, rfl, by simp, clear n filled⟩
  · exact ⟨by simp, landed n filled⟩
  · exact ⟨(landed _ filled).record (fun _ => rfl) (fun _ => rfl), rfl,
      fun _ => mem_pending_landed _ filled, fun up other member =>
        (clear _ filled up other member).imp id (above_record fun _ => rfl).mpr⟩

/-- The direct send is reached with a frame that no reply on the connection covers. -/
theorem prepare_pruned (undeclared : UndeclaredSend env taskId frame session)
    (pruned : Pruned taskId session.spool.files session.net) :
    wp (prepare env taskId frame)
      (fun reached middle => Pruned taskId middle.spool.files middle.net ∧
        (reached = true → Above taskId middle.net frame.frameId))
      (Interrupted taskId) session := by
  -- without a connection the spool may hold anything until the reply has come
  cases live : session.net.connected with
  | true =>
    refine wp_prepare env taskId (((persist_durable pruned).and (undeclared.up live)).mono ?_
      fun _ _ ended => ended.1)
    rintro persisted middle ⟨⟨durable, same, held, clear⟩, above⟩
    have pruned : Pruned taskId middle.spool.files middle.net :=
      { durable with
        clear := fun _ other member => (clear live other member).elim
          (fun isFrame => isFrame ▸ above (isFrame ▸ member)) id }
    exact ⟨fun _ => ⟨pruned, fun absurd => Bool.noConfusion absurd⟩,
      fun persisted _ => ⟨pruned, fun _ => above (held persisted)⟩,
      fun _ down => absurd (same.trans live) (by simp [down])⟩
  | false =>
    refine (wp.and (Q := fun _ middle => Pruned taskId middle.spool.files middle.net) ?_
      (undeclared.down live)).mono (fun _ _ ended => ended) (fun _ _ ended => ended.1)
    refine wp_prepare env taskId ((persist_durable pruned).post ?_)
    rintro persisted middle ⟨durable, same, _, _⟩
    have down := same.trans live
    have pruned : Pruned taskId middle.spool.files middle.net :=
      { durable with clear := fun up => absurd up (by simp [down]) }
    exact ⟨fun _ => pruned, fun _ _ => pruned, fun _ _ => reconnectAndResume_pruned pruned⟩

theorem sendFrame_pruned (undeclared : UndeclaredSend env taskId frame session)
    (pruned : Pruned taskId session.spool.files session.net) :
    wp (ResumeSession.sendFrame env taskId frame)
      (fun _ after => Pruned taskId after.spool.files after.net) (Interrupted taskId) session := by
  rw [wp_sendFrame_iff]
  apply (prepare_pruned undeclared pruned).post
  rintro reached middle ⟨pruned, above⟩
  cases reached with
  | false => exact pruned
  | true =>
    have transmitted : ∀ {last}, Progress [frame.frameId] middle.net last →
        Pruned taskId middle.spool.files last := fun progress =>
      pruned.progress progress (by simpa using above rfl)
    refine (wp_transmit env).mono ?_ (fun _ last ⟨same, progress⟩ => ?_)
    · rintro sent last ⟨same, progress, _⟩
      cases sent with
      | false => exact same ▸ transmitted progress
      | true =>
        have removed : Pruned taskId last.spool.files last.net := same ▸ transmitted progress
        exact removed.removeAll [frame.frameId]
    · exact Pruned.interrupted (same ▸ transmitted progress) _

/-- One call. -/
theorem next_pruned {call : Call} (undeclared : Undeclared env taskId call session)
    (pruned : Pruned taskId session.spool.files session.net) :
    Pruned taskId (call.next env taskId session).spool.files
      (call.next env taskId session).net := by
  have restarted : ∀ {after : Session}, Durable taskId after.spool.files after.net →
      Pruned taskId after.restart.spool.files after.restart.net := fun durable =>
    { durable with clear := fun up => Bool.noConfusion up }
  have ends : wp (call.perform env taskId)
      (fun _ after => Pruned taskId after.spool.files after.net) (Interrupted taskId) session := by
    cases call with
    | start => exact reconnectAndResume_pruned pruned
    | sendFrame frame => exact sendFrame_pruned (undeclared frame rfl) pruned
    | reconnectAndResume => exact reconnectAndResume_pruned pruned
    | requestResume => exact requestResume_pruned pruned
    | replayPendingFrames =>
      exact wp_replayPendingFrames env (fun _ => pruned.interrupted _)
        (fun _ _ replays => ⟨fun _ => pruned.replays replays, (pruned.replays replays).toDurable⟩)
        (fun _ _ replays => pruned.replays replays)
    | setMaxSpoolBytes maxBytes => exact pruned
    | restart => exact restarted pruned.toDurable
  exact Call.next_of_abort (I := fun after => Pruned taskId after.spool.files after.net)
    (ends.mono (fun _ _ pruned => pruned)
      fun _ _ interrupted => ⟨interrupted.1, fun _ => restarted interrupted.2⟩)

end Steps

/-- In a run of such calls, restarts and failures of every kind included, no frame is sent on a
    connection after a reply on it that covers the frame. -/
theorem declared_not_sent (env : Environment) (taskId : UInt64) (files : Directory)
    (filed : Filed files) (calls : List Call)
    (undeclared : Admits (Call.next env taskId) (Undeclared env taskId) calls
      (construct files {})) :
    Respects taskId (run (Call.next env taskId) calls (construct files {})).net.history :=
  have start : Pruned taskId files {} :=
    ⟨⟨filed, List.Pairwise.nil, fun _ _ => rfl⟩, fun up => Bool.noConfusion up⟩
  (run_invariant (I := fun _ session => Pruned taskId session.spool.files session.net)
    (fun _ _ _ pruned undeclared => next_pruned undeclared pruned) calls _ start
    undeclared).respects

/-- A frame that is above the reply, sent and sent again. -/
theorem declared_not_sent_retried :
    Respects 1 (run (Call.next (.serving (fun _ => some ⟨1, 4⟩) fun _ => []) 1)
      [.sendFrame (pixel 5 1), .sendFrame (pixel 5 1)] (construct ∅ {})).net.history :=
  declared_not_sent _ 1 ∅ Owned.empty.filed _
    ⟨by rintro _ ⟨⟩; exact ⟨fun up => absurd up (by decide +kernel), fun _ => by decide +kernel⟩,
    by rintro _ ⟨⟩; exact ⟨fun _ => by decide +kernel, fun down => absurd down (by decide +kernel)⟩,
    trivial⟩

/-- The first connection breaks once frame 5 has been replayed on it; the receiver stores what it
    gets and reports the highest id of it. -/
def lostAcknowledgement : Environment :=
  { Environment.serving (fun net => some ⟨1, (net.frames.map RawFrame.frameId).foldl max 0⟩)
      Net.frames with
    send := fun net packet _ =>
      if net.connection = 1 ∧ net.frames ≠ [] then 0 else packet.bytes.length }

/-- The retry of frame 5 learns from the reply that the receiver has it, and sends it again. -/
theorem retried_frame_sent_again :
    ¬ Respects 1 (run (Call.next lostAcknowledgement 1)
      [.sendFrame (pixel 5 1), .sendFrame (pixel 5 1)] (construct ∅ {})).net.history := by
  intro respects
  have again : List.Sublist [.resumed 2 ⟨1, 5⟩, .sent 2 (.frameHeader
      (RawFrameSender.frameHeaderFor fragmentSize (pixel 5 1))) RawFrameProtocol.frameHeaderSize]
      (run (Call.next lostAcknowledgement 1) [.sendFrame (pixel 5 1), .sendFrame (pixel 5 1)]
        (construct ∅ {})).net.history := by
    decide +kernel
  have above := (List.pairwise_cons.mp (respects.sublist again)).1 _ (List.mem_singleton.mpr rfl)
  exact absurd (above 2 5 5 rfl rfl) (by decide)

end PictureReconstruct
