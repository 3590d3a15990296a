import PictureReconstruct.Network.ResumeRuns
import PictureReconstruct.Network.StreamRoundTrip

/-! # What a resume does to the spool and sends on the connection

The reply to a resume request divides the spooled frames by their ids: those up to the reply's are
removed, the others are sent again, all of them, in the order of their ids.

* `Carries`: the bytes and the frames that went out between two states of a connection.
* `Since`: the same, counted from the reply that was accepted.
* `resume_reconciles`: however a call of `reconnectAndResume` ends.
* `zero_reply_iff`: a reply of 0 deletes nothing exactly when no spooled frame has the id 0.
-/

namespace PictureReconstruct

open Library.Procedure Library.Runs ProtocolV2 TcpClient SenderSpool ResumeSession Session

/-- `after` is `before` with `bytes` more on the current connection, and `frames` sent in full. -/
structure Carries (bytes : List UInt8) (frames : List RawFrame) (before after : Net) : Prop where
  connection : after.connection = before.connection
  history : ∃ added, after.history = before.history ++ added ∧
    bytesOn before.connection added = bytes ∧ framesSent added = frames

/-- A reply was accepted in between, and `bytes` and `frames` were sent on its connection since. -/
def Since (reply : ResumeReply) (bytes : List UInt8) (frames : List RawFrame)
    (before after : Net) : Prop :=
  ∃ earlier later,
    after.history = before.history ++ earlier ++ .resumed after.connection reply :: later ∧
      bytesOn after.connection later = bytes ∧ framesSent later = frames

/-- The peer gives this reply at some point. -/
def Offers (env : Environment) (reply : ResumeReply) : Prop :=
  ∃ net, parseResumeReply (recvLoop (env.recv net) 28 28 []) ⟨0, 0⟩ = (true, reply)

/-- No reply was accepted in between. -/
def Unanswered (before after : Net) : Prop :=
  ∃ added, after.history = before.history ++ added ∧
    ∀ event ∈ added, ∀ connection reply, event ≠ .resumed connection reply

/-- The spooled frames that a reply does not cover. -/
def unacknowledged (files : Directory) (reply : ResumeReply) : List RawFrame :=
  (pending files).filter fun frame => reply.highestDurableFrameSeq < frame.frameId

/-! ## What is sent -/

section Sending

variable {env : Environment} {fragmentSize : UInt32} {frame : RawFrame}
  {net before middle after : Net} {bytes bytes' : List UInt8} {frames frames' : List RawFrame}

theorem Carries.refl (net : Net) : Carries [] [] net net :=
  ⟨rfl, [], (List.append_nil _).symm, rfl, rfl⟩

theorem Carries.trans (first : Carries bytes frames before middle)
    (second : Carries bytes' frames' middle after) :
    Carries (bytes ++ bytes') (frames ++ frames') before after := by
  obtain ⟨same, added, grown, sent, whole⟩ := first
  obtain ⟨same', added', grown', sent', whole'⟩ := second
  rw [same] at sent'
  refine ⟨same'.trans same, added ++ added', ?_, ?_, ?_⟩
  · rw [grown', grown, List.append_assoc]
  · rw [bytesOn_append, sent, sent']
  · rw [framesSent_append, whole, whole']

theorem Carries.of_ticks (ticks : Ticks before after) : Carries [] [] before after := by
  obtain ⟨stored, _, grown⟩ := ticks.history
  refine ⟨ticks.connection, stored.map .stored, grown, ?_, ?_⟩
  · simp [bytesOn, Event.bytesOn]
  · simp [framesSent]

theorem Carries.sent (net : Net) (packet : Packet) :
    Carries packet.bytes [] net
      (net.record (.sent net.connection packet packet.bytes.length)) := by
  refine ⟨rfl, [_], rfl, ?_, rfl⟩
  simp [bytesOn, Event.bytesOn]

/-- A packet that `sendAll` reports as sent is on the connection. -/
theorem sendAll_carries (packet : Packet) :
    wp (sendAll env packet) (fun sent after => sent = true → Carries packet.bytes [] net after)
      (fun _ _ => True) net := by
  apply wp_sendAll
  · intro _ sent
    cases sent
  · intro _ _ _ _
    trivial
  · intro _ _ _ _ _ _ sent
    cases sent
  · intro after _ ticks _ _
    have carried := (Carries.of_ticks ticks).trans (.sent after packet)
    rwa [ticks.connection] at carried

theorem sendFragment_carries (index : Nat) :
    wp (RawFrameSender.sendFragment env fragmentSize frame index)
      (fun sent after =>
        sent = true → Carries (chunkBytes fragmentSize frame index 1) [] net after)
      (fun _ _ => True) net := by
  simp only [RawFrameSender.sendFragment, wp_bind]
  apply (sendAll_carries _).post
  intro sent middle header
  cases sent with
  | false =>
    intro sent
    cases sent
  | true =>
    apply (sendAll_carries _).post
    intro sent after payload whole
    have chunk := (header rfl).trans (payload whole)
    simpa [chunkBytes, RawFrameSender.fragmentPackets] using chunk

theorem sendFragments_carries (count : Nat) : ∀ (index : Nat) (net : Net),
    wp ((List.range' index count).allM (RawFrameSender.sendFragment env fragmentSize frame))
      (fun sent after =>
        sent = true → Carries (chunkBytes fragmentSize frame index count) [] net after)
      (fun _ _ => True) net := by
  induction count with
  | zero => exact fun _ net _ => .refl net
  | succ count ih =>
    intro index net
    simp only [List.range'_succ, List.allM, wp_bind]
    apply (sendFragment_carries index).post
    intro sent middle first
    cases sent with
    | false =>
      intro sent
      cases sent
    | true =>
      apply (ih (index + 1) middle).post
      intro sent after rest whole
      rw [chunkBytes_succ]
      exact (first rfl).trans (rest whole)

/-- A frame that `sendFrame` reports as sent is on the connection, header and payload. -/
theorem sendFrame_carries :
    wp (RawFrameSender.sendFrame env fragmentSize frame)
      (fun sent after => sent = true → Carries (frameBytes fragmentSize frame) [frame] net after)
      (fun _ _ => True) net := by
  simp only [RawFrameSender.sendFrame, wp_bind, wp_ite, wp_pure]
  refine ⟨fun _ => Bool.noConfusion, fun _ => ⟨fun _ => Bool.noConfusion, fun _ => ?_⟩⟩
  apply (sendAll_carries _).post
  intro sent middle header
  cases sent with
  | false => exact Bool.noConfusion
  | true =>
    simp only [Bool.not_true, Bool.false_eq_true, if_false, wp_bind, List.range_eq_range']
    apply (sendFragments_carries _ 0 middle).post
    intro sent last chunks
    cases sent with
    | false => exact Bool.noConfusion
    | true =>
      intro _
      have recorded : Carries [] [frame] last
          (last.record (.frameSent last.connection frame)) := ⟨rfl, [_], rfl, rfl, rfl⟩
      have whole := ((header rfl).trans (chunks rfl)).trans recorded
      simpa [frameBytes, Packet.bytes] using whole

theorem sendFrames_carry (frames : List RawFrame) : ∀ session : Session,
    wp (frames.allM fun frame => onNet (RawFrameSender.sendFrame env fragmentSize frame))
      (fun sent after => sent = true →
        Carries (frames.flatMap (frameBytes fragmentSize)) frames session.net after.net)
      (fun _ _ => True) session := by
  induction frames with
  | nil => exact fun session _ => .refl session.net
  | cons frame frames ih =>
    intro session
    simp only [List.allM, wp_bind, onNet, wp_zoom]
    apply sendFrame_carries.post
    intro sent middle first
    cases sent with
    | false => exact Bool.noConfusion
    | true =>
      apply (ih { session with net := middle }).post
      intro sent after rest whole
      exact (first rfl).trans (rest whole)

/-- A replay that succeeds has sent the frames of the spool. -/
theorem replay_carries {session : Session} :
    wp (replayPendingFrames env)
      (fun done after => done = true →
        Carries ((pending session.spool.files).flatMap (frameBytes ResumeSession.fragmentSize))
          (pending session.spool.files) session.net after.net)
      (fun _ _ => True) session := by
  simp only [replayPendingFrames, wp_bind]
  apply wp_loadPendingFrames
  · intro _
    trivial
  · intro _
    rw [wp_ite]
    constructor
    · intro empty _
      rw [List.isEmpty_iff.mp empty]
      exact .refl session.net
    · intro _
      exact sendFrames_carry _ session

/-- Nothing is sent while frames are removed from the spool. -/
theorem prune_carries {session : Session} {reply : ResumeReply} :
    wp (prune env reply) (fun _ after => Carries [] [] (accepted reply session).net after.net)
      (fun _ after => Carries [] [] (accepted reply session).net after.net) session := by
  simp only [prune, wp_bind, wp_modify]
  apply wp_loadPendingFrames
  · intro _
    exact .refl _
  · intro _
    apply wp_forM (fun _ s => Carries [] [] (accepted reply session).net s.net)
    · intro s carries
      exact carries
    · intro frame _ s carries
      simp only [wp_bind, wp_get, wp_ite, wp_pure, ResumeSession.removeFrame, onNet, wp_zoom,
        wp_systemCall_iff, wp_modify]
      have ticked := carries.trans (.of_ticks (Ticks.tick env s.net))
      exact ⟨fun _ => ⟨fun _ => ticked, fun _ => ticked⟩, fun _ => carries⟩
    · exact .refl _

end Sending

/-! ## From the reply on -/

section Replies

variable {env : Environment} {taskId : UInt64} {reply : ResumeReply} {before middle after : Net}
  {ids : List UInt64} {bytes bytes' : List UInt8} {frames frames' : List RawFrame}

theorem Unanswered.of_progress (progress : Progress ids before after) :
    Unanswered before after := by
  obtain ⟨added, grown, passive, _⟩ := progress.history
  refine ⟨added, grown, fun event member connection reply same => ?_⟩
  rw [same] at member
  exact passive _ member

theorem Unanswered.trans (first : Unanswered before middle) (second : Unanswered middle after) :
    Unanswered before after := by
  obtain ⟨added, grown, passive⟩ := first
  obtain ⟨added', grown', passive'⟩ := second
  refine ⟨added ++ added', by rw [grown', grown, List.append_assoc], fun event member => ?_⟩
  exact (List.mem_append.mp member).elim (passive event) (passive' event)

theorem Unanswered.of_greets (greets : Greets before after) : Unanswered before after := by
  cases greets with
  | same progress => exact .of_progress progress
  | @established middle _ idle first greeted =>
    refine ((Unanswered.of_progress first).trans ?_).trans (.of_progress greeted)
    exact ⟨[.connected (before.connection + 1)], rfl, by simp⟩

/-- A reply is accepted on the connection it came from. -/
theorem Unanswered.accepts (unanswered : Unanswered before after) (session : Session)
    (reply : ResumeReply) :
    Since reply [] [] before (accepted reply { session with net := after }).net := by
  obtain ⟨added, grown, _⟩ := unanswered
  refine ⟨added, [], ?_, rfl, rfl⟩
  rw [← grown]
  rfl

theorem Since.carries (since : Since reply bytes frames before middle)
    (carries : Carries bytes' frames' middle after) :
    Since reply (bytes ++ bytes') (frames ++ frames') before after := by
  obtain ⟨earlier, later, history, sent, whole⟩ := since
  obtain ⟨same, added, grown, sent', whole'⟩ := carries
  refine ⟨earlier, later ++ added, ?_, ?_, ?_⟩
  · rw [grown, history, same, List.append_assoc, List.cons_append]
  · rw [same, bytesOn_append, sent, sent']
  · rw [framesSent_append, whole, whole']

/-- Whatever goes out behind the reply. -/
theorem Since.progress (since : Since reply bytes frames before middle)
    (progress : Progress ids middle after) :
    ∃ bytes frames, Since reply bytes frames before after := by
  obtain ⟨added, grown, _⟩ := progress.history
  exact ⟨_, _, since.carries ⟨progress.connection, added, grown, rfl, rfl⟩⟩

theorem Since.unanswered {start : Net} (first : Unanswered start before)
    (since : Since reply bytes frames before after) : Since reply bytes frames start after := by
  obtain ⟨added, grown, _⟩ := first
  obtain ⟨earlier, later, history, sent⟩ := since
  refine ⟨added ++ earlier, later, ?_, sent⟩
  rw [history, grown]
  simp only [List.append_assoc]

/-! ## The procedures -/

/-- The spool is as it was and no reply was accepted. -/
def Untouched (session after : Session) : Prop :=
  Unanswered session.net after.net ∧ after.spool = session.spool

variable {session : Session}

theorem requestResume_since :
    wp (requestResume env taskId)
      (fun done after =>
        (done = true → ∃ reply, Offers env reply ∧ Since reply [] [] session.net after.net ∧
          after.spool = session.spool.removeAll (covered reply session.spool.files)) ∧
        (done = false → Untouched session after))
      (fun _ after => Untouched session after ∨
        ∃ reply removed, Offers env reply ∧ Since reply [] [] session.net after.net ∧
          removed <+: covered reply session.spool.files ∧
          after.spool = session.spool.removeAll removed)
      session := by
  rw [wp_requestResume_iff]
  simp only [onNet, wp_zoom]
  apply wp_receiveReply
  · intro net progress _
    exact .inl ⟨.of_progress progress, rfl⟩
  · intro net progress
    exact ⟨Bool.noConfusion, fun _ => ⟨.of_progress progress, rfl⟩⟩
  · intro asked bytes reply progress _ given parsed
    have received : Unanswered session.net
        (asked.record (.received asked.connection bytes)) :=
      (Unanswered.of_progress progress).trans
        (.of_progress (Progress.record asked trivial fun _ => rfl))
    have since := received.accepts session reply
    have pruned : wp (prune env reply)
        (fun _ after =>
          after.spool = session.spool.removeAll (covered reply session.spool.files))
        (fun _ after => ∃ removed, removed <+: covered reply session.spool.files ∧
          after.spool = session.spool.removeAll removed)
        { session with net := asked.record (.received asked.connection bytes) } := by
      apply wp_prune
      · intro _
        exact ⟨[], List.nil_prefix, rfl⟩
      · intro removed net _ isPrefix _ _
        exact ⟨removed, isPrefix, rfl⟩
      · intro net _ _ _
        rfl
    apply (pruned.and prune_carries).mono
    · rintro _ after ⟨same, carries⟩
      exact ⟨fun _ => ⟨reply, ⟨asked, given ▸ parsed⟩, since.carries carries, same⟩,
        Bool.noConfusion⟩
    · rintro cause after ⟨⟨removed, isPrefix, same⟩, carries⟩
      exact .inr ⟨reply, removed, ⟨asked, given ▸ parsed⟩, since.carries carries, isPrefix, same⟩

/-- What a reply leaves in the spool. -/
theorem pending_covered (owned : Owned session.spool.files) (reply : ResumeReply) :
    pending (session.spool.removeAll (covered reply session.spool.files)).files =
      unacknowledged session.spool.files reply := by
  apply ascending_ext (owned.removeAll _).ascending (owned.ascending.filter _)
  intro frame
  rw [owned.mem_pending_removeAll, List.mem_filter, decide_eq_true_eq]
  apply and_congr_right
  intro member
  rw [mem_covered, ← UInt64.not_le]
  exact not_congr ⟨fun covers => covers.1, fun durable => ⟨durable, frame, member, rfl⟩⟩

/-- A frame that the reply does not cover stays while others are removed. -/
theorem mem_pending_of_unacknowledged (owned : Owned session.spool.files) {removed : List UInt64}
    (isPrefix : removed <+: covered reply session.spool.files) {frame : RawFrame}
    (member : frame ∈ unacknowledged session.spool.files reply) :
    frame ∈ pending (session.spool.removeAll removed).files := by
  obtain ⟨pending, fresh⟩ := List.mem_filter.mp member
  rw [decide_eq_true_eq, ← UInt64.not_le] at fresh
  refine (owned.mem_pending_removeAll removed).mpr ⟨pending, fun gone => ?_⟩
  exact fresh (mem_covered.mp (isPrefix.subset gone)).1

end Replies

/-! ## Reconciliation -/

/-- The spool holds the frames that the reply does not cover, and these, one after the other and
    nothing else, went out on the connection since. -/
structure Reconciled (session after : Session) (reply : ResumeReply) : Prop where
  spool : pending after.spool.files = unacknowledged session.spool.files reply
  ascending : (unacknowledged session.spool.files reply).Pairwise fun a b => a.frameId < b.frameId
  sent : Since reply
    ((unacknowledged session.spool.files reply).flatMap (frameBytes ResumeSession.fragmentSize))
    (unacknowledged session.spool.files reply) session.net after.net

/-- A reply was accepted in between. -/
def Replied (reply : ResumeReply) (before after : Net) : Prop :=
  ∃ bytes frames, Since reply bytes frames before after

section Reconciliation

variable {env : Environment} {taskId : UInt64} {session : Session}

/-- The replay behind an accepted reply. -/
theorem replay_reconciles (owned : Owned session.spool.files) {resumed : Session}
    {reply : ResumeReply} (since : Since reply [] [] session.net resumed.net)
    (pruned : resumed.spool = session.spool.removeAll (covered reply session.spool.files)) :
    wp (replayPendingFrames env)
      (fun done after => after.spool = resumed.spool ∧ Replied reply session.net after.net ∧
        (done = true → Reconciled session after reply))
      (fun _ after => after.spool = resumed.spool ∧ Replied reply session.net after.net)
      resumed := by
  have left : pending resumed.spool.files = unacknowledged session.spool.files reply := by
    rw [pruned]
    exact pending_covered owned reply
  have ends : wp (replayPendingFrames env)
      (fun _ after => after.spool = resumed.spool ∧ Replied reply session.net after.net)
      (fun _ after => after.spool = resumed.spool ∧ Replied reply session.net after.net)
      resumed := by
    have replied : ∀ net, Replays resumed.spool.files resumed.net net →
        Replied reply session.net net := by
      intro net replays
      obtain ⟨_, progress⟩ := replays.progress
      exact since.progress progress
    apply wp_replayPendingFrames
    · intro _
      exact ⟨rfl, [], [], since⟩
    · intro _ net replays
      exact ⟨rfl, replied net replays⟩
    · intro _ net replays
      exact ⟨rfl, replied net replays⟩
  apply (ends.and replay_carries).mono
  · rintro done after ⟨⟨same, replied⟩, carries⟩
    refine ⟨same, replied, fun complete => ⟨?_, owned.ascending.filter _, ?_⟩⟩
    · rw [same, left]
    · have sent := since.carries (carries complete)
      rw [left] at sent
      exact sent
  · rintro _ after ⟨kept, _⟩
    exact kept

/-- A call that did not reconcile: nothing changed, or `kept` holds of a reply that was accepted. -/
def Unfinished (env : Environment) (session after : Session) (kept : ResumeReply → Prop) : Prop :=
  Untouched session after ∨
    ∃ reply, Offers env reply ∧ Replied reply session.net after.net ∧ kept reply

/-- However a call ends, the reply decides on the spool. -/
theorem reconnectAndResume_ends (owned : Owned session.spool.files) :
    wp (reconnectAndResume env taskId)
      (fun done after =>
        (done = true ∧ ∃ reply, Offers env reply ∧ Reconciled session after reply) ∨
        (done = false ∧ Unfinished env session after fun reply =>
          pending after.spool.files = unacknowledged session.spool.files reply))
      (fun _ after => Unfinished env session after fun reply =>
        ∀ frame ∈ unacknowledged session.spool.files reply, frame ∈ pending after.spool.files)
      session := by
  apply wp_reconnectAndResume_steps env taskId (Unanswered session.net)
    (Unanswered session.net) fun after => ∃ reply, Offers env reply ∧
      Since reply [] [] session.net after.net ∧
      after.spool = session.spool.removeAll (covered reply session.spool.files)
  · apply (wp_connectToServer_greets env).mono
    · intro up connected greets
      have greeted := Unanswered.of_greets greets
      cases up with
      | false => exact .inr ⟨rfl, .inl ⟨greeted, rfl⟩⟩
      | true => exact greeted
    · exact fun _ _ greets => .inl ⟨.of_greets greets, rfl⟩
  · intro connected greeted
    apply (RawFrameSender.wp_sendAll_silent (.hello taskId) trivial).mono
    · rintro sent asked ⟨hello, _⟩
      have unanswered := greeted.trans (.of_progress hello)
      cases sent with
      | false => exact .inr ⟨rfl, .inl ⟨unanswered, rfl⟩⟩
      | true => exact unanswered
    · exact fun _ _ hello => .inl ⟨greeted.trans (.of_progress hello), rfl⟩
  · intro asked unanswered
    apply requestResume_since.mono
    · rintro resumed answered ⟨replied, refused⟩
      cases resumed with
      | false =>
        obtain ⟨nothing, same⟩ := refused rfl
        exact .inr ⟨rfl, .inl ⟨unanswered.trans nothing, same⟩⟩
      | true =>
        obtain ⟨reply, offered, since, pruned⟩ := replied rfl
        exact ⟨reply, offered, since.unanswered unanswered, pruned⟩
    · rintro _ after (⟨nothing, same⟩ | ⟨reply, removed, offered, since, isPrefix, same⟩)
      · exact .inl ⟨unanswered.trans nothing, same⟩
      · refine .inr ⟨reply, offered, ⟨[], [], since.unanswered unanswered⟩,
          fun frame member => ?_⟩
        rw [same]
        exact mem_pending_of_unacknowledged owned isPrefix member
  · rintro answered ⟨reply, offered, since, pruned⟩
    have left : pending answered.spool.files = unacknowledged session.spool.files reply := by
      rw [pruned]
      exact pending_covered owned reply
    apply (@replay_reconciles env session owned { answered with state := .recovering } reply since
      pruned).mono
    · rintro replayed after ⟨same, replied, reconciled⟩
      cases replayed with
      | false => exact .inr ⟨rfl, .inr ⟨reply, offered, replied, same ▸ left⟩⟩
      | true =>
        obtain ⟨spool, ascending, sent⟩ := reconciled rfl
        exact .inl ⟨rfl, reply, offered, spool, ascending, sent⟩
    · rintro _ after ⟨same, replied⟩
      refine .inr ⟨reply, offered, replied, fun frame member => ?_⟩
      rw [same]
      exact left ▸ member

end Reconciliation

/-- For every spool that `persist` filled and every network: a call that returns `true` has
    reconciled the spool with a reply that the peer gave; one that returns `false` behind a reply
    has kept all frames that the reply does not cover and only these; and one that does not return
    has kept them. -/
theorem resume_reconciles (env : Environment) (taskId : UInt64) (session : Session)
    (owned : Owned session.spool.files) :
    wp (reconnectAndResume env taskId)
      (fun done after =>
        (done = true → ∃ reply, Offers env reply ∧ Reconciled session after reply) ∧
        (done = false → Untouched session after ∨ ∃ reply, Replied reply session.net after.net ∧
          pending after.spool.files = unacknowledged session.spool.files reply))
      (fun _ after => Untouched session after ∨ ∃ reply, Replied reply session.net after.net ∧
        ∀ frame ∈ unacknowledged session.spool.files reply, frame ∈ pending after.spool.files)
      session := by
  apply (reconnectAndResume_ends owned).mono
  · rintro done after (⟨rfl, reconciled⟩ | ⟨rfl, untouched | ⟨reply, _, replied, kept⟩⟩)
    · exact ⟨fun _ => reconciled, Bool.noConfusion⟩
    · exact ⟨Bool.noConfusion, fun _ => .inl untouched⟩
    · exact ⟨Bool.noConfusion, fun _ => .inr ⟨reply, replied, kept⟩⟩
  · rintro _ after (untouched | ⟨reply, _, replied, kept⟩)
    · exact .inl untouched
    · exact .inr ⟨reply, replied, kept⟩

/-- A session whose spool holds two frames. -/
def twoPending : Session where
  spool := ((openRoot ∅).landed (pixel 7 2) 41).landed (pixel 5 1) 41

theorem twoPending_owned : Owned twoPending.spool.files :=
  ((@Owned.landed (openRoot ∅) .empty (pixel 7 2) (by decide) 41).landed (by decide) 41)

/-- A reply that covers one of the frames. -/
theorem resume_reconciles_newer :
    ∃ after, reconnectAndResume (.serving (fun _ => some ⟨1, 5⟩) fun _ => []) 1 twoPending =
        .ok true after ∧
      ∃ reply, Offers (.serving (fun _ => some ⟨1, 5⟩) fun _ => []) reply ∧
        Reconciled twoPending after reply := by
  have ends := resume_reconciles (.serving (fun _ => some ⟨1, 5⟩) fun _ => []) 1 twoPending
    twoPending_owned
  have succeeds : wp (reconnectAndResume (.serving (fun _ => some ⟨1, 5⟩) fun _ => []) 1)
      (fun done _ => done = true) (fun _ _ => False) twoPending := by
    decide +kernel
  cases run : reconnectAndResume (.serving (fun _ => some ⟨1, 5⟩) fun _ => []) 1 twoPending with
  | error _ _ => exact (succeeds.error run).elim
  | ok done after =>
    obtain rfl : done = true := succeeds.ok run
    exact ⟨after, rfl, (ends.ok run).1 rfl⟩

/-! ## A receiver that has stored nothing -/

/-- No frame was removed, and all were sent behind the reply. -/
structure KeepsAll (session after : Session) : Prop where
  spool : pending after.spool.files = pending session.spool.files
  sent : ∃ reply, Since reply
    ((pending session.spool.files).flatMap (frameBytes ResumeSession.fragmentSize))
    (pending session.spool.files) session.net after.net

/-- No spooled frame has the id 0. -/
def NoZeroId (files : Directory) : Prop := ∀ frame ∈ pending files, frame.frameId ≠ 0

theorem unacknowledged_zero {files : Directory} {reply : ResumeReply}
    (zero : reply.highestDurableFrameSeq = 0) :
    unacknowledged files reply = pending files ↔ NoZeroId files := by
  rw [unacknowledged, List.filter_eq_self]
  apply forall₂_congr
  intro frame _
  rw [decide_eq_true_eq, zero]
  exact UInt64.pos_iff_ne_zero

theorem Reconciled.keepsAll_iff {session after : Session} {reply : ResumeReply}
    (reconciled : Reconciled session after reply) (zero : reply.highestDurableFrameSeq = 0) :
    KeepsAll session after ↔ NoZeroId session.spool.files := by
  rw [← unacknowledged_zero zero]
  obtain ⟨spool, _, sent⟩ := reconciled
  constructor
  · intro keeps
    exact spool.symm.trans keeps.spool
  · intro all
    rw [all] at spool sent
    exact ⟨spool, reply, sent⟩

/-- Behind any calls, failed connections and restarts included: a resume against a receiver that
    answers 0 keeps and sends all frames if and only if none of them has the id 0, and then none is
    removed however the call ends. -/
theorem zero_reply_iff (env : Environment) (taskId : UInt64) (calls : List Call)
    (zero : ∀ reply, Offers env reply → reply.highestDurableFrameSeq = 0) :
    wp (reconnectAndResume env taskId)
      (fun done after =>
        (done = true →
          (KeepsAll (run (Call.next env taskId) calls (construct ∅ {})) after ↔
            NoZeroId (run (Call.next env taskId) calls (construct ∅ {})).spool.files)) ∧
        (NoZeroId (run (Call.next env taskId) calls (construct ∅ {})).spool.files →
          pending after.spool.files =
            pending (run (Call.next env taskId) calls (construct ∅ {})).spool.files))
      (fun _ after => NoZeroId (run (Call.next env taskId) calls (construct ∅ {})).spool.files →
        ∀ frame ∈ pending (run (Call.next env taskId) calls (construct ∅ {})).spool.files,
          frame ∈ pending after.spool.files)
      (run (Call.next env taskId) calls (construct ∅ {})) := by
  have owned : Owned (run (Call.next env taskId) calls (construct ∅ {})).spool.files :=
    run_owned calls Owned.empty
  apply (reconnectAndResume_ends owned).mono
  · rintro done after (⟨rfl, reply, offered, reconciled⟩ | ⟨rfl, untouched | rest⟩)
    · have keeps := reconciled.keepsAll_iff (zero reply offered)
      exact ⟨fun _ => keeps, fun numbered => (keeps.mpr numbered).spool⟩
    · exact ⟨Bool.noConfusion, fun _ => by rw [untouched.2]⟩
    · obtain ⟨reply, offered, _, kept⟩ := rest
      refine ⟨Bool.noConfusion, fun numbered => ?_⟩
      rw [kept, (unacknowledged_zero (zero reply offered)).mpr numbered]
  · rintro _ after (untouched | ⟨reply, offered, _, kept⟩) numbered frame member
    · rw [untouched.2]
      exact member
    · apply kept frame
      rwa [(unacknowledged_zero (zero reply offered)).mpr numbered]

/-- A receiver that has stored nothing, which can be reached from the third system call on. -/
def emptyReceiver : Environment :=
  { Environment.serving (fun _ => some ⟨1, 0⟩) fun _ => [] with
    connect := fun net => 2 < net.clock }

theorem emptyReceiver_zero (reply : ResumeReply) (offered : Offers emptyReceiver reply) :
    reply.highestDurableFrameSeq = 0 := by
  obtain ⟨net, parsed⟩ := offered
  have answer : some ⟨1, 0⟩ = some reply :=
    @Environment.serving_reply (fun _ => some ⟨1, 0⟩) (fun _ => []) net reply parsed
  rw [← Option.some.inj answer]

/-- A frame that was persisted while there was no connection. -/
theorem zero_reply_numbered :
    wp (reconnectAndResume emptyReceiver 1)
      (fun done after =>
        (done = true →
          (KeepsAll (run (Call.next emptyReceiver 1) [.sendFrame (pixel 5 1)] (construct ∅ {}))
            after ↔
            NoZeroId (run (Call.next emptyReceiver 1) [.sendFrame (pixel 5 1)]
              (construct ∅ {})).spool.files)) ∧
        (NoZeroId (run (Call.next emptyReceiver 1) [.sendFrame (pixel 5 1)]
            (construct ∅ {})).spool.files →
          pending after.spool.files = pending (run (Call.next emptyReceiver 1)
            [.sendFrame (pixel 5 1)] (construct ∅ {})).spool.files))
      (fun _ after => NoZeroId (run (Call.next emptyReceiver 1) [.sendFrame (pixel 5 1)]
          (construct ∅ {})).spool.files →
        ∀ frame ∈ pending (run (Call.next emptyReceiver 1) [.sendFrame (pixel 5 1)]
          (construct ∅ {})).spool.files, frame ∈ pending after.spool.files)
      (run (Call.next emptyReceiver 1) [.sendFrame (pixel 5 1)] (construct ∅ {})) :=
  zero_reply_iff emptyReceiver 1 _ emptyReceiver_zero

/-- The frame with the id 0 is removed from the spool and not sent. -/
theorem zero_id_deleted :
    ¬ wp (reconnectAndResume emptyReceiver 1)
      (fun done after => done = true →
        KeepsAll (run (Call.next emptyReceiver 1) [.sendFrame (pixel 0 1)] (construct ∅ {})) after)
      (fun _ _ => True)
      (run (Call.next emptyReceiver 1) [.sendFrame (pixel 0 1)] (construct ∅ {})) := by
  intro keeps
  have emptied : wp (reconnectAndResume emptyReceiver 1)
      (fun done after => done = true ∧ pending after.spool.files = []) (fun _ _ => False)
      (run (Call.next emptyReceiver 1) [.sendFrame (pixel 0 1)] (construct ∅ {})) := by
    decide +kernel
  have before : pending (run (Call.next emptyReceiver 1) [.sendFrame (pixel 0 1)]
      (construct ∅ {})).spool.files ≠ [] := by
    decide +kernel
  cases run : reconnectAndResume emptyReceiver 1
      (run (Call.next emptyReceiver 1) [.sendFrame (pixel 0 1)] (construct ∅ {})) with
  | error _ _ => exact (emptied.error run).elim
  | ok done after =>
    obtain ⟨returned, gone⟩ := emptied.ok run
    have kept := (keeps.ok run returned).spool
    exact before (kept.symm.trans gone)

end PictureReconstruct
