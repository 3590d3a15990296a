import PictureReconstruct.Network.ResumeRuns

/-! # The handshake comes first on every connection

A connection is established by `reconnectAndResume` only, which says hello, asks for a resume and
waits for the reply.  Every failure on the way closes the connection, so that a call that only
tests `isConnected` finds a connection on which the handshake is complete.

* `HandshakeFirst`: the first bytes on every connection are those of the handshake, and no part of
  a frame goes out before a reply was read.
* `Settled`: between the calls, the current connection is past its handshake.
* `handshake_first`: every run, whatever fails and whatever the peer replies.
-/

namespace PictureReconstruct

open Library.Procedure Library.Runs ProtocolV2 TcpClient ResumeSession Session

/-- What a session sends first on a connection. -/
def handshake (taskId : UInt64) : List UInt8 :=
  makeHelloMessage taskId ++ makeResumeRequestMessage taskId

/-- The packets that are part of a frame. -/
def Packet.OfFrame : Packet → Prop
  | .frameHeader _ | .chunkHeader _ | .payload _ => True
  | .hello _ | .resumeRequest _ => False

/-- A complete reply that is accepted was read on `connection`. -/
def ReplyRead (connection : Nat) (history : List Event) : Prop :=
  ∃ bytes reply, .received connection bytes ∈ history ∧ bytes.length = 28 ∧
    parseResumeReply bytes ⟨0, 0⟩ = (true, reply)

/-- A part of a frame is sent on a connection only behind a reply that was read on it. -/
def FramesFollow (history : List Event) : Prop :=
  ∀ before after connection packet accepted,
    history = before ++ .sent connection packet accepted :: after → packet.OfFrame →
    ReplyRead connection before

/-- Every connection starts with the handshake; one that has carried less is gone. -/
structure HandshakeFirst (taskId : UInt64) (net : Net) : Prop where
  first : ∀ connection, handshake taskId <+: bytesOn connection net.history ∨
    (bytesOn connection net.history <+: handshake taskId ∧
      ¬ (net.connected = true ∧ net.connection = connection))
  frames : FramesFollow net.history

/-- What holds even while a handshake is under way. -/
structure Greeted (taskId : UInt64) (net : Net) : Prop where
  frames : FramesFollow net.history
  started : ∀ c, handshake taskId <+: bytesOn c net.history ∨
    bytesOn c net.history <+: handshake taskId
  future : ∀ c, net.connection < c → bytesOn c net.history = []

/-- The handshake on the current connection is complete. -/
def Net.Resumed (taskId : UInt64) (net : Net) : Prop :=
  handshake taskId <+: bytesOn net.connection net.history ∧ ReplyRead net.connection net.history

/-- The current connection, if there is one, has completed its handshake. -/
structure Settled (taskId : UInt64) (net : Net) : Prop extends Greeted taskId net where
  resumed : net.connected = true → net.Resumed taskId

/-- The current connection has completed its handshake, or has carried `sent` so far. -/
structure UnderWay (taskId : UInt64) (sent : List UInt8) (net : Net) : Prop
    extends Greeted taskId net where
  current : net.connected = true → net.Resumed taskId ∨ bytesOn net.connection net.history = sent

section Steps

variable {env : Environment} {taskId : UInt64} {net after : Net} {history added : List Event}
  {sent : List UInt8}

/-! ## One more event -/

theorem ReplyRead.append {connection : Nat} (read : ReplyRead connection history)
    (added : List Event) : ReplyRead connection (history ++ added) := by
  obtain ⟨bytes, reply, received, parsed⟩ := read
  exact ⟨bytes, reply, List.mem_append_left _ received, parsed⟩

theorem FramesFollow.concat (follow : FramesFollow history) {event : Event}
    (last : ∀ connection packet accepted, event = .sent connection packet accepted →
      packet.OfFrame → ReplyRead connection history) : FramesFollow (history ++ [event]) := by
  intro before after connection packet accepted whole ofFrame
  cases List.eq_nil_or_concat after with
  | inl none =>
    subst none
    obtain ⟨rfl, sent⟩ := List.append_inj' whole rfl
    exact last connection packet accepted (List.singleton_inj.mp sent) ofFrame
  | inr some =>
    obtain ⟨rest, event', rfl⟩ := some
    have split : history ++ [event] =
        (before ++ .sent connection packet accepted :: rest) ++ [event'] := by simp [whole]
    exact follow before rest connection packet accepted (List.append_inj' split rfl).1 ofFrame

/-- Nothing is sent and no connection established; the current one may be lost. -/
structure Unsent (before after : Net) : Prop where
  connection : after.connection = before.connection
  connected : after.connected = true → before.connected = true
  history : ∃ added, after.history = before.history ++ added ∧
    ∀ event ∈ added, ∀ c packet accepted, event ≠ .sent c packet accepted

theorem Unsent.record (net : Net) {event : Event}
    (silent : ∀ c packet accepted, event ≠ .sent c packet accepted) :
    Unsent net (net.record event) :=
  ⟨rfl, id, [event], rfl, by simpa using silent⟩

theorem Unsent.of_ticks (ticks : Ticks net after) : Unsent net after := by
  obtain ⟨frames, _, grown⟩ := ticks.history
  refine ⟨ticks.connection, fun up => ticks.connected ▸ up, _, grown, fun event member c packet
    accepted => ?_⟩
  obtain ⟨frame, _, rfl⟩ := List.mem_map.mp member
  exact Event.noConfusion

theorem Unsent.trans {middle : Net} (first : Unsent net middle) (second : Unsent middle after) :
    Unsent net after := by
  obtain ⟨same, up, added, grown, silent⟩ := first
  obtain ⟨same', up', added', grown', silent'⟩ := second
  refine ⟨same'.trans same, up ∘ up', added ++ added', by rw [grown', grown, List.append_assoc],
    fun event member => ?_⟩
  exact (List.mem_append.mp member).elim (silent event) (silent' event)

theorem Unsent.close (net : Net) : Unsent net { net with connected := false } :=
  ⟨rfl, fun up => Bool.noConfusion up, [], by simp, by simp⟩

theorem Unsent.bytesOn (unsent : Unsent net after) (c : Nat) :
    bytesOn c after.history = PictureReconstruct.bytesOn c net.history := by
  obtain ⟨_, _, added, grown, silent⟩ := unsent
  have silent : PictureReconstruct.bytesOn c added = [] := by
    refine List.flatMap_eq_nil_iff.mpr fun event member => ?_
    cases event with
    | sent c' packet accepted => exact absurd rfl (silent _ member c' packet accepted)
    | _ => rfl
  rw [grown, bytesOn_append, silent, List.append_nil]

theorem FramesFollow.append (follow : FramesFollow history)
    (silent : ∀ event ∈ added, ∀ c packet accepted, event ≠ .sent c packet accepted) :
    FramesFollow (history ++ added) := by
  induction added using List.reverseRecOn with
  | nil => simpa using follow
  | append_singleton added event ih =>
    rw [← List.append_assoc]
    apply (ih fun event member => silent event (List.mem_append_left _ member)).concat
    intro c packet accepted sent
    exact absurd sent (silent event (by simp) c packet accepted)

theorem Greeted.unsent (greeted : Greeted taskId net) (unsent : Unsent net after) :
    Greeted taskId after := by
  obtain ⟨added, grown, silent⟩ := unsent.history
  refine ⟨grown ▸ greeted.frames.append silent, fun c => ?_, fun c later => ?_⟩
  · rw [unsent.bytesOn]
    exact greeted.started c
  · rw [unsent.bytesOn]
    exact greeted.future c (unsent.connection ▸ later)

theorem Net.Resumed.unsent (resumed : net.Resumed taskId) (unsent : Unsent net after) :
    after.Resumed taskId := by
  obtain ⟨added, grown, _⟩ := unsent.history
  constructor
  · rw [unsent.bytesOn, unsent.connection]
    exact resumed.1
  · rw [grown, unsent.connection]
    exact resumed.2.append added

theorem Settled.unsent (settled : Settled taskId net) (unsent : Unsent net after) :
    Settled taskId after :=
  { settled.toGreeted.unsent unsent with
    resumed := fun up => (settled.resumed (unsent.connected up)).unsent unsent }

theorem UnderWay.unsent (underWay : UnderWay taskId sent net) (unsent : Unsent net after) :
    UnderWay taskId sent after :=
  { underWay.toGreeted.unsent unsent with
    current := fun up => (underWay.current (unsent.connected up)).imp
      (fun resumed => resumed.unsent unsent)
      (fun same => by rw [unsent.bytesOn, unsent.connection, same]) }

/-- A closed connection has nothing to complete. -/
theorem Greeted.close (greeted : Greeted taskId net) :
    Settled taskId { net with connected := false } :=
  { greeted.unsent (.close net) with resumed := fun up => Bool.noConfusion up }

/-- What holds when a procedure does not return: a process that was killed loses its
    connection. -/
def LeftSettled (taskId : UInt64) (cause : Abort) (net : Net) : Prop :=
  (cause = .threw → Settled taskId net) ∧ Greeted taskId net

theorem Settled.left (settled : Settled taskId net) (cause : Abort) :
    LeftSettled taskId cause net :=
  ⟨fun _ => settled, settled.toGreeted⟩

theorem Greeted.killed (greeted : Greeted taskId net) : LeftSettled taskId .died net :=
  ⟨fun absurd => Abort.noConfusion absurd, greeted⟩

/-! ## One more packet -/

theorem bytesOn_sent (c : Nat) (net : Net) (packet : Packet) (accepted : Nat) :
    bytesOn c (net.record (.sent net.connection packet accepted)).history =
      bytesOn c net.history ++
        if net.connection = c then packet.bytes.take accepted else [] := by
  simp [Net.record, bytesOn, Event.bytesOn]

/-- A packet, whole or in part, that goes on with the handshake or comes behind it. -/
theorem Greeted.sends (greeted : Greeted taskId net) {packet : Packet} {accepted : Nat}
    (frame : packet.OfFrame → ReplyRead net.connection net.history)
    (start : handshake taskId <+:
        bytesOn net.connection net.history ++ packet.bytes.take accepted ∨
      bytesOn net.connection net.history ++ packet.bytes.take accepted <+: handshake taskId) :
    Greeted taskId (net.record (.sent net.connection packet accepted)) where
  frames := greeted.frames.concat fun _ _ _ same ofFrame => by
    obtain ⟨rfl, rfl, rfl⟩ := Event.sent.inj same
    exact frame ofFrame
  started c := by
    rw [bytesOn_sent]
    split
    · next same => exact same ▸ start
    · simpa using greeted.started c
  future c later := by
    have other : net.connection ≠ c := Nat.ne_of_lt later
    rw [bytesOn_sent, if_neg other, List.append_nil]
    exact greeted.future c later

theorem Net.Resumed.sends (resumed : net.Resumed taskId) (packet : Packet) (accepted : Nat) :
    (net.record (.sent net.connection packet accepted)).Resumed taskId := by
  refine ⟨?_, resumed.2.append _⟩
  change handshake taskId <+: bytesOn net.connection _
  rw [bytesOn_sent]
  exact resumed.1.trans (List.prefix_append _ _)

theorem Settled.sends (settled : Settled taskId net) (up : net.connected = true) (packet : Packet)
    (accepted : Nat) : Settled taskId (net.record (.sent net.connection packet accepted)) :=
  have resumed := settled.resumed up
  { settled.toGreeted.sends (fun _ => resumed.2)
      (.inl (resumed.1.trans (List.prefix_append _ _))) with
    resumed := fun _ => resumed.sends packet accepted }

theorem sendAll_settled (packet : Packet) (settled : Settled taskId net) :
    wp (sendAll env packet) (fun _ => Settled taskId) (fun _ => Settled taskId) net := by
  refine wp_sendAll env (fun _ => settled) (fun after _ ticks _ => settled.unsent (.of_ticks ticks))
    (fun after accepted up ticks _ _ => ?_) (fun after up ticks _ => ?_)
  · have ticked := (settled.unsent (.of_ticks ticks)).sends (ticks.connected ▸ up) packet accepted
    rw [ticks.connection] at ticked
    exact ticked.toGreeted.close
  · have ticked := (settled.unsent (.of_ticks ticks)).sends (ticks.connected ▸ up) packet
      packet.bytes.length
    rwa [ticks.connection] at ticked

/-- A packet of the handshake. -/
theorem sendAll_underWay {packet : Packet} (ofFrame : ¬ packet.OfFrame)
    (next : sent ++ packet.bytes <+: handshake taskId) (underWay : UnderWay taskId sent net) :
    wp (sendAll env packet)
      (fun done after => if done then UnderWay taskId (sent ++ packet.bytes) after
        else Settled taskId after)
      (LeftSettled taskId) net := by
  have sending : ∀ after accepted, net.connected = true → Ticks net after →
      UnderWay taskId (sent ++ packet.bytes.take accepted)
        (after.record (.sent net.connection packet accepted)) := by
    intro after accepted up ticks
    have ticked := underWay.unsent (.of_ticks ticks)
    rw [← ticks.connection]
    cases ticked.current (ticks.connected ▸ up) with
    | inl resumed =>
      exact { ticked.toGreeted.sends (fun frame => absurd frame ofFrame)
          (.inl (resumed.1.trans (List.prefix_append _ _))) with
        current := fun _ => .inl (resumed.sends packet accepted) }
    | inr same =>
      have part : sent ++ packet.bytes.take accepted <+: sent ++ packet.bytes :=
        (List.prefix_append_right_inj sent).mpr (List.take_prefix _ _)
      refine { ticked.toGreeted.sends (fun frame => absurd frame ofFrame)
          (.inr (by rw [same]; exact part.trans next)) with
        current := fun _ => .inr ?_ }
      change bytesOn after.connection _ = _
      rw [bytesOn_sent, if_pos rfl, same]
  refine wp_sendAll env (fun closed => ?_)
    (fun after _ ticks _ => (underWay.toGreeted.unsent (.of_ticks ticks)).killed)
    (fun after accepted up ticks _ _ => ?_) (fun after up ticks _ => ?_)
  · exact { underWay.toGreeted with resumed := fun up => absurd up (by simp [closed]) }
  · exact (sending after accepted up ticks).toGreeted.close
  · simpa using sending after packet.bytes.length up ticks

/-! ## The procedures -/

variable {session : Session} {frame : RawFrame}

theorem rawFrameSender_settled {fragmentSize : UInt32} (settled : Settled taskId net) :
    wp (RawFrameSender.sendFrame env fragmentSize frame) (fun _ => Settled taskId)
      (fun _ => Settled taskId) net := by
  simp only [RawFrameSender.sendFrame, wp_bind, wp_ite, wp_pure]
  refine ⟨fun _ => settled, fun _ => ⟨fun _ => settled, fun _ => ?_⟩⟩
  refine (sendAll_settled _ settled).post (fun sent after settled => ?_)
  cases sent with
  | false => exact settled
  | true =>
    simp only [Bool.not_true, Bool.false_eq_true, if_false, wp_bind]
    refine wp_allM (fun _ => Settled taskId) (fun middle settled => ?_)
      (fun index _ middle settled => ?_) _ _ settled
    · exact settled.unsent (.record middle fun _ _ _ => Event.noConfusion)
    · -- a chunk header, then its payload
      simp only [RawFrameSender.sendFragment, wp_bind]
      refine (sendAll_settled _ settled).post (fun sent after settled => ?_)
      cases sent with
      | false => exact settled
      | true =>
        refine (sendAll_settled _ settled).post (fun sent after settled => ?_)
        cases sent <;> exact settled

theorem persist_unsent : wp (persist env frame) (fun _ after => Unsent session.net after.net)
    (fun _ after => Unsent session.net after.net) session := by
  have ticked : Unsent session.net (session.net.tick env) := .of_ticks (Ticks.tick env session.net)
  exact wp_persist env (fun _ => ticked) (fun _ => ticked) (fun _ _ _ => ticked)
    (fun _ _ _ => ticked)
    (fun _ _ _ => ticked.trans (.record _ fun _ _ _ => Event.noConfusion))

theorem prune_unsent {reply : ResumeReply} : wp (prune env reply)
    (fun _ after => Unsent session.net after.net) (fun _ after => Unsent session.net after.net)
    session := by
  have accepted : Unsent session.net (accepted reply session).net :=
    .record _ fun _ _ _ => Event.noConfusion
  simp only [prune, wp_bind, wp_modify]
  refine wp_loadPendingFrames (fun _ => accepted) fun _ => ?_
  refine wp_forM (fun _ s => Unsent session.net s.net) (fun _ unsent => unsent)
    (fun pending _ s unsent => ?_) _ _ accepted
  simp only [wp_bind, wp_get, wp_ite, wp_pure, removeFrame, onNet, wp_zoom, wp_systemCall_iff,
    wp_modify]
  have ticked := unsent.trans (.of_ticks (Ticks.tick env s.net))
  exact ⟨fun _ => ⟨fun _ => ticked, fun _ => ticked⟩, fun _ => unsent⟩

theorem recvAll_unsent {size : Nat} : wp (recvAll env size)
    (fun bytes after => Unsent net after ∧ ∀ given ∈ bytes, given.length = size ∧
      .received after.connection given ∈ after.history)
    (fun cause after => cause = .died ∧ Unsent net after) net := by
  refine wp_recvAll env (fun _ => ⟨⟨rfl, id, [], by simp, by simp⟩, by simp⟩)
    (fun after _ ticks _ => ⟨rfl, .of_ticks ticks⟩) (fun after bytes _ ticks _ => ?_)
  have recorded : Unsent net (after.record (.received net.connection bytes)) :=
    (Unsent.of_ticks ticks).trans (.record after fun _ _ _ => Event.noConfusion)
  refine ⟨fun _ => ⟨recorded.trans (.close _), by simp⟩, fun whole => ⟨recorded, ?_⟩⟩
  rintro _ ⟨⟩
  exact ⟨whole, by simp [Net.record, ticks.connection]⟩

theorem receiveReply_settled (settled : Settled taskId net) :
    wp (receiveReply env taskId) (fun _ => Settled taskId) (LeftSettled taskId) net := by
  simp only [receiveReply, wp_bind]
  refine (sendAll_settled _ settled).mono (fun sent middle settled => ?_)
    (fun cause _ settled => settled.left cause)
  cases sent with
  | false => exact settled
  | true =>
    simp only [Bool.not_true, Bool.false_eq_true, if_false, wp_bind]
    refine recvAll_unsent.mono (fun bytes after received => ?_)
      (fun cause _ ended => (settled.unsent ended.2).left cause)
    cases bytes with
    | none => exact settled.unsent received.1
    | some bytes => exact settled.unsent received.1

/-- The request and the reply on a connection that has carried the hello. -/
theorem receiveReply_underWay (underWay : UnderWay taskId (makeHelloMessage taskId) net) :
    wp (receiveReply env taskId)
      (fun reply after => if reply.isSome then Settled taskId after else Greeted taskId after)
      (LeftSettled taskId) net := by
  simp only [receiveReply, wp_bind]
  refine (sendAll_underWay id (List.prefix_refl _) underWay).post (fun sent middle requested => ?_)
  cases sent with
  | false => exact requested.toGreeted
  | true =>
    simp only [Bool.not_true, Bool.false_eq_true, if_false, wp_bind, if_true] at requested ⊢
    refine recvAll_unsent.mono (fun bytes after received => ?_) (fun cause _ ended => ?_)
    · obtain ⟨unsent, whole⟩ := received
      have answered := requested.unsent unsent
      cases bytes with
      | none => exact answered.toGreeted
      | some bytes =>
        simp only [wp_pure]
        generalize result : parseResumeReply bytes ⟨0, 0⟩ = outcome
        obtain ⟨_ | _, reply⟩ := outcome
        · exact answered.toGreeted
        · -- the reply completes the handshake
          obtain ⟨length, inHistory⟩ := whole bytes rfl
          refine { answered.toGreeted with resumed := fun up => ?_ }
          refine ⟨?_, bytes, reply, inHistory, length, result⟩
          cases answered.current up with
          | inl resumed => exact resumed.1
          | inr same => exact same ▸ List.prefix_refl _
    · rw [ended.1]
      exact (requested.unsent ended.2).toGreeted.killed

theorem requestResume_settled (settled : Settled taskId session.net) :
    wp (requestResume env taskId) (fun _ after => Settled taskId after.net)
      (fun cause after => LeftSettled taskId cause after.net) session := by
  rw [wp_requestResume_iff]
  simp only [onNet, wp_zoom]
  refine (receiveReply_settled settled).post (fun reply middle settled => ?_)
  cases reply with
  | none => exact settled
  | some reply =>
    exact prune_unsent.mono (fun _ _ unsent => settled.unsent unsent)
      (fun cause _ unsent => (settled.unsent unsent).left cause)

theorem requestResume_underWay
    (underWay : UnderWay taskId (makeHelloMessage taskId) session.net) :
    wp (requestResume env taskId)
      (fun done after => if done then Settled taskId after.net else Greeted taskId after.net)
      (fun cause after => LeftSettled taskId cause after.net) session := by
  rw [wp_requestResume_iff]
  simp only [onNet, wp_zoom]
  refine (receiveReply_underWay underWay).post (fun reply middle answered => ?_)
  cases reply with
  | none => exact answered
  | some reply =>
    simp only [Option.isSome_some, if_true] at answered
    exact prune_unsent.mono (fun _ _ unsent => answered.unsent unsent)
      (fun cause _ unsent => (answered.unsent unsent).left cause)

theorem replayPendingFrames_settled (settled : Settled taskId session.net) :
    wp (replayPendingFrames env) (fun _ after => Settled taskId after.net)
      (fun cause after => LeftSettled taskId cause after.net) session := by
  simp only [replayPendingFrames, wp_bind]
  refine wp_loadPendingFrames (fun _ => settled.left _) fun _ => ?_
  rw [wp_ite]
  refine ⟨fun _ => settled, fun _ => ?_⟩
  refine wp_allM (fun _ s => Settled taskId s.net) (fun _ settled => settled)
    (fun frame _ s settled => ?_) _ _ settled
  simp only [onNet, wp_zoom]
  refine (rawFrameSender_settled settled).mono (fun sent after settled => ?_)
    (fun cause _ settled => settled.left cause)
  cases sent <;> exact settled

theorem connectToServer_underWay (settled : Settled taskId net) :
    wp (connectToServer env)
      (fun up after => if up then UnderWay taskId [] after else Settled taskId after)
      (LeftSettled taskId) net := by
  have ticked : ∀ {after}, Ticks net after → Settled taskId after := fun ticks =>
    settled.unsent (.of_ticks ticks)
  refine wp_connectToServer env (fun up => ?_) (fun _ _ ticks _ => (ticked ticks).left _)
    (fun _ _ ticks _ => ticked ticks) (fun after _ ticks _ => ?_)
  · exact { settled.toGreeted with current := fun _ => .inl (settled.resumed up) }
  · have earlier := (ticked ticks).toGreeted
    have recorded : ∀ c, bytesOn c (after.history ++ [.connected (net.connection + 1)]) =
        bytesOn c after.history := fun c => by simp [bytesOn, Event.bytesOn]
    have unused : ∀ c, net.connection < c →
        bytesOn c (after.history ++ [.connected (net.connection + 1)]) = [] := fun c later => by
      rw [recorded, earlier.future c (ticks.connection ▸ later)]
    exact {
      frames := earlier.frames.concat fun _ _ _ absurd => Event.noConfusion absurd
      started := fun c => by
        change _ <+: bytesOn c (after.history ++ [_]) ∨ bytesOn c (after.history ++ [_]) <+: _
        rw [recorded]
        exact earlier.started c
      future := fun c later => unused c (Nat.lt_of_succ_lt later)
      current := fun _ => .inr (unused _ (Nat.lt_succ_self _)) }

theorem reconnectAndResume_settled (settled : Settled taskId session.net) :
    wp (reconnectAndResume env taskId) (fun _ after => Settled taskId after.net)
      (fun cause after => LeftSettled taskId cause after.net) session := by
  apply wp_reconnectAndResume_steps env taskId (UnderWay taskId [])
    (UnderWay taskId (Packet.hello taskId).bytes) (fun after => Settled taskId after.net)
  · exact connectToServer_underWay settled
  · intro connected established
    have start : [] ++ (Packet.hello taskId).bytes <+: handshake taskId :=
      List.prefix_append (makeHelloMessage taskId) (makeResumeRequestMessage taskId)
    apply (sendAll_underWay id start established).post
    intro sent greeted hello
    cases sent with
    | false => exact hello.unsent (.close greeted)
    | true => exact hello
  · intro greeted hello
    apply (@requestResume_underWay env taskId
      { session with state := .handshaking, net := greeted } hello).post
    intro resumed answered settled
    cases resumed with
    | false =>
      -- whatever went wrong, the connection is closed
      exact settled.close
    | true => exact settled
  · intro answered settled
    apply (@replayPendingFrames_settled env taskId { answered with state := .recovering }
      settled).post
    intro replayed after settled
    exact settled

theorem sendFrame_settled (settled : Settled taskId session.net) :
    wp (ResumeSession.sendFrame env taskId frame) (fun _ after => Settled taskId after.net)
      (fun cause after => LeftSettled taskId cause after.net) session := by
  have direct : ∀ {middle : Session}, Settled taskId middle.net →
      wp (transmit env frame) (fun _ last => Settled taskId last.net)
        (fun cause last => LeftSettled taskId cause last.net) middle := by
    intro middle settled
    simp only [transmit, setState, closeConnection, onNet, wp_bind, wp_zoom]
    refine (rawFrameSender_settled settled).mono (fun sent after settled => ?_)
      (fun cause _ settled => settled.left cause)
    cases sent with
    | false => exact settled.unsent (.close after)
    | true =>
      simp only [Bool.not_true, Bool.false_eq_true, if_false, wp_bind, wp_zoom, wp_systemCall_iff,
        wp_pure]
      have ticked := settled.unsent (.of_ticks (Ticks.tick env after))
      exact ⟨fun _ => ticked.left _, fun _ => ticked⟩
  rw [wp_sendFrame_iff]
  have preparing : wp (prepare env taskId frame) (fun _ middle => Settled taskId middle.net)
      (fun cause middle => LeftSettled taskId cause middle.net) session := by
    refine wp_prepare env taskId (persist_unsent.mono (fun persisted middle unsent => ?_)
      (fun cause _ unsent => (settled.unsent unsent).left cause))
    have settled := settled.unsent unsent
    exact ⟨fun _ => settled, fun _ _ => settled, fun _ _ => reconnectAndResume_settled settled⟩
  refine preparing.post (fun reached middle settled => ?_)
  cases reached with
  | false => exact settled
  | true =>
    refine (direct settled).post (fun sent last settled => ?_)
    cases sent <;> exact settled

/-- One call, or a restart. -/
theorem next_settled (call : Call) (settled : Settled taskId session.net) :
    Settled taskId (call.next env taskId session).net := by
  have ends : wp (call.perform env taskId) (fun _ after => Settled taskId after.net)
      (fun cause after => LeftSettled taskId cause after.net) session := by
    cases call with
    | start => exact reconnectAndResume_settled settled
    | sendFrame frame => exact sendFrame_settled settled
    | reconnectAndResume => exact reconnectAndResume_settled settled
    | requestResume => exact requestResume_settled settled
    | replayPendingFrames => exact replayPendingFrames_settled settled
    | setMaxSpoolBytes maxBytes => exact settled
    | restart => exact settled.toGreeted.close
  exact Call.next_of_abort (I := fun after => Settled taskId after.net)
    (ends.mono (fun _ _ settled => settled) fun _ _ left => ⟨left.1, fun _ => left.2.close⟩)

end Steps

theorem run_settled (env : Environment) (taskId : UInt64) (files : Directory)
    (calls : List Call) :
    Settled taskId (run (Call.next env taskId) calls (construct files {})).net := by
  have start : Settled taskId {} :=
    ⟨⟨fun before after _ _ _ whole => by simp at whole, fun _ => .inr List.nil_prefix,
      fun _ _ => rfl⟩, fun up => Bool.noConfusion up⟩
  exact run_keeps (I := fun session : Session => Settled taskId session.net)
    (fun call _ settled => next_settled call settled) calls _ start

/-- In every run, whatever fails, whenever the process is killed and whatever the peer replies, each
    connection starts with the handshake and carries parts of frames only behind its reply. -/
theorem handshake_first (env : Environment) (taskId : UInt64) (files : Directory)
    (calls : List Call) :
    HandshakeFirst taskId (run (Call.next env taskId) calls (construct files {})).net := by
  have settled := run_settled env taskId files calls
  refine ⟨fun connection => ?_, settled.frames⟩
  cases settled.started connection with
  | inl complete => exact .inl complete
  | inr part =>
    by_cases live : (run (Call.next env taskId) calls (construct files {})).net.connected = true ∧
        (run (Call.next env taskId) calls (construct files {})).net.connection = connection
    · exact .inl (live.2 ▸ (settled.resumed live.1).1)
    · exact .inr ⟨part, live⟩

end PictureReconstruct
