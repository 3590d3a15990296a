import PictureReconstruct.Network.ResumeRuns
import PictureReconstruct.Network.StreamRoundTrip

/-! # When a session recovers from a full spool

`sendFrame` persists before it reconnects, and only the handshake of a reconnect frees space.
So a frame that the spool refuses is refused for good, whatever the receiver could confirm.

* `Cooperative`: from now on nothing fails, and the receiver stores and confirms what it gets.
* `sendFrame_cooperative`: a frame that the spool accepts is sent at once.
* `full_spool_recovers_iff`: in any reachable state some number of attempts succeeds exactly when
  the spool accepts the frame in this very state.
* `unconfirmed_spool_wedges`: a reachable state in which it does not.
-/

namespace PictureReconstruct

open Library.Procedure Library.Runs ProtocolV2 TcpClient SenderSpool ResumeSession Session

/-- The highest id among the frames that the receiver has stored. -/
def highestStored (net : Net) : UInt64 :=
  (net.history.filterMap fun
    | .stored frame => some frame.frameId
    | _ => none).foldl max 0

/-- Every system call succeeds; the receiver stores every frame that it gets and answers a request
    with the highest id that it has stored. -/
structure Cooperative (env : Environment) (taskId : UInt64) : Prop where
  lives : ∀ net, env.dies net = false
  connects : ∀ net, env.connect net = true
  sends : ∀ net packet sent, sent < packet.bytes.length → 0 < env.send net packet sent
  stores : ∀ net frame, net.carried frame = true → frame ∈ env.stores net
  answers : ∀ net received, received < 28 → env.recv net received ≠ [] ∧
    env.recv net received <+:
      (makeResumeReplyMessage taskId (highestStored net)).drop received
  disk : ∀ net, env.disk net = .none

/-- `n` consecutive calls of `sendFrame(frame)`, and what the last one returns. -/
def sendTimes (env : Environment) (taskId : UInt64) (frame : RawFrame) : Nat → Procedure Bool
  | 0 => return false
  | n + 1 => do
    let _ ← sendTimes env taskId frame n
    ResumeSession.sendFrame env taskId frame

section Cooperation

variable {env : Environment} {taskId : UInt64} (cooperative : Cooperative env taskId)
  {session : Session} {frame : RawFrame}

include cooperative

theorem Cooperative.delivers : env.Delivers := ⟨cooperative.lives, cooperative.sends⟩

/-! ## What does not fail -/

theorem connectToServer_cooperative {net : Net} :
    wp (connectToServer env) (fun up after => up = true ∧ after.connected = true)
      (fun _ _ => False) net :=
  wp_connectToServer env (fun live => ⟨rfl, live⟩)
    (fun after _ _ dies => absurd ((cooperative.lives after).symm.trans dies) Bool.noConfusion)
    (fun after _ _ refused =>
      absurd ((cooperative.connects after).symm.trans refused) Bool.noConfusion)
    (fun _ _ _ _ => ⟨rfl, rfl⟩)

theorem receiveReply_cooperative {net : Net} (live : net.connected = true) :
    wp (receiveReply env taskId)
      (fun reply after => reply.isSome = true ∧ after.connected = true) (fun _ _ => False) net := by
  simp only [receiveReply, wp_bind]
  apply (sendAll_delivers cooperative.delivers (.resumeRequest taskId) live).post
  rintro _ asked ⟨rfl, request⟩
  simp only [Bool.not_true, Bool.false_eq_true, if_false, wp_bind]
  refine wp_recvAll env (fun closed => ?_)
    (fun after _ _ dies => absurd ((cooperative.lives after).symm.trans dies) Bool.noConfusion)
    (fun after bytes live ticks same => ?_)
  · exact absurd (request.connected.symm.trans closed) Bool.noConfusion
  · have whole : bytes = makeResumeReplyMessage taskId (highestStored after) := by
      have delivered := recvLoop_delivers (env.recv after)
        (makeResumeReplyMessage taskId (highestStored after)) 28 []
        (fun n inside => cooperative.answers after n (by simpa using inside)) List.nil_prefix
        (by simp)
      rw [makeResumeReplyMessage_length] at delivered
      exact same.trans delivered
    refine ⟨fun short => ?_, fun _ => ?_⟩
    · rw [whole, makeResumeReplyMessage_length] at short
      omega
    · have parsed := parseResumeReply_make taskId (highestStored after) ⟨0, 0⟩ []
      rw [List.append_nil] at parsed
      simp only [whole, parsed, if_true, wp_pure]
      exact ⟨rfl, by simpa [Net.record, ticks.connected] using live⟩

theorem prune_cooperative (owned : Owned session.spool.files) (reply : ResumeReply) :
    wp (prune env reply)
      (fun _ after => Owned after.spool.files ∧ after.net.connected = session.net.connected)
      (fun _ _ => False) session :=
  wp_prune env (fun unread => absurd owned.loads unread)
    (fun _ net _ _ _ dies => absurd ((cooperative.lives net).symm.trans dies) Bool.noConfusion)
    (fun _ _ _ connected => ⟨owned.removeAll _, connected⟩)

theorem requestResume_cooperative (owned : Owned session.spool.files)
    (live : session.net.connected = true) :
    wp (requestResume env taskId)
      (fun done after => done = true ∧ Owned after.spool.files ∧ after.net.connected = true)
      (fun _ _ => False) session := by
  rw [wp_requestResume_iff]
  simp only [onNet, wp_zoom]
  apply (receiveReply_cooperative cooperative live).post
  rintro reply answered ⟨accepted, live⟩
  cases reply with
  | none => exact absurd accepted Bool.noConfusion
  | some reply =>
    have pruning : wp (prune env reply)
        (fun _ after => Owned after.spool.files ∧ after.net.connected = answered.connected)
        (fun _ _ => False) { session with net := answered } :=
      @prune_cooperative _ _ cooperative { session with net := answered } owned reply
    exact pruning.post (fun _ _ pruned => ⟨trivial, pruned.1, pruned.2.trans live⟩)

theorem replayPendingFrames_cooperative (owned : Owned session.spool.files)
    (live : session.net.connected = true) :
    wp (replayPendingFrames env) (fun done after => done = true ∧ after.net.connected = true)
      (fun _ _ => False) session := by
  simp only [replayPendingFrames, wp_bind]
  refine wp_loadPendingFrames (fun unread => absurd owned.loads unread) fun _ => ?_
  rw [wp_ite]
  refine ⟨fun _ => ⟨rfl, live⟩, fun _ => ?_⟩
  refine wp_allM
    (fun remaining s => (∀ frame ∈ remaining, frame.empty = false) ∧ s.net.connected = true)
    (fun s loop => ⟨rfl, loop.2⟩) (fun frame remaining s loop => ?_) _ _
    ⟨fun frame member => (owned.pending member).1, live⟩
  simp only [onNet, wp_zoom]
  apply (sendFrame_delivers cooperative.delivers (loop.1 frame List.mem_cons_self) loop.2).post
  rintro _ after ⟨rfl, delivered⟩
  exact ⟨fun other member => loop.1 other (List.mem_cons_of_mem _ member), delivered.connected⟩

theorem reconnectAndResume_cooperative (owned : Owned session.spool.files) :
    wp (reconnectAndResume env taskId) (fun done after => done = true ∧ after.net.connected = true)
      (fun _ _ => False) session := by
  apply wp_reconnectAndResume_steps env taskId (fun net => net.connected = true)
    (fun net => net.connected = true)
    fun after => Owned after.spool.files ∧ after.net.connected = true
  · apply (connectToServer_cooperative cooperative).post
    rintro _ connected ⟨rfl, live⟩
    exact live
  · intro connected live
    apply (sendAll_delivers cooperative.delivers (.hello taskId) live).post
    rintro _ greeted ⟨rfl, hello⟩
    exact hello.connected
  · intro greeted live
    refine wp.post (requestResume_cooperative cooperative owned live) ?_
    rintro _ pruned ⟨rfl, owned, live⟩
    exact ⟨owned, live⟩
  · rintro pruned ⟨owned, live⟩
    refine wp.post (replayPendingFrames_cooperative cooperative owned live) ?_
    rintro _ replayed ⟨rfl, live⟩
    exact ⟨rfl, live⟩

/-! ## `sendFrame` -/

/-- A frame that the spool accepts is sent by the first attempt. -/
theorem sendFrame_cooperative (owned : Owned session.spool.files) (filled : frame.empty = false)
    (room : session.spool.canPersist (requiredBytes frame) = true) :
    wp (ResumeSession.sendFrame env taskId frame) (fun sent _ => sent = true) (fun _ _ => False)
      session := by
  have persisting : wp (persist env frame)
      (fun persisted middle => persisted = true ∧ Owned middle.spool.files) (fun _ _ => False)
      session := by
    have sound := cooperative.disk (session.net.tick env)
    refine wp_persist env (fun dies => ?_) (fun refused => ?_) (fun _ _ fault => ?_)
      (fun _ _ fault => ?_) (fun _ _ _ => ⟨rfl, owned.landed filled _⟩)
    · exact absurd ((cooperative.lives _).symm.trans dies) Bool.noConfusion
    · rcases refused with isEmpty | full | fault
      · exact absurd (filled.symm.trans isEmpty) Bool.noConfusion
      · exact absurd (room.symm.trans full) Bool.noConfusion
      · exact absurd (sound.symm.trans fault) (by simp)
    · exact absurd (sound.symm.trans fault) (by simp)
    · exact absurd (sound.symm.trans fault) (by simp)
  have preparing : wp (prepare env taskId frame)
      (fun reached middle => reached = true ∧ middle.net.connected = true) (fun _ _ => False)
      session := by
    refine wp_prepare env taskId (persisting.post ?_)
    rintro _ middle ⟨rfl, owned⟩
    exact ⟨fun absurd => Bool.noConfusion absurd, fun _ live => ⟨rfl, live⟩, fun _ _ =>
      reconnectAndResume_cooperative cooperative owned⟩
  rw [wp_sendFrame_iff]
  apply preparing.post
  rintro _ middle ⟨rfl, live⟩
  simp only [if_true, transmit, wp_bind, onNet, wp_zoom]
  apply (sendFrame_delivers cooperative.delivers filled live).post
  rintro _ after ⟨rfl, _⟩
  simp only [Bool.not_true, Bool.false_eq_true, if_false, wp_bind, wp_zoom, wp_systemCall_iff,
    wp_pure, if_true, and_true, implies_true]
  exact fun dies => absurd ((cooperative.lives _).symm.trans dies) Bool.noConfusion

/-- A frame that the spool refuses is refused again, and nothing changes in the spool. -/
theorem sendFrame_refused
    (refused : frame.empty = true ∨ session.spool.canPersist (requiredBytes frame) = false) :
    wp (ResumeSession.sendFrame env taskId frame)
      (fun sent after => sent = false ∧ after.spool = session.spool) (fun _ _ => False)
      session := by
  have persisting : wp (persist env frame)
      (fun persisted middle => persisted = false ∧ middle.spool = session.spool) (fun _ _ => False)
      session := by
    have filled : frame.empty = false →
        session.spool.canPersist (requiredBytes frame) = false := fun filled =>
      refused.resolve_left (by simp [filled])
    have sound := cooperative.disk (session.net.tick env)
    refine wp_persist env (fun dies => ?_) (fun _ => ⟨rfl, rfl⟩) (fun _ _ fault => ?_)
      (fun _ _ fault => ?_) (fun pending room _ => ?_)
    · exact absurd ((cooperative.lives _).symm.trans dies) Bool.noConfusion
    · exact absurd (sound.symm.trans fault) (by simp)
    · exact absurd (sound.symm.trans fault) (by simp)
    · exact absurd (room.symm.trans (filled pending)) Bool.noConfusion
  rw [wp_sendFrame_iff]
  refine wp_prepare env taskId (persisting.post ?_)
  rintro _ middle ⟨rfl, same⟩
  exact ⟨fun _ => ⟨rfl, same⟩, fun absurd => Bool.noConfusion absurd,
    fun absurd => Bool.noConfusion absurd⟩

/-- No number of attempts helps. -/
theorem sendTimes_refused
    (refused : frame.empty = true ∨ session.spool.canPersist (requiredBytes frame) = false)
    (n : Nat) :
    wp (sendTimes env taskId frame n)
      (fun sent after => sent = false ∧ after.spool = session.spool) (fun _ _ => False)
      session := by
  induction n with
  | zero => exact ⟨rfl, rfl⟩
  | succ n ih =>
    simp only [sendTimes, wp_bind]
    apply ih.post
    rintro _ middle ⟨_, same⟩
    rw [← same] at refused
    exact (sendFrame_refused cooperative refused).post (fun _ _ last => ⟨last.1, last.2.trans same⟩)

end Cooperation

/-- From any state that a run can reach, under whatever failures, a cooperative network makes some
    number of attempts succeed exactly when the frame has pixels and the spool accepts it as it
    stands. -/
theorem full_spool_recovers_iff (env : Environment) (taskId : UInt64) (files : Directory)
    (owned : Owned files) (calls : List Call) (env' : Environment)
    (cooperative : Cooperative env' taskId) (frame : RawFrame) :
    (∃ n after, sendTimes env' taskId frame n
        (run (Call.next env taskId) calls (construct files {})) = .ok true after) ↔
      frame.empty = false ∧
        (run (Call.next env taskId) calls (construct files {})).spool.canPersist
          (requiredBytes frame) = true := by
  generalize reached : run (Call.next env taskId) calls (construct files {}) = session
  have own : Owned session.spool.files := by
    rw [← reached]
    exact run_owned calls owned
  constructor
  · rintro ⟨n, after, sent⟩
    -- the refusal leaves the spool as it is, so it repeats
    by_contra refused
    rw [not_and_or, Bool.not_eq_false, Bool.not_eq_true] at refused
    exact Bool.noConfusion ((sendTimes_refused cooperative refused n).ok sent).1
  · rintro ⟨filled, room⟩
    -- one attempt is enough
    have once : wp (sendTimes env' taskId frame 1) (fun sent _ => sent = true) (fun _ _ => False)
        session := sendFrame_cooperative cooperative own filled room
    cases result : sendTimes env' taskId frame 1 session with
    | error _ _ => exact (once.error result).elim
    | ok sent after => exact ⟨1, after, by rw [result, once.ok result]⟩

/-- A peer that stores and confirms all it gets. -/
def confirming (taskId : UInt64) : Environment :=
  .serving (fun net => some ⟨taskId, highestStored net⟩) Net.frames

theorem confirming_cooperative (taskId : UInt64) : Cooperative (confirming taskId) taskId where
  lives _ := rfl
  connects _ := rfl
  sends _ packet sent inside := Nat.zero_lt_of_lt inside
  stores net frame carried := by
    obtain ⟨event, member, sent⟩ := List.any_eq_true.mp carried
    refine List.mem_filterMap.mpr ⟨event, member, ?_⟩
    split at sent
    · exact congrArg some (of_decide_eq_true sent)
    · exact absurd sent Bool.noConfusion
  answers net received inside :=
    ⟨by simpa [confirming, Environment.serving] using inside, List.prefix_refl _⟩
  disk _ := rfl

/-- The same peer, not reachable. -/
def unreachable (taskId : UInt64) : Environment :=
  { confirming taskId with connect := fun _ => false }

/-- One attempt without a connection leaves room for the next one. -/
theorem full_spool_recovers_once :
    ∃ n after, sendTimes (confirming 1) 1 (pixel 5 1) n
      (run (Call.next (unreachable 1) 1) [.setMaxSpoolBytes 100, .sendFrame (pixel 5 1)]
        (construct ∅ {})) = .ok true after :=
  (full_spool_recovers_iff (unreachable 1) 1 ∅ .empty
    [.setMaxSpoolBytes 100, .sendFrame (pixel 5 1)] (confirming 1) (confirming_cooperative 1)
    (pixel 5 1)).mpr ⟨rfl, by decide +kernel⟩

/-- Two attempts without a connection count the 41 bytes of the frame twice; a third does not fit
    into 100 bytes, and no reply is ever asked for again. -/
theorem unconfirmed_spool_wedges :
    Cooperative (confirming 1) 1 ∧ requiredBytes (pixel 5 1) ≤ 100 ∧
      ∀ n after, sendTimes (confirming 1) 1 (pixel 5 1) n
        (run (Call.next (unreachable 1) 1)
          [.setMaxSpoolBytes 100, .sendFrame (pixel 5 1), .sendFrame (pixel 5 1)]
          (construct ∅ {})) ≠ .ok true after := by
  refine ⟨confirming_cooperative 1, by decide, fun n after sent => ?_⟩
  have full : (run (Call.next (unreachable 1) 1)
      [.setMaxSpoolBytes 100, .sendFrame (pixel 5 1), .sendFrame (pixel 5 1)]
      (construct ∅ {})).spool.canPersist (requiredBytes (pixel 5 1)) = false := by
    decide +kernel
  exact Bool.noConfusion ((sendTimes_refused (confirming_cooperative 1) (.inr full) n).ok sent).1

end PictureReconstruct
