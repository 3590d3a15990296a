import PictureReconstruct.Network.Handshake

/-! # What `Ready` says about the connection

`TcpClient` closes itself at a `send` or `recv` that fails.  Within `reconnectAndResume` and
`sendFrame` the session takes note of it; `requestResume` and `replayPendingFrames` return `false`
and leave the state to their caller.

* `Traced`: the connection survives exactly the calls in which nothing fails.
* `Truthful`: a session that is ready is connected, behind a handshake.
* `truthful_iff`: in a run, exactly when neither procedure is called by itself in a ready session
  and fails to send or to receive.
-/

namespace PictureReconstruct

open Library.Procedure Library.Runs ProtocolV2 TcpClient SenderSpool ResumeSession Session

/-- All bytes were sent, or received, if it is an event of that kind. -/
def Event.Complete : Event → Prop
  | .sent _ packet accepted => accepted = packet.bytes.length
  | .received _ bytes => bytes.length = 28
  | _ => True

/-- No `send` and no `recv` has failed in between. -/
def Unfailing (before after : Net) : Prop :=
  ∃ added, after.history = before.history ++ added ∧ ∀ event ∈ added, event.Complete

/-- The connection is up in `after` exactly when nothing has failed since `before`. -/
def Traced (before after : Net) : Prop :=
  ∃ added, after.history = before.history ++ added ∧
    (after.connected = true ↔ ∀ event ∈ added, event.Complete)

/-- A session that is ready is connected, and the handshake on its connection is complete. -/
def Truthful (taskId : UInt64) (session : Session) : Prop :=
  session.state = .ready → session.net.connected = true ∧ session.net.Resumed taskId

/-- A call of `requestResume` or `replayPendingFrames` by itself in a ready session meets no `send`
    and no `recv` that fails. -/
def Steady (env : Environment) (taskId : UInt64) : Call → Session → Prop
  | .requestResume, session => session.state = .ready →
    wp (requestResume env taskId) (fun _ after => Unfailing session.net after.net)
      (fun _ _ => True) session
  | .replayPendingFrames, session => session.state = .ready →
    wp (replayPendingFrames env) (fun _ after => Unfailing session.net after.net)
      (fun _ _ => True) session
  | _, _ => True

/-! ## The connection -/

section Connection

variable {env : Environment} {fragmentSize : UInt32} {frame : RawFrame}
  {net before middle after : Net}

theorem Traced.refl (live : net.connected = true) : Traced net net :=
  ⟨[], (List.append_nil _).symm, iff_of_true live (by simp)⟩

theorem Traced.trans (first : Traced before middle) (live : middle.connected = true)
    (second : Traced middle after) : Traced before after := by
  obtain ⟨added, grown, complete⟩ := first
  obtain ⟨added', grown', complete'⟩ := second
  refine ⟨added ++ added', by rw [grown', grown, List.append_assoc], ?_⟩
  rw [complete', List.forall_mem_append]
  exact (and_iff_right (complete.mp live)).symm

theorem Traced.unfailing_iff (traced : Traced before after) :
    after.connected = true ↔ Unfailing before after := by
  obtain ⟨added, grown, complete⟩ := traced
  rw [complete]
  constructor
  · intro all
    exact ⟨added, grown, all⟩
  · rintro ⟨added', grown', all⟩
    rw [grown] at grown'
    exact List.append_cancel_left grown' ▸ all

theorem Traced.of_ticks (ticks : Ticks before after) (live : before.connected = true) :
    Traced before after := by
  obtain ⟨frames, _, grown⟩ := ticks.history
  refine ⟨frames.map .stored, grown, iff_of_true (ticks.connected ▸ live) ?_⟩
  intro event member
  obtain ⟨frame, _, rfl⟩ := List.mem_map.mp member
  trivial

/-- A system call, and then one event that is complete exactly when the connection stays up. -/
theorem Traced.event (ticks : Ticks before middle) (live : before.connected = true) {event : Event}
    (grown : after.history = middle.history ++ [event])
    (complete : after.connected = true ↔ event.Complete) : Traced before after := by
  refine (Traced.of_ticks ticks live).trans (ticks.connected ▸ live) ⟨[event], grown, ?_⟩
  rw [complete, List.forall_mem_singleton]

/-- What can only be killed throws nothing. -/
theorem of_dies {σ α : Type} {m : EStateM Abort σ α} {Q Q' : α → σ → Prop} {E : σ → Prop} {s : σ}
    (dies : wp m Q (fun cause _ => cause = .died) s) (normal : ∀ a s', Q a s' → Q' a s') :
    wp m Q' (fun cause after => cause = .threw → E after) s :=
  dies.mono normal fun _ _ died threw => absurd (died.symm.trans threw) Abort.noConfusion

theorem sendAll_traced (packet : Packet) (live : net.connected = true) :
    wp (sendAll env packet) (fun sent after => Traced net after ∧ after.connected = sent)
      (fun cause _ => cause = .died) net := by
  apply wp_sendAll
  · intro closed
    rw [live] at closed
    cases closed
  · intro _ _ _ _
    rfl
  · intro after accepted _ ticks short _
    refine ⟨.event ticks live rfl ?_, rfl⟩
    exact iff_of_false Bool.noConfusion (Nat.ne_of_lt short)
  · intro after _ ticks _
    have up : after.connected = true := ticks.connected ▸ live
    exact ⟨.event ticks live rfl (iff_of_true up rfl), up⟩

theorem recvAll_traced (live : net.connected = true) :
    wp (recvAll env 28)
      (fun bytes after => Traced net after ∧ (bytes.isSome = true → after.connected = true))
      (fun cause _ => cause = .died) net := by
  apply wp_recvAll
  · intro closed
    rw [live] at closed
    cases closed
  · intro _ _ _ _
    rfl
  · intro after bytes _ ticks _
    constructor
    · intro short
      exact ⟨.event ticks live rfl (iff_of_false Bool.noConfusion (Nat.ne_of_lt short)),
        Bool.noConfusion⟩
    · intro whole
      have up : after.connected = true := ticks.connected ▸ live
      exact ⟨.event ticks live rfl (iff_of_true up whole), fun _ => up⟩

/-- A reply that does not parse leaves the connection up. -/
theorem receiveReply_traced {taskId : UInt64} (live : net.connected = true) :
    wp (receiveReply env taskId)
      (fun reply after => Traced net after ∧ (reply.isSome = true → after.connected = true))
      (fun cause _ => cause = .died) net := by
  simp only [receiveReply, wp_bind]
  apply (sendAll_traced _ live).post
  rintro sent asked ⟨request, connected⟩
  cases sent with
  | false => exact ⟨request, Bool.noConfusion⟩
  | true =>
    simp only [Bool.not_true, Bool.false_eq_true, if_false, wp_bind]
    apply (recvAll_traced connected).post
    rintro bytes answered ⟨received, up⟩
    have traced := request.trans connected received
    cases bytes with
    | none => exact ⟨traced, Bool.noConfusion⟩
    | some bytes => exact ⟨traced, fun _ => up rfl⟩

theorem sendFragment_traced (index : Nat) (live : net.connected = true) :
    wp (RawFrameSender.sendFragment env fragmentSize frame index)
      (fun sent after => Traced net after ∧ after.connected = sent)
      (fun cause _ => cause = .died) net := by
  simp only [RawFrameSender.sendFragment, wp_bind]
  apply (sendAll_traced _ live).post
  rintro sent middle ⟨header, connected⟩
  cases sent with
  | false => exact ⟨header, connected⟩
  | true =>
    apply (sendAll_traced _ connected).post
    rintro sent after ⟨payload, connected'⟩
    exact ⟨header.trans connected payload, connected'⟩

/-- An empty frame is refused with the connection up. -/
theorem sendFrame_traced (live : net.connected = true) :
    wp (RawFrameSender.sendFrame env fragmentSize frame)
      (fun sent after => Traced net after ∧ (sent = true → after.connected = true))
      (fun cause _ => cause = .died) net := by
  have refused : Traced net net ∧ (false = true → net.connected = true) :=
    ⟨.refl live, Bool.noConfusion⟩
  simp only [RawFrameSender.sendFrame, wp_bind, wp_ite, wp_pure]
  refine ⟨fun _ => refused, fun _ => ⟨fun _ => refused, fun _ => ?_⟩⟩
  apply (sendAll_traced _ live).post
  rintro sent middle ⟨header, connected⟩
  cases sent with
  | false => exact ⟨header, Bool.noConfusion⟩
  | true =>
    simp only [Bool.not_true, Bool.false_eq_true, if_false, wp_bind]
    apply wp_allM (fun _ middle => Traced net middle ∧ middle.connected = true)
    · rintro middle ⟨traced, connected⟩
      simp only [Bool.not_true, Bool.false_eq_true, if_false, wp_bind, wp_modify, wp_pure]
      refine ⟨traced.trans connected ⟨[_], rfl, iff_of_true connected ?_⟩, fun _ => connected⟩
      simp [Event.Complete]
    · rintro index _ middle ⟨traced, connected⟩
      apply (sendFragment_traced index connected).post
      rintro sent after ⟨fragment, connected'⟩
      have next := traced.trans connected fragment
      cases sent with
      | false => exact ⟨next, Bool.noConfusion⟩
      | true => exact ⟨next, connected'⟩
    · exact ⟨header, connected⟩

end Connection

/-! ## The procedures -/

/-- A session that is ready is connected. -/
def Linked (session : Session) : Prop := session.state = .ready → session.net.connected = true

section Procedures

variable {env : Environment} {taskId : UInt64} {session : Session} {frame : RawFrame}

theorem Linked.of_state {state : SessionState} (same : session.state = state)
    (other : state ≠ .ready) : Linked session := fun ready => absurd (same.symm.trans ready) other

/-- While frames are removed from the spool the connection stays up. -/
theorem prune_traced {reply : ResumeReply} (live : session.net.connected = true) :
    wp (prune env reply)
      (fun _ after => Traced session.net after.net ∧ after.net.connected = true)
      (fun cause after => cause = .threw → after.net.connected = true) session := by
  have first : Traced session.net (accepted reply session).net :=
    ⟨[_], rfl, iff_of_true live (by simp [Event.Complete])⟩
  simp only [prune, wp_bind, wp_modify]
  apply wp_loadPendingFrames
  · intro _ _
    exact live
  · intro _
    apply wp_forM (fun _ s => Traced session.net s.net ∧ s.net.connected = true)
    · intro s traced
      exact traced
    · rintro frame _ s ⟨traced, connected⟩
      simp only [wp_bind, wp_get, wp_ite, wp_pure, ResumeSession.removeFrame, onNet, wp_zoom,
        wp_systemCall_iff, wp_modify]
      have ticked := traced.trans connected (.of_ticks (Ticks.tick env s.net) connected)
      refine ⟨fun _ => ⟨fun _ died => ?_, fun _ => ⟨ticked, connected⟩⟩,
        fun _ => ⟨traced, connected⟩⟩
      cases died
    · exact ⟨first, live⟩

theorem requestResume_traced (live : session.net.connected = true) :
    wp (requestResume env taskId)
      (fun done after => Traced session.net after.net ∧ (done = true → after.net.connected = true))
      (fun cause after => cause = .threw → after.net.connected = true) session := by
  rw [wp_requestResume_iff]
  simp only [onNet, wp_zoom]
  apply of_dies (receiveReply_traced live)
  rintro reply answered ⟨traced, connected⟩
  cases reply with
  | none => exact ⟨traced, Bool.noConfusion⟩
  | some reply =>
    apply (@prune_traced env { session with net := answered } reply (connected rfl)).post
    rintro _ after ⟨pruned, up⟩
    exact ⟨traced.trans (connected rfl) pruned, fun _ => up⟩

theorem requestResume_state :
    wp (requestResume env taskId) (fun _ after => after.state = session.state)
      (fun _ after => after.state = session.state) session := by
  rw [wp_requestResume_iff]
  simp only [onNet, wp_zoom]
  apply wp_receiveReply
  · intro _ _ _
    trivial
  · intro _ _
    trivial
  · intro _ _ reply _ _ _ _
    apply wp_prune
    · intro _
      rfl
    · intro _ _ _ _ _ _
      rfl
    · intro _ _ _ _
      rfl

theorem replay_state :
    wp (replayPendingFrames env) (fun _ after => after.state = session.state)
      (fun _ after => after.state = session.state) session := by
  apply wp_replayPendingFrames
  · intro _
    rfl
  · intro _ _ _
    rfl
  · intro _ _ _
    rfl

theorem replay_traced (live : session.net.connected = true) :
    wp (replayPendingFrames env)
      (fun done after => Traced session.net after.net ∧ (done = true → after.net.connected = true))
      (fun cause after => cause = .threw → after.net.connected = true) session := by
  simp only [replayPendingFrames, wp_bind]
  apply wp_loadPendingFrames
  · intro _ _
    exact live
  · intro _
    rw [wp_ite]
    refine ⟨fun _ => ⟨.refl live, fun _ => live⟩, fun _ => ?_⟩
    apply wp_allM (fun _ s => Traced session.net s.net ∧ s.net.connected = true)
    · rintro s ⟨traced, connected⟩
      exact ⟨traced, fun _ => connected⟩
    · rintro frame _ s ⟨traced, connected⟩
      simp only [onNet, wp_zoom]
      apply of_dies (sendFrame_traced connected)
      rintro sent after ⟨next, up⟩
      have frames := traced.trans connected next
      cases sent with
      | false => exact ⟨frames, Bool.noConfusion⟩
      | true => exact ⟨frames, up rfl⟩
    · exact ⟨.refl live, live⟩

/-- `reconnectAndResume` ends in `Ready` behind a replay that has lost nothing. -/
theorem reconnect_linked :
    wp (reconnectAndResume env taskId)
      (fun done after => Linked after ∧ (done = true → after.net.connected = true))
      (fun cause after => cause = .threw → Linked after) session := by
  apply wp_reconnectAndResume_steps env taskId (fun net => net.connected = true)
    (fun net => net.connected = true) (fun after => after.net.connected = true)
  · apply wp_connectToServer
    · exact fun up => up
    · exact fun _ _ _ _ threw => by cases threw
    · exact fun _ _ _ _ => ⟨.of_state rfl SessionState.noConfusion, Bool.noConfusion⟩
    · exact fun _ _ _ _ => rfl
  · intro connected live
    apply of_dies (sendAll_traced _ live)
    rintro sent asked ⟨_, greeted⟩
    cases sent with
    | false => exact ⟨.of_state rfl SessionState.noConfusion, Bool.noConfusion⟩
    | true => exact greeted
  · intro asked greeted
    have resuming := @requestResume_traced env taskId
      { session with state := .handshaking, net := asked } greeted
    apply (resuming.and requestResume_state).mono
    · rintro resumed answered ⟨⟨_, connected⟩, _⟩
      cases resumed with
      | false => exact ⟨.of_state rfl SessionState.noConfusion, Bool.noConfusion⟩
      | true => exact connected rfl
    · rintro _ after ⟨_, same⟩ _
      exact .of_state same SessionState.noConfusion
  · intro answered connected
    have replaying := @replay_traced env { answered with state := .recovering } connected
    apply (replaying.and replay_state).mono
    · rintro replayed after ⟨⟨_, sent⟩, _⟩
      cases replayed with
      | false => exact ⟨.of_state rfl SessionState.noConfusion, Bool.noConfusion⟩
      | true => exact ⟨fun _ => sent rfl, fun _ => sent rfl⟩
    · rintro _ after ⟨_, same⟩ _
      exact .of_state same SessionState.noConfusion

theorem prepare_linked (linked : Linked session) :
    wp (prepare env taskId frame)
      (fun reached middle => Linked middle ∧ (reached = true → middle.net.connected = true))
      (fun cause middle => cause = .threw → Linked middle) session := by
  have persisting : wp (persist env frame)
      (fun _ middle => middle.state = session.state ∧
        middle.net.connected = session.net.connected)
      (fun cause _ => cause = .died) session := by
    apply ResumeSession.wp_persist
    · intro _
      rfl
    · intro _
      exact ⟨rfl, rfl⟩
    · intro _ _ _
      exact ⟨rfl, rfl⟩
    · intro _ _ _
      rfl
    · intro _ _ _
      exact ⟨rfl, rfl⟩
  apply wp_prepare
  apply of_dies persisting
  rintro persisted middle ⟨state, connected⟩
  have kept : Linked middle := by
    intro ready
    rw [connected]
    exact linked (state.symm.trans ready)
  exact ⟨fun _ => ⟨kept, Bool.noConfusion⟩, fun _ live => ⟨kept, fun _ => live⟩,
    fun _ _ => reconnect_linked⟩

theorem transmit_linked (live : session.net.connected = true) :
    wp (transmit env frame) (fun _ last => Linked last)
      (fun cause _ => cause = .died) session := by
  simp only [transmit, setState, closeConnection, onNet, wp_bind, wp_zoom]
  apply (sendFrame_traced live).post
  rintro sent after ⟨_, connected⟩
  cases sent with
  | false => exact .of_state rfl SessionState.noConfusion
  | true =>
    simp only [Bool.not_true, Bool.false_eq_true, if_false, wp_bind, wp_zoom, wp_systemCall_iff,
      wp_pure]
    exact ⟨fun _ => trivial, fun _ _ => connected rfl⟩

theorem sendFrame_linked (linked : Linked session) :
    wp (ResumeSession.sendFrame env taskId frame) (fun _ last => Linked last)
      (fun cause last => cause = .threw → Linked last) session := by
  rw [wp_sendFrame_iff]
  apply (prepare_linked linked).post
  rintro reached middle ⟨linked, connected⟩
  cases reached with
  | false => exact linked
  | true =>
    apply of_dies (transmit_linked (connected rfl))
    intro sent last linked
    cases sent with
    | false => exact linked
    | true => exact linked

/-- A call keeps `Linked` when it holds at a normal end and after an exception. -/
theorem next_linked {call : Call}
    (ends : wp (call.perform env taskId) (fun _ last => Linked last)
      (fun cause last => cause = .threw → Linked last) session) :
    Linked (call.next env taskId session) := by
  apply Call.next_of_abort (I := Linked)
  apply ends.mono
  · intro _ _ linked
    exact linked
  · intro _ _ threw
    exact ⟨threw, fun _ => .of_state rfl SessionState.noConfusion⟩

/-- A procedure that leaves the state alone: the session stays connected exactly when nothing
    fails. -/
theorem next_linked_iff {call : Call} (ready : session.state = .ready)
    (state : wp (call.perform env taskId) (fun _ after => after.state = session.state)
      (fun _ after => after.state = session.state) session)
    (traced : wp (call.perform env taskId)
      (fun done after => Traced session.net after.net ∧ (done = true → after.net.connected = true))
      (fun cause after => cause = .threw → after.net.connected = true) session) :
    Linked (call.next env taskId session) ↔
      wp (call.perform env taskId) (fun _ after => Unfailing session.net after.net)
        (fun _ _ => True) session := by
  unfold Call.next wp
  cases run : call.perform env taskId session with
  | ok done after =>
    have same := state.ok run
    have unfailing := (traced.ok run).1.unfailing_iff
    simp only [Linked, same, ready, true_implies]
    exact unfailing
  | error cause after =>
    cases cause with
    | threw => exact iff_of_true (fun _ => traced.error run rfl) trivial
    | died => exact iff_of_true (.of_state rfl SessionState.noConfusion) trivial

theorem next_linked_iff_steady (call : Call) (linked : Linked session) :
    Linked (call.next env taskId session) ↔ Steady env taskId call session := by
  cases call with
  | start => exact iff_of_true (next_linked (reconnect_linked.post fun _ _ ends => ends.1)) trivial
  | sendFrame frame => exact iff_of_true (next_linked (sendFrame_linked linked)) trivial
  | reconnectAndResume =>
    exact iff_of_true (next_linked (reconnect_linked.post fun _ _ ends => ends.1)) trivial
  | requestResume =>
    by_cases ready : session.state = .ready
    · rw [Steady, forall_prop_of_true ready]
      exact next_linked_iff ready requestResume_state (requestResume_traced (linked ready))
    · have kept : ∀ after : Session, after.state = session.state → Linked after :=
        fun after same => .of_state same ready
      refine iff_of_true (next_linked ?_) fun is => absurd is ready
      exact requestResume_state.mono (fun _ after same => kept after same)
        fun _ after same _ => kept after same
  | replayPendingFrames =>
    by_cases ready : session.state = .ready
    · rw [Steady, forall_prop_of_true ready]
      exact next_linked_iff ready replay_state (replay_traced (linked ready))
    · have kept : ∀ after : Session, after.state = session.state → Linked after :=
        fun after same => .of_state same ready
      refine iff_of_true (next_linked ?_) fun is => absurd is ready
      exact replay_state.mono (fun _ after same => kept after same)
        fun _ after same _ => kept after same
  | setMaxSpoolBytes maxBytes => exact iff_of_true linked trivial
  | restart => exact iff_of_true (.of_state rfl SessionState.noConfusion) trivial

/-- A connected session is behind its handshake. -/
theorem truthful_iff_linked (settled : Settled taskId session.net) :
    Truthful taskId session ↔ Linked session := by
  constructor
  · intro truthful ready
    exact (truthful ready).1
  · intro linked ready
    exact ⟨linked ready, settled.resumed (linked ready)⟩

end Procedures

/-- For every run, whatever fails: the session tells the truth behind every call exactly when no
    `requestResume` or `replayPendingFrames` by itself in a ready session fails to send or to
    receive. -/
theorem truthful_iff (env : Environment) (taskId : UInt64) (files : Directory)
    (calls : List Call) :
    (∀ earlier later, calls = earlier ++ later →
      Truthful taskId (run (Call.next env taskId) earlier (construct files {}))) ↔
      Admits (Call.next env taskId) (Steady env taskId) calls (construct files {}) := by
  have step : ∀ call session, Settled taskId session.net ∧ Truthful taskId session →
      ((Settled taskId (call.next env taskId session).net ∧
        Truthful taskId (call.next env taskId session)) ↔ Steady env taskId call session) := by
    rintro call session ⟨settled, truthful⟩
    have after := @next_settled env taskId session call settled
    rw [and_iff_right after, truthful_iff_linked after]
    exact next_linked_iff_steady call ((truthful_iff_linked settled).mp truthful)
  have every := every_state_iff step calls (construct files {})
  have start : Settled taskId (construct files {}).net ∧ Truthful taskId (construct files {}) :=
    ⟨run_settled env taskId files [], fun ready => SessionState.noConfusion ready⟩
  rw [and_iff_right start] at every
  rw [← every]
  constructor
  · intro truthful earlier later split
    exact ⟨run_settled env taskId files earlier, truthful earlier later split⟩
  · intro both earlier later split
    exact (both earlier later split).2

/-- A peer that answers the first request and then falls silent. -/
def silentPeer : Environment :=
  .serving (fun net => if net.clock ≤ 4 then some ⟨1, 0⟩ else none) fun _ => []

/-- The second request closes the connection, and the session stays `Ready`. -/
theorem ready_without_connection :
    ¬ Truthful 1 (run (Call.next silentPeer 1) [.start, .requestResume] (construct ∅ {})) := by
  intro truthful
  have ready : (run (Call.next silentPeer 1) [.start, .requestResume] (construct ∅ {})).state =
      .ready := by
    decide +kernel
  exact absurd (truthful ready).1 (by decide +kernel)

end PictureReconstruct
