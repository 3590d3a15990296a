import PictureReconstruct.Network.ResumeRuns

/-! # When a frame header goes out once per connection

A frame can reach the wire twice: `sendFrame` persists it, the reconnect that `sendFrame` starts
replays it from the spool, and `sendFrame` then sends it itself.

* `UniqueIds`: no two files of a spool hold frames with the same id.
* `Unrepeated`: what a call of `sendFrame` has to meet.
* `header_sent_once`: in a run of such calls no connection carries the same header twice.
* `first_frame_sent_twice`: the first `sendFrame` of a session does not meet it.
-/

namespace PictureReconstruct

open Library.Procedure Library.Runs TcpClient SenderSpool ResumeSession Session

/-- No two files hold frames with the same id. -/
def UniqueIds (files : Directory) : Prop :=
  ∀ name name' frame frame', Spooled files name frame → Spooled files name' frame' →
    frame.frameId = frame'.frameId → name = name'

/-- A `sendFrame` that finds the session disconnected does not have its frame in the spool any
    more when the reconnect succeeds. -/
def Unrepeated (env : Environment) (taskId : UInt64) (call : Call) (session : Session) : Prop :=
  ∀ frame, call = .sendFrame frame → session.net.connected = false →
    wp (prepare env taskId frame)
      (fun reached middle => reached = true →
        ∀ other ∈ pending middle.spool.files, other.frameId ≠ frame.frameId)
      (fun _ _ => True) session

/-- The invariant, with the frames `rest` still to be sent: no header went out twice on a
    connection, the spool holds no id twice, and the frames still to come are new. -/
structure SentOnce (rest : List RawFrame) (files : Directory) (net : Net) : Prop where
  once : ∀ c, (headersOn c net.history).Nodup
  future : ∀ c, net.connection < c → headersOn c net.history = []
  unique : UniqueIds files
  distinct : (rest.map RawFrame.frameId).Nodup
  unsent : ∀ frame ∈ rest, ∀ c, frame.frameId ∉ headersOn c net.history
  unspooled : ∀ frame ∈ rest, ∀ other ∈ pending files, other.frameId ≠ frame.frameId

section Steps

variable {env : Environment} {taskId : UInt64} {spool : SenderSpool} {net middle after : Net}
  {files : Directory} {ids : List UInt64} {frame : RawFrame} {rest : List RawFrame}

/-! ## The spool -/

theorem UniqueIds.nodup {files : Directory} (unique : UniqueIds files) :
    ((pending files).map RawFrame.frameId).Nodup := by
  rw [List.Nodup, List.pairwise_map, pending, List.pairwise_filterMap]
  apply (spoolPaths_distinct files).imp_of_mem
  rintro ⟨name, bytes⟩ ⟨name', bytes'⟩ member member' distinct frame load frame' load' same
  obtain ⟨held, named⟩ := mem_spoolPaths.mp member
  obtain ⟨held', named'⟩ := mem_spoolPaths.mp member'
  exact distinct (unique name name' frame frame' ⟨bytes, held, named, load⟩
    ⟨bytes', held', named', load'⟩ same)

theorem UniqueIds.removeAll (unique : UniqueIds spool.files) (removed : List UInt64) :
    UniqueIds (spool.removeAll removed).files :=
  fun name name' frame frame' spooled spooled' =>
    unique name name' frame frame' spooled.of_removeAll.1 spooled'.of_removeAll.1

theorem UniqueIds.landed (unique : UniqueIds spool.files) (filled : frame.empty = false)
    (fresh : ∀ other ∈ pending spool.files, other.frameId ≠ frame.frameId) (n : Nat) :
    UniqueIds (spool.landed frame n).files := by
  intro name name' other other' spooled spooled' same
  rcases spooled.of_landed filled with ⟨rfl, rfl⟩ | old
  · rcases spooled'.of_landed filled with ⟨rfl, _⟩ | old'
    · rfl
    · exact absurd same.symm (fresh other' (mem_pending.mpr ⟨name', old'⟩))
  · rcases spooled'.of_landed filled with ⟨rfl, rfl⟩ | old'
    · exact absurd same (fresh other (mem_pending.mpr ⟨name, old⟩))
    · exact unique name name' other other' old old' same

/-! ## The parts of a call -/

theorem SentOnce.removeAll (sent : SentOnce rest spool.files net) (removed : List UInt64) :
    SentOnce rest (spool.removeAll removed).files net :=
  { sent with
    unique := sent.unique.removeAll removed
    unspooled := fun frame member other inSpool =>
      sent.unspooled frame member other (pending_of_removeAll inSpool) }

/-- Traffic with headers that are new on the connection and not among the frames to come. -/
theorem SentOnce.progress (sent : SentOnce rest files net) (progress : Progress ids net after)
    (nodup : ids.Nodup) (new : ∀ id ∈ ids, id ∉ headersOn net.connection net.history)
    (apart : ∀ frame ∈ rest, frame.frameId ∉ ids) : SentOnce rest files after := by
  obtain ⟨same, _, added, grown, _, headers, silent⟩ := progress
  refine ⟨fun c => ?_, fun c later => ?_, sent.unique, sent.distinct, fun frame member c => ?_,
    sent.unspooled⟩
  · rw [grown, headersOn_append]
    -- the current connection grows, the others stay
    rcases eq_or_ne c net.connection with rfl | other
    · refine List.nodup_append.mpr ⟨sent.once _, headers.nodup nodup, ?_⟩
      rintro id old _ fresh rfl
      exact new id (headers.subset fresh) old
    · rw [silent c other, List.append_nil]
      exact sent.once c
  · rw [same] at later
    rw [grown, headersOn_append, sent.future c later, silent c (by omega)]
    rfl
  · rw [grown, headersOn_append, List.mem_append, not_or]
    refine ⟨sent.unsent frame member c, fun fresh => ?_⟩
    rcases eq_or_ne c net.connection with rfl | other
    · exact apart frame member (headers.subset fresh)
    · simp [silent c other] at fresh

/-- No header goes out, and a connection may only have been lost. -/
structure Quiet (before after : Net) : Prop where
  connection : after.connection = before.connection
  connected : after.connected = true → before.connected = true
  headers : ∀ c, headersOn c after.history = headersOn c before.history

theorem Quiet.trans (first : Quiet net middle) (second : Quiet middle after) : Quiet net after :=
  ⟨second.connection.trans first.connection, first.connected ∘ second.connected,
    fun c => (second.headers c).trans (first.headers c)⟩

theorem Progress.quiet (progress : Progress [] net after) : Quiet net after := by
  obtain ⟨same, up, added, grown, _, headers, silent⟩ := progress
  refine ⟨same, up, fun c => ?_⟩
  rw [grown, headersOn_append]
  rcases eq_or_ne c net.connection with rfl | other
  · rw [List.sublist_nil.mp headers, List.append_nil]
  · rw [silent c other, List.append_nil]

theorem Quiet.record (net : Net) {event : Event} (silent : ∀ c, event.headerOn c = none) :
    Quiet net (net.record event) :=
  ⟨rfl, id, fun c => by simp [Net.record, headersOn, silent]⟩

theorem ResumeSession.Resumes.quiet {spool' : SenderSpool} {done : Bool}
    (resumes : Resumes env spool net done spool' after) : Quiet net after := by
  cases resumes with
  | unanswered progress => exact progress.quiet
  | answered asked answer _ progress _ =>
    obtain ⟨_, bytes, _, _, rfl⟩ := answer
    exact ((asked.quiet.trans (.record _ fun _ => rfl)).trans (.record _ fun _ => rfl)).trans
      progress.quiet

theorem SentOnce.quiet (sent : SentOnce rest files net) (quiet : Quiet net after) :
    SentOnce rest files after where
  once c := quiet.headers c ▸ sent.once c
  future c later := (quiet.headers c).trans (sent.future c (quiet.connection ▸ later))
  unique := sent.unique
  distinct := sent.distinct
  unsent frame member c := quiet.headers c ▸ sent.unsent frame member c
  unspooled := sent.unspooled

theorem SentOnce.resumes (sent : SentOnce rest spool.files net) {spool' : SenderSpool} {done : Bool}
    (resumes : Resumes env spool net done spool' after) : SentOnce rest spool'.files after := by
  have quiet := sent.quiet (Resumes.quiet resumes)
  cases resumes with
  | unanswered _ => exact quiet
  | answered _ _ _ _ _ => exact quiet.removeAll _

/-- A new connection carries no header yet. -/
theorem SentOnce.greets (sent : SentOnce rest files net) (greets : Greets net after) :
    SentOnce rest files after ∧ (net.connected = false → after.connected = true →
      headersOn after.connection after.history = []) := by
  cases greets with
  | same progress =>
    refine ⟨sent.quiet progress.quiet, fun down up => ?_⟩
    exact absurd (down.symm.trans (progress.connected up)) Bool.noConfusion
  | @established middle _ idle before greeted =>
    have earlier := sent.quiet before.quiet
    let fresh := { middle with connected := true, connection := net.connection + 1 }.record
      (.connected (net.connection + 1))
    have headers : ∀ c, headersOn c fresh.history = headersOn c middle.history := fun c => by
      simp [fresh, Net.record, headersOn, Event.headerOn]
    -- no earlier event is on a connection of a higher number
    have unused : headersOn (net.connection + 1) fresh.history = [] := by
      rw [headers, earlier.future _ (by rw [before.connection]; omega)]
    have connecting : SentOnce rest files fresh :=
      { earlier with
        once := fun c => headers c ▸ earlier.once c
        future := fun c later => by
          rw [headers, earlier.future c]
          simp only [fresh, Net.record] at later
          rw [before.connection]
          omega
        unsent := fun frame member c => headers c ▸ earlier.unsent frame member c }
    refine ⟨connecting.quiet greeted.quiet, fun _ _ => ?_⟩
    rw [greeted.quiet.headers, greeted.quiet.connection]
    exact unused

/-- Traffic with the headers of the frames of the spool, on a connection without any. -/
theorem SentOnce.replays (sent : SentOnce rest files net)
    (replays : Replays files net after)
    (unused : headersOn net.connection net.history = []) :
    SentOnce rest files after ∧
      ∀ id ∈ headersOn after.connection after.history, ∃ other ∈ pending files,
        other.frameId = id := by
  cases replays with
  | unsent => exact ⟨sent, by simp [unused]⟩
  | sent _ progress =>
    refine ⟨sent.progress progress sent.unique.nodup (by simp [unused]) ?_, fun id member => ?_⟩
    · intro frame member inSpool
      obtain ⟨other, held, same⟩ := List.mem_map.mp inSpool
      exact sent.unspooled frame member other held same
    · obtain ⟨same, _, added, grown, _, headers, _⟩ := progress
      rw [same, grown, headersOn_append, unused, List.nil_append] at member
      obtain ⟨other, held, named⟩ := List.mem_map.mp (headers.subset member)
      exact ⟨other, held, named⟩

theorem ResumeSession.Resumes.connected {spool' : SenderSpool}
    (resumes : Resumes env spool net true spool' after) : after.connected = true := by
  cases resumes with
  | answered _ _ _ _ completed => exact (completed rfl).2.1

/-- A reconnect replays the spool on a new connection. -/
theorem SentOnce.reconnects (sent : SentOnce rest spool.files net) (down : net.connected = false)
    {spool' : SenderSpool} {done : Bool}
    (reconnects : Reconnects env spool net done spool' after) :
    SentOnce rest spool'.files after ∧ (done = true →
      ∀ id ∈ headersOn after.connection after.history, ∃ other ∈ pending spool'.files,
        other.frameId = id) := by
  cases reconnects with
  | resuming greets resumes =>
    exact ⟨(sent.greets greets).1.resumes resumes, fun absurd => Bool.noConfusion absurd⟩
  | @replaying greeted middle _ _ _ greets resumes replays =>
    obtain ⟨greeting, unused⟩ := sent.greets greets
    have quiet := Resumes.quiet resumes
    have fresh : headersOn middle.connection middle.history = [] := by
      rw [quiet.headers, quiet.connection]
      exact unused down (quiet.connected (Resumes.connected resumes))
    obtain ⟨replayed, named⟩ := (greeting.resumes resumes).replays replays fresh
    exact ⟨replayed, fun _ => named⟩

/-! ## `sendFrame` -/

variable {session : Session}

/-- The first frame to come is persisted: it is not one to come any more, and has not been sent
    yet. -/
theorem persist_sentOnce (sent : SentOnce (frame :: rest) session.spool.files session.net) :
    wp (persist env frame)
      (fun _ after => SentOnce rest after.spool.files after.net ∧
        after.net.connected = session.net.connected ∧
        ∀ c, frame.frameId ∉ headersOn c after.net.history)
      (fun _ after => SentOnce rest after.spool.files after.net) session := by
  have ticks := Ticks.tick env session.net
  have unsent : ∀ c, frame.frameId ∉ headersOn c session.net.history :=
    sent.unsent frame List.mem_cons_self
  have unspooled := sent.unspooled frame List.mem_cons_self
  obtain ⟨first, others⟩ := List.nodup_cons.mp sent.distinct
  have later : SentOnce rest session.spool.files session.net :=
    { sent with
      distinct := others
      unsent := fun other member => sent.unsent other (List.mem_cons_of_mem _ member)
      unspooled := fun other member => sent.unspooled other (List.mem_cons_of_mem _ member) }
  have landed : ∀ n, frame.empty = false → SentOnce rest (session.spool.landed frame n).files
      session.net := fun n filled =>
    { later with
      unique := sent.unique.landed filled unspooled n
      unspooled := fun other member held inSpool same => by
        rcases pending_of_landed filled inSpool with rfl | old
        · exact first (same ▸ List.mem_map_of_mem member)
        · exact later.unspooled other member held old same }
  have quiet : Quiet session.net (session.net.tick env) :=
    Progress.quiet (.of_ticks ticks)
  have stillUnsent : ∀ c, frame.frameId ∉ headersOn c (session.net.tick env).history :=
    fun c => quiet.headers c ▸ unsent c
  refine wp_persist env (fun _ => later.quiet quiet)
    (fun _ => ⟨later.quiet quiet, rfl, stillUnsent⟩)
    (fun n filled _ => ⟨(landed n filled).quiet quiet, rfl, stillUnsent⟩)
    (fun n filled _ => (landed n filled).quiet quiet) (fun filled _ _ => ?_)
  have recorded : Quiet session.net ((session.net.tick env).record (.persisted frame)) :=
    quiet.trans (.record _ fun _ => rfl)
  exact ⟨(landed _ filled).quiet recorded, rfl, fun c => recorded.headers c ▸ unsent c⟩

/-- The direct send is reached with a header that the connection has not carried yet, unless the
    frame was replayed. -/
theorem prepare_sentOnce (sent : SentOnce (frame :: rest) session.spool.files session.net) :
    wp (prepare env taskId frame)
      (fun reached after => SentOnce rest after.spool.files after.net ∧
        (reached = true → (session.net.connected = false →
            ∀ other ∈ pending after.spool.files, other.frameId ≠ frame.frameId) →
          frame.frameId ∉ headersOn after.net.connection after.net.history))
      (fun _ after => SentOnce rest after.spool.files after.net) session := by
  refine wp_prepare env taskId
    ((persist_sentOnce sent).post (fun _ middle persisted => ?_))
  obtain ⟨sent, same, unsent⟩ := persisted
  refine ⟨fun _ => ⟨sent, fun _ _ => unsent _⟩, fun _ _ => ⟨sent, fun _ _ => unsent _⟩,
    fun _ down => ?_⟩
  refine (wp_reconnectAndResume env taskId).mono (fun reached after reconnects => ?_)
    (fun _ after reconnects => (sent.reconnects down reconnects).1)
  obtain ⟨resumed, named⟩ := sent.reconnects down reconnects
  refine ⟨resumed, fun reached gone member => ?_⟩
  obtain ⟨other, held, id⟩ := named reached _ member
  exact gone (same ▸ down) other held id

/-- One `sendFrame`. -/
theorem sendFrame_sentOnce (unrepeated : Unrepeated env taskId (.sendFrame frame) session)
    (sent : SentOnce (frame :: rest) session.spool.files session.net) :
    wp (ResumeSession.sendFrame env taskId frame)
      (fun _ after => SentOnce rest after.spool.files after.net)
      (fun _ after => SentOnce rest after.spool.files after.net) session := by
  have apart : ∀ other ∈ rest, other.frameId ∉ [frame.frameId] := by
    obtain ⟨first, _⟩ := List.nodup_cons.mp sent.distinct
    intro other member same
    exact first (List.mem_singleton.mp same ▸ List.mem_map_of_mem member)
  have gone : wp (prepare env taskId frame)
      (fun reached middle => reached = true → session.net.connected = false →
        ∀ other ∈ pending middle.spool.files, other.frameId ≠ frame.frameId)
      (fun _ _ => True) session := by
    -- a connected session sends the frame directly only
    cases live : session.net.connected with
    | false =>
      exact (unrepeated frame rfl live).mono (fun _ _ gone reached _ => gone reached)
        (fun _ _ _ => trivial)
    | true =>
      exact (prepare_sentOnce sent).mono (fun _ _ _ _ absurd => Bool.noConfusion absurd)
        (fun _ _ _ => trivial)
  rw [wp_sendFrame_iff]
  refine ((prepare_sentOnce sent).and gone).mono ?_ (fun _ _ ended => ended.1)
  rintro reached middle ⟨⟨prepared, unsent⟩, gone⟩
  cases reached with
  | false => exact prepared
  | true =>
    have transmitted : ∀ {last}, Progress [frame.frameId] middle.net last →
        SentOnce rest middle.spool.files last := fun progress =>
      prepared.progress progress (List.nodup_singleton _)
        (by simpa using unsent rfl (gone rfl)) apart
    refine (wp_transmit env).mono ?_ (fun _ last failed => failed.1 ▸ transmitted failed.2)
    rintro complete last ⟨same, progress, _⟩
    cases complete with
    | false => exact same ▸ transmitted progress
    | true =>
      have removed := (same ▸ transmitted progress : SentOnce rest last.spool.files last.net)
      exact removed.removeAll [frame.frameId]

end Steps

/-- In a run of such calls on frames that are new to each other and to the spool, whatever fails
    on the way, no connection carries the header of a frame twice. -/
theorem header_sent_once (env : Environment) (taskId : UInt64) (files : Directory)
    (unique : UniqueIds files) (frames : List RawFrame)
    (distinct : (frames.map RawFrame.frameId).Nodup)
    (fresh : ∀ frame ∈ frames, ∀ other ∈ pending files, other.frameId ≠ frame.frameId)
    (unrepeated : Admits (Call.next env taskId) (Unrepeated env taskId) (frames.map .sendFrame)
      (construct files {})) (connection : Nat) :
    (headersOn connection
      (run (Call.next env taskId) (frames.map .sendFrame)
        (construct files {})).net.history).Nodup := by
  have start : SentOnce frames files {} :=
    ⟨fun _ => List.nodup_nil, fun _ _ => rfl, unique, distinct, fun _ _ _ => List.not_mem_nil,
      fresh⟩
  obtain ⟨rest, _, sent⟩ := run_invariant
    (I := fun calls session => ∃ rest, calls = rest.map Call.sendFrame ∧
      SentOnce rest session.spool.files session.net)
    (fun _ _ session inv unrepeated => by
      obtain ⟨_ | ⟨frame, rest⟩, same, sent⟩ := inv
      · exact absurd same (List.cons_ne_nil _ _)
      · obtain ⟨rfl, rfl⟩ := List.cons.inj same
        refine ⟨rest, rfl, Call.next_of_wp
          (I := fun after => SentOnce rest after.spool.files after.net)
          (sendFrame_sentOnce unrepeated sent) fun after sent => ?_⟩
        exact sent.quiet (Progress.quiet (Progress.refl after.net).close))
    (frames.map .sendFrame) (construct files {}) ⟨frames, rfl, start⟩ unrepeated
  exact sent.once connection

/-- The first frame is already durable when the session reconnects; the second finds the session
    connected. -/
theorem header_sent_once_durable :
    (headersOn 1 (run (Call.next (.serving (fun _ => some ⟨1, 5⟩) fun _ => []) 1)
      ([pixel 5 1, pixel 6 1].map .sendFrame) (construct ∅ {})).net.history).Nodup :=
  header_sent_once _ 1 ∅ (fun _ _ _ _ ⟨_, held, _⟩ => by simp at held) [pixel 5 1, pixel 6 1]
    (by decide +kernel) (by decide +kernel)
    ⟨by rintro _ ⟨⟩ _; decide +kernel,
    by rintro _ ⟨⟩ down; exact absurd down (by decide +kernel), trivial⟩ 1

/-- The first `sendFrame` of a session over an empty spool: the reconnect replays the frame that
    was just persisted, then it is sent once more. -/
theorem first_frame_sent_twice :
    ¬ (headersOn 1 (run (Call.next (.serving (fun _ => some ⟨1, 0⟩) fun _ => []) 1)
      [.sendFrame (pixel 5 1)] (construct ∅ {})).net.history).Nodup := by
  decide +kernel

end PictureReconstruct
