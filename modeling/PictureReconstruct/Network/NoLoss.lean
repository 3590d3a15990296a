import PictureReconstruct.Network.ResumeRuns

/-! # When no persisted frame is lost

A frame that `sendFrame` has persisted is meant to stay in the spool until the receiver has
stored it.  Frames leave the spool in two places: `requestResume` removes what a reply covers,
and `sendFrame` removes its frame once `send` has taken the bytes.

* `Honest`: a reply for the session's task covers stored frames only.
* `Careful`: what each call of a run has to meet.
* `no_frame_lost`: in a run of careful calls no frame is lost.
* `unread_frame_lost`: otherwise it can be, when the connection breaks behind a `send`.
-/

namespace PictureReconstruct

open Library.Procedure Library.Runs ProtocolV2 TcpClient SenderSpool ResumeSession Session

/-- A reply that names the session's task covers only frames that the receiver has stored. -/
def Honest (env : Environment) (taskId : UInt64) : Prop :=
  ∀ net reply frame, parseResumeReply (recvLoop (env.recv net) 28 28 []) ⟨0, 0⟩ = (true, reply) →
    reply.taskId = taskId → .persisted frame ∈ net.history →
    frame.frameId ≤ reply.highestDurableFrameSeq → .stored frame ∈ net.history

/-- Every frame whose `persist` returned `true` is in the spool or stored by the receiver. -/
def Kept (files : Directory) (net : Net) : Prop :=
  ∀ frame, .persisted frame ∈ net.history →
    files.lookup (filePathFor frame.frameId) = some (spoolFile frame) ∨
      .stored frame ∈ net.history

/-- All replies that were accepted name the session's task. -/
def OwnReplies (taskId : UInt64) (net : Net) : Prop :=
  ∀ connection reply, .resumed connection reply ∈ net.history → reply.taskId = taskId

instance (taskId : UInt64) (net : Net) : Decidable (OwnReplies taskId net) :=
  decidable_of_iff
    (net.history.all fun
      | .resumed _ reply => reply.taskId = taskId
      | _ => true)
    (by
      rw [List.all_eq_true]
      constructor
      · exact fun own connection reply accepted => of_decide_eq_true (own _ accepted)
      · intro own event member
        cases event with
        | resumed connection reply => exact decide_eq_true (own connection reply member)
        | _ => rfl)

/-- A write that does not leave a part of the file of `frame`. -/
def DiskFault.Whole (frame : RawFrame) : DiskFault → Prop
  | .none | .open => True
  | .write written | .kill written => (spoolFile frame).length ≤ written

/-- What `sendFrame` has to meet before it is called with `frame`:
    a frame with the same id that is not stored yet is the same frame, and writing it once more
    does not fail half-way; and the receiver has stored the frame by the time it is removed. -/
structure CarefulSend (env : Environment) (taskId : UInt64) (frame : RawFrame)
    (session : Session) : Prop where
  same : ∀ other, .persisted other ∈ session.net.history → other.frameId = frame.frameId →
    .stored other ∈ session.net.history ∨
      (other = frame ∧ (env.disk (session.net.tick env)).Whole frame)
  stored : wp (prepare env taskId frame)
    (fun reached middle => reached = true →
      wp (transmit env frame)
        (fun sent last => sent = true → .stored frame ∈ last.net.history) (fun _ _ => True) middle)
    (fun _ _ => True) session

/-- What every call has to meet: it accepts no reply for another task. -/
structure Careful (env : Environment) (taskId : UInt64) (call : Call) (session : Session) :
    Prop where
  own : wp (call.perform env taskId) (fun _ after => OwnReplies taskId after.net)
    (fun _ after => OwnReplies taskId after.net) session
  send : ∀ frame, call = .sendFrame frame → CarefulSend env taskId frame session

section Steps

variable {env : Environment} {taskId : UInt64} {files : Directory} {net middle after : Net}
  {ids : List UInt64}

/-! ## What one step preserves -/

/-- `after` has all events of `before`, and no other frame was persisted. -/
structure Grows (before after : Net) : Prop where
  mem : ∀ {event}, event ∈ before.history → event ∈ after.history
  persisted : ∀ {frame}, .persisted frame ∈ after.history → .persisted frame ∈ before.history

theorem Grows.trans (first : Grows net middle) (second : Grows middle after) :
    Grows net after :=
  ⟨fun old => second.mem (first.mem old), fun new => first.persisted (second.persisted new)⟩

theorem Progress.grows (progress : Progress ids net after) : Grows net after :=
  ⟨progress.mem, progress.mem_of_not_passive (by simp [Event.passive])⟩

theorem ResumeSession.Greets.grows (greets : Greets net after) : Grows net after :=
  ⟨greets.mem, greets.mem_of_not_passive (by simp [Event.passive]) (by simp)⟩

theorem ResumeSession.Answered.grows {reply : ResumeReply}
    (answered : Answered env net after reply) : Grows net after := by
  obtain ⟨_, bytes, _, _, rfl⟩ := answered
  exact ⟨fun old => by simp [Net.record, old], fun new => by simpa [Net.record] using new⟩

theorem OwnReplies.before (own : OwnReplies taskId after) (growth : Grows net after) :
    OwnReplies taskId net := fun connection reply accepted =>
  own connection reply (growth.mem accepted)

theorem Kept.grows (kept : Kept files net) (growth : Grows net after) : Kept files after :=
  fun frame persisted => (kept frame (growth.persisted persisted)).imp id growth.mem

/-- `requestResume` removes stored frames only. -/
theorem Kept.resumes (honest : Honest env taskId) {spool spool' : SenderSpool} {done : Bool}
    (kept : Kept spool.files net) (resumes : Resumes env spool net done spool' after)
    (own : OwnReplies taskId after) : Kept spool'.files after := by
  cases resumes with
  | unanswered progress => exact kept.grows progress.grows
  | @answered before middle _ reply removed _ asked answer isPrefix progress _ =>
    have growth := answer.grows.trans progress.grows
    obtain ⟨_, bytes, same, parsed, rfl⟩ := answer
    have owned : reply.taskId = taskId :=
      own before.connection reply (progress.mem (by simp [Net.record]))
    intro frame persisted
    have earlier := growth.persisted persisted
    cases kept.grows asked.grows frame earlier with
    | inl held =>
      -- a frame whose file was removed is covered by an own reply, hence stored
      by_cases gone : filePathFor frame.frameId ∈ removed.map filePathFor
      · obtain ⟨frameId, member, named⟩ := List.mem_map.mp gone
        obtain ⟨covers, _⟩ := mem_covered.mp (isPrefix.subset member)
        rw [filePathFor_injective named] at covers
        exact .inr (growth.mem (honest before reply frame (same ▸ parsed) owned earlier covers))
      · exact .inl (by rw [removeAll_lookup, if_neg gone]; exact held)
    | inr stored => exact .inr (growth.mem stored)

theorem ResumeSession.Resumes.grows {spool spool' : SenderSpool} {done : Bool}
    (resumes : Resumes env spool net done spool' after) : Grows net after := by
  cases resumes with
  | unanswered progress => exact progress.grows
  | answered asked answer _ progress _ =>
    exact (asked.grows.trans answer.grows).trans progress.grows

theorem Kept.reconnects (honest : Honest env taskId) {spool spool' : SenderSpool} {done : Bool}
    (kept : Kept spool.files net) (reconnects : Reconnects env spool net done spool' after)
    (own : OwnReplies taskId after) : Kept spool'.files after := by
  cases reconnects with
  | resuming greets resumes => exact (kept.grows greets.grows).resumes honest resumes own
  | replaying greets resumes replays =>
    obtain ⟨_, progress⟩ := replays.progress
    have pruned := (kept.grows greets.grows).resumes honest resumes
      (own.before progress.grows)
    exact pruned.grows progress.grows

theorem ResumeSession.Reconnects.grows {spool spool' : SenderSpool} {done : Bool}
    (reconnects : Reconnects env spool net done spool' after) : Grows net after := by
  cases reconnects with
  | resuming greets resumes => exact greets.grows.trans (Resumes.grows resumes)
  | replaying greets resumes replays =>
    obtain ⟨_, progress⟩ := replays.progress
    exact (greets.grows.trans (Resumes.grows resumes)).trans progress.grows

/-! ## `sendFrame` -/

variable {session : Session} {frame : RawFrame}

/-- Only `frame` itself can be persisted under its id and not be stored. -/
def Sole (frame : RawFrame) (net : Net) : Prop :=
  ∀ other, .persisted other ∈ net.history → other.frameId = frame.frameId →
    .stored other ∈ net.history ∨ other = frame

theorem Sole.grows (sole : Sole frame net) (growth : Grows net after) : Sole frame after :=
  fun other persisted same => (sole other (growth.persisted persisted) same).imp growth.mem id

/-- Writing the file of `frame`, or a part of it when that does no harm. -/
theorem Kept.landed {spool : SenderSpool} (kept : Kept spool.files net) {written : Nat}
    (same : ∀ other, .persisted other ∈ net.history → other.frameId = frame.frameId →
      .stored other ∈ net.history ∨ (other = frame ∧ (spoolFile frame).length ≤ written)) :
    Kept (spool.landed frame written).files net := by
  intro other persisted
  -- only the file of the same id is written
  cases eq_or_ne other.frameId frame.frameId with
  | inl sameId =>
    rcases same other persisted sameId with stored | ⟨rfl, whole⟩
    · exact .inr stored
    · exact .inl (by rw [landed_files, AList.lookup_insert, List.take_of_length_le whole])
  | inr otherId =>
    cases kept other persisted with
    | inl held =>
      exact .inl (by
        rw [landed_files, AList.lookup_insert_ne (filePathFor_injective.ne otherId), held])
    | inr stored => exact .inr stored

theorem persist_kept (careful : CarefulSend env taskId frame session)
    (kept : Kept session.spool.files session.net) :
    wp (persist env frame)
      (fun _ after => Kept after.spool.files after.net ∧ Sole frame after.net)
      (fun _ after => Kept after.spool.files after.net) session := by
  have ticks : Progress [] session.net (session.net.tick env) :=
    .of_ticks (Ticks.tick env session.net)
  have kept' := kept.grows ticks.grows
  have same : ∀ other, .persisted other ∈ (session.net.tick env).history →
      other.frameId = frame.frameId → .stored other ∈ (session.net.tick env).history ∨
        (other = frame ∧ (env.disk (session.net.tick env)).Whole frame) :=
    fun other persisted sameId =>
      (careful.same other (ticks.grows.persisted persisted) sameId).imp ticks.mem id
  have sole : Sole frame (session.net.tick env) := fun other persisted sameId =>
    (same other persisted sameId).imp id And.left
  refine wp_persist env (fun _ => kept') (fun _ => ⟨kept', sole⟩) (fun written _ fault => ?_)
    (fun written _ fault => ?_) (fun _ _ _ => ?_)
  · rw [fault] at same
    exact ⟨kept'.landed same, sole⟩
  · rw [fault] at same
    exact kept'.landed same
  · have whole : Kept (session.spool.landed frame (spoolFile frame).length).files
        (session.net.tick env) :=
      kept'.landed fun other persisted sameId =>
        (same other persisted sameId).imp id fun known => ⟨known.1, Nat.le_refl _⟩
    refine ⟨fun other persisted => ?_, fun other persisted sameId => ?_⟩
    · cases List.mem_append.mp persisted with
      | inl old => exact (whole other old).imp id (List.mem_append_left _)
      | inr new =>
        obtain rfl : other = frame := by simpa using new
        exact .inl (by simp [record, AList.lookup_insert])
    · cases List.mem_append.mp persisted with
      | inl old => exact (sole other old sameId).imp (List.mem_append_left _) id
      | inr new => exact .inr (by simpa using new)

/-- Up to the direct send, whatever replies were accepted, provided that they were own ones. -/
theorem prepare_kept (honest : Honest env taskId) (careful : CarefulSend env taskId frame session)
    (kept : Kept session.spool.files session.net) :
    wp (prepare env taskId frame)
      (fun _ after => OwnReplies taskId after.net →
        Kept after.spool.files after.net ∧ Sole frame after.net)
      (fun _ after => OwnReplies taskId after.net → Kept after.spool.files after.net) session := by
  refine wp_prepare env taskId
    ((persist_kept careful kept).mono (fun _ middle persisted => ?_) (fun _ _ kept _ => kept))
  obtain ⟨kept, sole⟩ := persisted
  exact ⟨fun _ _ => ⟨kept, sole⟩, fun _ _ _ => ⟨kept, sole⟩, fun _ _ =>
    (wp_reconnectAndResume env taskId).mono
      (fun _ after reconnects own => ⟨kept.reconnects honest reconnects own,
        sole.grows (Reconnects.grows reconnects)⟩)
      (fun _ after reconnects own => kept.reconnects honest reconnects own)⟩

theorem sendFrame_kept (honest : Honest env taskId)
    (careful : CarefulSend env taskId frame session)
    (kept : Kept session.spool.files session.net) :
    wp (ResumeSession.sendFrame env taskId frame)
      (fun _ after => OwnReplies taskId after.net → Kept after.spool.files after.net)
      (fun _ after => OwnReplies taskId after.net → Kept after.spool.files after.net) session := by
  rw [wp_sendFrame_iff]
  refine ((prepare_kept honest careful kept).and careful.stored).mono ?_
    (fun _ _ ended => ended.1)
  rintro reached middle ⟨prepared, stored⟩
  cases reached with
  | false => exact fun own => (prepared own).1
  | true =>
    refine ((wp_transmit env).and (stored rfl)).mono ?_ ?_
    · rintro sent last ⟨⟨same, progress, _⟩, stored⟩
      cases sent with
      | false =>
        intro own
        rw [same]
        exact (prepared (own.before progress.grows)).1.grows progress.grows
      | true =>
        intro own other persisted
        obtain ⟨kept, sole⟩ := prepared (own.before progress.grows)
        by_cases sameId : other.frameId = frame.frameId
        · -- the frame under this id is stored, or it is the one that was just sent
          rcases sole.grows progress.grows other persisted sameId with before | rfl
          · exact .inr before
          · exact .inr (stored rfl)
        · refine (kept.grows progress.grows other persisted).imp (fun held => ?_) id
          rw [same, removeFrame_files, AList.lookup_erase_ne (filePathFor_injective.ne sameId)]
          exact held
    · rintro _ last ⟨⟨same, progress⟩, _⟩ own
      rw [same]
      exact (prepared (own.before progress.grows)).1.grows progress.grows

/-- One careful call. -/
theorem next_kept (honest : Honest env taskId) {call : Call}
    (careful : Careful env taskId call session) (kept : Kept session.spool.files session.net) :
    Kept (call.next env taskId session).spool.files (call.next env taskId session).net := by
  have ends : wp (call.perform env taskId)
      (fun _ after => OwnReplies taskId after.net → Kept after.spool.files after.net)
      (fun _ after => OwnReplies taskId after.net → Kept after.spool.files after.net) session := by
    cases call with
    | start =>
      exact (wp_reconnectAndResume env taskId).mono
        (fun _ _ reconnects => kept.reconnects honest reconnects)
        (fun _ _ reconnects => kept.reconnects honest reconnects)
    | sendFrame frame => exact sendFrame_kept honest (careful.send frame rfl) kept
    | reconnectAndResume =>
      exact (wp_reconnectAndResume env taskId).mono
        (fun _ _ reconnects => kept.reconnects honest reconnects)
        (fun _ _ reconnects => kept.reconnects honest reconnects)
    | requestResume =>
      exact (wp_requestResume env taskId).mono
        (fun _ _ resumes => kept.resumes honest resumes)
        (fun _ _ resumes => kept.resumes honest resumes)
    | replayPendingFrames =>
      have replayed : ∀ after, Replays session.spool.files session.net after →
          OwnReplies taskId after → Kept session.spool.files after := fun _ replays _ =>
        let ⟨_, progress⟩ := replays.progress
        kept.grows progress.grows
      exact wp_replayPendingFrames env (fun _ _ => kept) (fun _ => replayed) (fun _ => replayed)
    | setMaxSpoolBytes maxBytes => exact fun _ => kept
    | restart => exact fun _ => kept
  refine Call.next_of_wp (I := fun after => Kept after.spool.files after.net) ?_
    (fun _ kept => kept)
  exact (ends.and careful.own).mono (fun _ _ ended => ended.1 ended.2)
    (fun _ _ ended => ended.1 ended.2)

end Steps

/-- In a run of careful calls, restarts and failures of every kind included, every frame that was
    persisted is in the spool or stored by the receiver. -/
theorem no_frame_lost (env : Environment) (taskId : UInt64) (honest : Honest env taskId)
    (files : Directory) (calls : List Call)
    (careful : Admits (Call.next env taskId) (Careful env taskId) calls (construct files {})) :
    Kept (run (Call.next env taskId) calls (construct files {})).spool.files
      (run (Call.next env taskId) calls (construct files {})).net :=
  run_invariant (I := fun _ session => Kept session.spool.files session.net)
    (fun _ _ _ kept careful => next_kept honest careful kept) calls _
    (fun _ persisted => by simp [construct] at persisted) careful

/-- A receiver that answers 0 as long as it has stored all frames up to 0. -/
def answersZero (taskId : UInt64) (net : Net) : Option ResumeReply :=
  if net.history.all fun
      | .persisted frame => 0 < frame.frameId || .stored frame ∈ net.history
      | _ => true
  then some ⟨taskId, 0⟩ else none

theorem answersZero_honest (taskId : UInt64) (stores : Net → List RawFrame) :
    Honest (.serving (answersZero taskId) stores) taskId := by
  intro net reply frame parsed _ persisted covers
  have answer := Environment.serving_reply parsed
  unfold answersZero at answer
  split at answer
  · next all =>
    obtain rfl := Option.some.inj answer
    have stored := List.all_eq_true.mp all _ persisted
    simp only [Bool.or_eq_true, decide_eq_true_eq] at stored
    exact stored.resolve_left (UInt64.not_lt.mpr covers)
  · exact absurd answer (by simp)

/-- A receiver that stores every frame it has read in full: the frame is stored when it is
    removed from the spool. -/
theorem no_frame_lost_prompt :
    Kept (run (Call.next (.serving (answersZero 1) Net.frames) 1)
        [.sendFrame (pixel 5 1), .restart] (construct ∅ {})).spool.files
      (run (Call.next (.serving (answersZero 1) Net.frames) 1)
        [.sendFrame (pixel 5 1), .restart] (construct ∅ {})).net :=
  no_frame_lost _ 1 (answersZero_honest 1 _) ∅ _
    ⟨⟨by decide +kernel, by
      rintro _ ⟨⟩
      exact ⟨fun _ persisted => by simp [construct] at persisted, by decide +kernel⟩⟩,
    ⟨by decide +kernel, by simp⟩, trivial⟩

/-- The receiver never reads the bytes that `send` took: the frame is removed from the spool and
    stored nowhere. -/
theorem unread_frame_lost :
    Honest (.serving (answersZero 1) fun _ => []) 1 ∧
      ¬ Kept
        (run (Call.next (.serving (answersZero 1) fun _ => []) 1) [.sendFrame (pixel 5 1)]
          (construct ∅ {})).spool.files
        (run (Call.next (.serving (answersZero 1) fun _ => []) 1) [.sendFrame (pixel 5 1)]
          (construct ∅ {})).net := by
  refine ⟨answersZero_honest 1 _, fun kept => ?_⟩
  cases kept (pixel 5 1) (by decide +kernel) with
  | inl held => exact absurd held (by decide +kernel)
  | inr stored => exact absurd stored (by decide +kernel)

end PictureReconstruct
