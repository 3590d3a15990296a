import PictureReconstruct.Network.ResumeRuns

/-! # What `requestResume` deletes

A reply is accepted when it parses; its task id is printed and not compared.  The frames removed
are those with an id up to the reply's, by file name.

* `DeletesOwnOnly`: what is deleted was covered by a reply for the session's task, and a call
  that returns `false` changes neither the spool nor the highest durable frame.
* `requestResume_deletes_own_iff`: for any directory, session and peer, exactly when this holds.
* `foreign_reply_deletes`: a reply for another task empties the spool.
-/

namespace PictureReconstruct

open Library.Procedure ProtocolV2 TcpClient SenderSpool ResumeSession Session

variable (env : Environment) (taskId : UInt64) (allocates : List Char → Nat → Bool)
  (session : Session)

/-- Every frame that is gone from the spool in `after` was covered by the reply that came, and
    that reply names the session's task. -/
def Justified (after : Session) : Prop :=
  ∀ name frame, Spooled session.spool.files name frame → name ∉ after.spool.files →
    ∃ reply net, receiveReply env taskId session.net = .ok (some reply) net ∧
      reply.taskId = taskId ∧ frame.frameId ≤ reply.highestDurableFrameSeq

def DeletesOwnOnly : Prop :=
  wp (requestResume env taskId allocates)
    (fun done after => Justified env taskId session after ∧
      (done = false → after.spool = session.spool ∧
        after.highestDurableFrameSeq = session.highestDurableFrameSeq))
    (fun _ after => Justified env taskId session after) session

/-- The frames in the files that a reply lets `requestResume` remove are covered by a reply for
    the session's task. -/
def CoversOwn (files : Directory) (reply : ResumeReply) : Prop :=
  ∀ name frame, Spooled files name frame → name ∈ (covered reply files).map filePathFor →
    reply.taskId = taskId ∧ frame.frameId ≤ reply.highestDurableFrameSeq

variable {env taskId allocates session}

theorem Justified.of_spool_eq {after : Session} (same : after.spool = session.spool) :
    Justified env taskId session after := fun _ _ spooled gone =>
  absurd spooled.mem (same ▸ gone)

/-- A process that is not killed removes everything that the reply covers. -/
theorem prune_removes (lives : ∀ net, env.dies net = false) {reply : ResumeReply}
    (loads : Loads session.spool.files allocates) :
    wp (prune env reply allocates)
      (fun _ after =>
        after.spool = session.spool.removeAll (covered reply session.spool.files))
      (fun _ _ => False) session :=
  wp_prune env (fun unread => absurd loads unread)
    (fun _ net _ _ _ dies => absurd ((lives net).symm.trans dies) Bool.noConfusion)
    (fun _ _ _ _ => rfl)

theorem prune_unread {reply : ResumeReply} (unread : ¬ Loads session.spool.files allocates) :
    wp (prune env reply allocates) (fun _ _ => False) (fun _ after => after.spool = session.spool)
      session :=
  wp_prune env (fun _ => rfl) (fun _ _ loads _ _ _ => absurd loads unread)
    (fun _ loads _ _ => absurd loads unread)

theorem mem_removeAll {spool : SenderSpool} {removed : List UInt64} {name : List Char} :
    name ∈ (spool.removeAll removed).files ↔
      name ∈ spool.files ∧ name ∉ removed.map filePathFor := by
  rw [← AList.lookup_isSome, removeAll_lookup, ← AList.lookup_isSome]
  split
  · next gone => simp [gone]
  · next kept => simp [kept]

/-- The frames deleted are covered by an own reply, and a failed call changes nothing, exactly
    when the spool cannot be read, or no reply is accepted, or the reply that is accepted names
    the session's task and covers the frames in all files it removes, or these files hold no
    frame. -/
theorem requestResume_deletes_own_iff (lives : ∀ net, env.dies net = false) :
    DeletesOwnOnly env taskId allocates session ↔
      (Loads session.spool.files allocates → ∀ reply net,
        receiveReply env taskId session.net = .ok (some reply) net →
        CoversOwn taskId session.spool.files reply) := by
  unfold DeletesOwnOnly
  rw [wp_requestResume_iff]
  simp only [onNet, wp_zoom]
  cases received : receiveReply env taskId session.net with
  | error cause net =>
    have justified : Justified env taskId session { session with net } := .of_spool_eq rfl
    simpa [wp, received] using justified
  | ok answer net =>
    cases answer with
    | none =>
      have justified : Justified env taskId session { session with net } := .of_spool_eq rfl
      simpa [wp, received] using justified
    | some reply =>
      -- from here on the reply is fixed
      have reached : ∀ {Q : Option ResumeReply → Net → Prop} {E : Abort → Net → Prop},
          wp (receiveReply env taskId) Q E session.net ↔ Q (some reply) net := by
        simp [wp, received]
      rw [reached]
      simp only [Bool.true_eq_false, false_implies, and_true]
      by_cases loads : Loads session.spool.files allocates
      · have pruned : wp (prune env reply allocates)
            (fun _ after =>
              after.spool = session.spool.removeAll (covered reply session.spool.files))
            (fun _ _ => False) { session with net } := prune_removes lives loads
        constructor
        · rintro deletes _ _ _ ⟨⟩ name frame spooled removed
          cases run : prune env reply allocates { session with net } with
          | error _ _ => exact (pruned.error run).elim
          | ok _ after =>
            have gone : name ∉ after.spool.files := by
              rw [pruned.ok run, mem_removeAll]
              exact fun kept => kept.2 removed
            obtain ⟨_, _, same, own, covers⟩ := deletes.ok run name frame spooled gone
            cases received.symm.trans same
            exact ⟨own, covers⟩
        · intro owns
          refine pruned.mono (fun _ after exact name frame spooled gone => ?_)
            (fun _ _ impossible => impossible.elim)
          rw [exact, mem_removeAll, not_and_not_right] at gone
          exact ⟨reply, net, received, owns loads reply net rfl name frame spooled
            (gone spooled.mem)⟩
      · have unread : wp (prune env reply allocates) (fun _ _ => False)
            (fun _ after => after.spool = session.spool) { session with net } :=
          prune_unread loads
        exact ⟨fun _ readable => absurd readable loads, fun _ =>
          unread.mono (fun _ _ impossible => impossible.elim) fun _ _ same => .of_spool_eq same⟩

/-- A spool as `persist` fills it: the reply has to name the session's task or cover nothing. -/
theorem coversOwn_iff_of_filed {files : Directory} {reply : ResumeReply}
    (filed : Filed files) :
    CoversOwn taskId files reply ↔ reply.taskId = taskId ∨ covered reply files = [] := by
  constructor
  · intro owns
    rcases List.eq_nil_or_concat (covered reply files) with nothing | ⟨_, frameId, last⟩
    · exact .inr nothing
    · have removed : frameId ∈ covered reply files := by rw [last]; simp
      obtain ⟨_, frame, member, rfl⟩ := mem_covered.mp removed
      obtain ⟨name, spooled⟩ := mem_pending.mp member
      exact .inl (owns name frame spooled
        (List.mem_map.mpr ⟨_, removed, (filed.named name frame spooled).symm⟩)).1
  · rintro own name frame spooled removed
    obtain ⟨frameId, covers, same⟩ := List.mem_map.mp removed
    have matching := filePathFor_injective (same.trans (filed.named name frame spooled))
    cases own with
    | inl own => exact ⟨own, matching ▸ (mem_covered.mp covers).1⟩
    | inr nothing => simp [nothing] at covers

/-- A connected session with one frame in its spool. -/
def onePending : Session where
  spool := (openRoot ∅).landed (pixel 5 1) 41
  net := { connected := true, connection := 1 }

theorem requestResume_deletes_own_matching :
    DeletesOwnOnly (.serving (fun _ => some ⟨1, 5⟩) fun _ => []) 1 (fun _ n => n ≤ 2 ^ 30)
      onePending := by
  refine (requestResume_deletes_own_iff fun _ => rfl).mpr fun _ reply net received => ?_
  have answer : wp (receiveReply (.serving (fun _ => some ⟨1, 5⟩) fun _ => []) 1)
      (fun reply _ => reply = some ⟨1, 5⟩) (fun _ _ => False) onePending.net := by
    decide +kernel
  obtain rfl := Option.some.inj (answer.ok received)
  rintro name frame ⟨bytes, held, _, load⟩ removed
  have only : (covered ⟨1, 5⟩ onePending.spool.files).map filePathFor = [filePathFor 5] := by
    decide +kernel
  obtain rfl : name = filePathFor 5 := by simpa [only] using removed
  have file : onePending.spool.files.lookup (filePathFor 5) = some (spoolFile (pixel 5 1)) := by
    decide +kernel
  have frame' : loaded (spoolFile (pixel 5 1)) = some (pixel 5 1) := by decide +kernel
  obtain rfl := Option.some.inj (file.symm.trans held)
  obtain rfl := Option.some.inj (frame'.symm.trans load)
  exact ⟨rfl, by decide⟩

/-- A reply that names task 2 deletes a frame of task 1. -/
theorem foreign_reply_deletes :
    ¬ DeletesOwnOnly (.serving (fun _ => some ⟨2, 5⟩) fun _ => []) 1 (fun _ _ => true)
      onePending := by
  intro deletes
  have emptied : wp (requestResume (.serving (fun _ => some ⟨2, 5⟩) fun _ => []) 1)
      (fun _ after => filePathFor 5 ∉ after.spool.files) (fun _ _ => False) onePending := by
    decide +kernel
  have spooled : Spooled onePending.spool.files (filePathFor 5) (pixel 5 1) :=
    ⟨spoolFile (pixel 5 1), by decide +kernel, by decide +kernel, by decide +kernel⟩
  have foreign : ∀ reply net,
      receiveReply (.serving (fun _ => some ⟨2, 5⟩) fun _ => []) 1 onePending.net =
        .ok (some reply) net → reply.taskId ≠ 1 := by
    intro reply net received
    have answer : wp (receiveReply (.serving (fun _ => some ⟨2, 5⟩) fun _ => []) 1)
        (fun reply _ => reply = some ⟨2, 5⟩) (fun _ _ => False) onePending.net := by
      decide +kernel
    rw [Option.some.inj (answer.ok received)]
    decide
  cases run : requestResume (.serving (fun _ => some ⟨2, 5⟩) fun _ => []) 1 (fun _ _ => true)
      onePending with
  | error _ _ => exact (emptied.error run).elim
  | ok done after =>
    obtain ⟨reply, net, received, own, _⟩ :=
      (deletes.ok run).1 _ _ spooled (emptied.ok run)
    exact foreign reply net received own

end PictureReconstruct
