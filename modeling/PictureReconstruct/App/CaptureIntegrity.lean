import PictureReconstruct.App.BufferSharing

/-! # From the camera to the wire

Where the ids of captured frames end up.  The ids are 64-bit numbers in the order of capture, and
the queue only ever drops some of them.

* `Fate`, `SenderState.ids`: the five places a captured id can be in.
* `FatesDisjoint`, `Progress`: what every step keeps of them.
* `capture_integrity`: while fewer than 2^64 frames have been captured, the frames handed to
  `sendFrame` have increasing ids and their own pixels, and every captured id has one fate.
* `ids_wrap`: one frame later the ids start again.
-/

namespace PictureReconstruct.App

open Library.Runs

variable {n : Nat}

/-- Where the id of a captured frame is. -/
inductive Fate
  /-- in the hand of `captureLoop` -/
  | inHand
  | queued
  | evicted
  | refused
  /-- taken by `sendLoop` -/
  | popped

/-- The id of the frame that `sendFrame` is at work on. -/
def SendPosition.handed : SendPosition n → List UInt64
  | .starting frame => [frame.frameId]
  | .sending frame _ _ _ => [frame.frameId]
  | _ => []

/-- The loop ends or has ended. -/
inductive SendPosition.Left : SendPosition n → Prop
  | leaving {frame : SharedFrame n} : Left (.leaving frame true)
  | ended : Left .ended

namespace SenderState

/-- The ids that `captureLoop` gave out. -/
def capturedIds (state : SenderState n) : List UInt64 :=
  state.captured.map CapturedFrame.frameId

/-- The ids of the frames that `sendFrame` was called for, in order. -/
def handed (state : SenderState n) : List UInt64 :=
  state.sent.map SentFrame.frameId ++ state.send.handed

/-- The ids with a fate. -/
def ids (state : SenderState n) : Fate → List UInt64
  | .inHand => state.capture.frames.map SharedFrame.frameId
  | .queued => state.queue.queue.map SharedFrame.frameId
  | .evicted => state.evicted
  | .refused => state.refused
  | .popped => state.popped

end SenderState

/-! ## Ids -/

/-- The ids are the numbers from 1 on, as far as 64 bits go. -/
structure Numbered (state : SenderState n) : Prop where
  frameId : state.frameId = UInt64.ofNat state.captured.length
  ids : state.capturedIds =
    (List.range state.captured.length).map fun number => UInt64.ofNat (number + 1)

/-- Every captured id has a fate, and those that go through the queue stay in order. -/
structure FatesDisjoint (state : SenderState n) : Prop where
  ordered : (state.ids .popped ++ state.ids .queued ++ state.ids .inHand).Sublist
    state.capturedIds
  accounted : state.capturedIds.Perm (state.ids .evicted ++ state.ids .refused ++
    (state.ids .popped ++ state.ids .queued ++ state.ids .inHand))

/-- `sendFrame` was called for every popped frame but the last, which is being checked or for which
    the connection was broken. -/
def Progress (state : SenderState n) : Prop :=
  match state.send with
  | .checking frame => state.popped = state.handed ++ [frame.frameId]
  | .leaving _ true | .ended => state.popped = state.handed ∨
    ∃ frameId, state.popped = state.handed ++ [frameId] ∧ state.broken = true
  | _ => state.popped = state.handed

/-- A call of `sendFrame` fails only when the connection is broken, and is the last one. -/
def FailuresEnd (state : SenderState n) : Prop :=
  ∀ sent ∈ state.sent, sent.complete = false → state.broken = true ∧ state.send.Left

section Ids

variable {fragmentSize : UInt32} {state after : SenderState n}

theorem step_numbered (moves : Moves fragmentSize state after) (numbered : Numbered state) :
    Numbered after := by
  obtain ⟨frameId, ids⟩ := numbered
  cases moves with
  | @numbered image buffer copying =>
    have next : state.frameId + 1 = UInt64.ofNat (state.captured.length + 1) := by
      rw [frameId, UInt64.ofNat_add]
      rfl
    constructor
    · simp only [List.length_append, List.length_singleton]
      exact next
    · simp only [SenderState.capturedIds, List.map_append, List.length_append,
        List.length_singleton, List.range_succ, List.map_cons, List.map_nil]
      rw [next, ← ids, SenderState.capturedIds]
  | _ => exact ⟨frameId, ids⟩

theorem FatesDisjoint.same (fates : FatesDisjoint state)
    (captured : after.capturedIds = state.capturedIds)
    (evicted : after.ids .evicted = state.ids .evicted)
    (refused : after.ids .refused = state.ids .refused)
    (order : after.ids .popped ++ after.ids .queued ++ after.ids .inHand =
      state.ids .popped ++ state.ids .queued ++ state.ids .inHand) : FatesDisjoint after := by
  obtain ⟨ordered, accounted⟩ := fates
  constructor
  · rw [order, captured]
    exact ordered
  · rw [order, captured, evicted, refused]
    exact accounted

theorem step_fates (moves : Moves fragmentSize state after) (fates : FatesDisjoint state) :
    FatesDisjoint after := by
  cases moves with
  | captureIdled before now =>
    refine fates.same rfl rfl rfl ?_
    simp only [SenderState.ids, before.frames, now.frames]
  | acquired position _ | byteCopied position _ | frameDropped position | bufferDropped position =>
    refine fates.same rfl rfl rfl ?_
    simp only [SenderState.ids, position, CapturePosition.frames]
  | @numbered image buffer copying =>
    obtain ⟨ordered, accounted⟩ := fates
    simp only [SenderState.ids, copying, CapturePosition.frames, List.map_nil, List.append_nil]
      at ordered accounted
    simp only [SenderState.capturedIds] at ordered accounted
    constructor
    · simp only [SenderState.ids, SenderState.capturedIds, CapturePosition.frames,
        List.map_append, List.map_cons, List.map_nil]
      exact ordered.append (List.Sublist.refl _)
    · simp only [SenderState.ids, SenderState.capturedIds, CapturePosition.frames,
        List.map_append, List.map_cons, List.map_nil, ← List.append_assoc]
      simp only [← List.append_assoc] at accounted
      exact accounted.append_right _
  | @refused frame pushing stopped =>
    obtain ⟨ordered, accounted⟩ := fates
    simp only [SenderState.ids, pushing, CapturePosition.frames, List.map_cons, List.map_nil]
      at ordered accounted
    constructor
    · simp only [SenderState.ids, CapturePosition.frames, List.map_nil, List.append_nil]
      exact (List.sublist_append_left _ _).trans ordered
    · apply accounted.trans
      simp only [SenderState.ids, CapturePosition.frames, List.map_nil]
      grind
  | queued pushing longer _ =>
    refine fates.same rfl rfl rfl ?_
    simp only [SenderState.ids, pushing, longer, CapturePosition.frames, List.map_append,
      List.map_cons, List.map_nil, List.append_nil, List.append_assoc]
  | @evicted frame oldest rest queue pushing full before now kept =>
    obtain ⟨ordered, accounted⟩ := fates
    simp only [SenderState.ids, pushing, before, CapturePosition.frames, List.map_cons,
      List.map_nil] at ordered accounted
    constructor
    · simp only [SenderState.ids, now, CapturePosition.frames, List.map_append, List.map_cons,
        List.map_nil, List.append_nil, ← List.append_assoc]
      have shorter := (List.sublist_cons_self oldest.frameId (rest.map SharedFrame.frameId))
      exact ((shorter.append_left _).append_right _).trans ordered
    · apply accounted.trans
      rw [List.perm_iff_count]
      intro frameId
      simp only [SenderState.ids, now, CapturePosition.frames, List.map_append, List.map_cons,
        List.map_nil, List.count_append, List.count_cons, List.count_nil]
      omega
  | popped popping before now _ =>
    refine fates.same rfl rfl rfl ?_
    simp only [SenderState.ids, before, now, List.map_cons, List.append_assoc,
      List.singleton_append]
  | _ => exact fates.same rfl rfl rfl rfl

theorem step_progress (moves : Moves fragmentSize state after) (progress : Progress state) :
    Progress after := by
  cases moves with
  | @sendIdled send before running now =>
    have same : state.popped = state.sent.map SentFrame.frameId := by
      cases position : state.send with
      | testing | popping =>
        simp only [Progress, SenderState.handed, position, SendPosition.handed] at progress
        rw [progress, List.append_nil]
      | ended => exact absurd position running
      | checking | starting | sending | leaving =>
        rw [position] at before
        cases before
    cases now with
    | testing | popping => exact same.trans (List.append_nil _).symm
    | ended => exact .inl (same.trans (List.append_nil _).symm)
  | popped popping before now kept =>
    simp only [Progress, SenderState.handed, popping, SendPosition.handed] at progress
    simp only [Progress, SenderState.handed, SendPosition.handed, progress]
  | checked checking =>
    simp only [Progress, SenderState.handed, checking, SendPosition.handed] at progress
    simp only [Progress, SenderState.handed, SendPosition.handed, progress, List.append_nil]
  | disconnected checking =>
    simp only [Progress, SenderState.handed, checking, SendPosition.handed] at progress
    exact .inr ⟨_, progress, rfl⟩
  | emptyFrame starting _ | headerSent starting | headerFailed starting =>
    simp only [Progress, SenderState.handed, starting, SendPosition.handed] at progress
    simp [Progress, SenderState.fail, SenderState.handed, SendPosition.handed, progress]
  | bytesSent sending _ _ | fragmentSent sending _ | sendFailed sending | returned sending _ =>
    simp only [Progress, SenderState.handed, sending, SendPosition.handed] at progress
    simp [Progress, SenderState.fail, SenderState.handed, SendPosition.handed, progress]
  | @sentDropped frame ends leaving =>
    cases ends with
    | true =>
      simp only [Progress, SenderState.handed, leaving, SendPosition.handed] at progress
      exact progress
    | false =>
      simp only [Progress, SenderState.handed, leaving, SendPosition.handed] at progress
      exact progress
  | _ => exact progress

/-- A loop that is left stays so. -/
theorem left_after (moves : Moves fragmentSize state after) (left : state.send.Left) :
    after.send.Left := by
  cases moves with
  | sendIdled before running now =>
    cases position : state.send with
    | ended => exact absurd position running
    | testing | popping | checking | starting | sending =>
      rw [position] at left
      cases left
    | leaving =>
      rw [position] at before
      cases before
  | popped position | checked position | disconnected position | emptyFrame position
  | headerSent position | headerFailed position | bytesSent position | fragmentSent position
  | sendFailed position | returned position =>
    rw [position] at left
    cases left
  | sentDropped leaving =>
    rw [leaving] at left
    cases left
    exact .ended
  | _ => exact left

theorem broken_after (moves : Moves fragmentSize state after) (broken : state.broken = true) :
    after.broken = true := by
  cases moves with
  | disconnected | headerFailed | sendFailed => rfl
  | _ => exact broken

theorem step_failures (payloads : PayloadsIntact fragmentSize state)
    (moves : Moves fragmentSize state after) (failures : FailuresEnd state) :
    FailuresEnd after := by
  intro sent member failed
  have old : sent ∈ state.sent → after.broken = true ∧ after.send.Left := fun before =>
    have ⟨broken, left⟩ := failures sent before failed
    ⟨broken_after moves broken, left_after moves left⟩
  cases moves with
  | emptyFrame starting empty => exact absurd empty (payloads.notEmpty starting)
  | headerFailed | sendFailed => exact ⟨rfl, .leaving⟩
  | returned sending past =>
    cases List.mem_append.mp member with
    | inl before => exact old before
    | inr new =>
      obtain rfl := List.mem_singleton.mp new
      cases failed
  | _ => exact old member

end Ids

/-! ## Runs -/

/-- What holds in every state of a run. -/
structure CaptureInvariant (fragmentSize : UInt32) (state : SenderState n) : Prop where
  counted : PointersCounted state
  payloads : PayloadsIntact fragmentSize state
  numbered : Numbered state
  fates : FatesDisjoint state
  progress : Progress state
  failures : FailuresEnd state

section Runs

variable {fragmentSize : UInt32}

theorem CaptureInvariant.create (storage : Fin n → List UInt8)
    (sized : ∀ buffer, (storage buffer).length = bufferSize) {maxSize : Nat}
    (bounded : 0 < maxSize) : CaptureInvariant fragmentSize
      (SenderState.create (FrameBufferPool.create storage sized) maxSize bounded) where
  counted := ⟨⟨FrameBufferPool.create_conserved storage sized, fun _ => rfl⟩, nofun⟩
  payloads := ⟨nofun, nofun, nofun, nofun, nofun⟩
  numbered := ⟨rfl, rfl⟩
  fates := ⟨List.Sublist.refl [], List.Perm.refl []⟩
  progress := rfl
  failures := nofun

theorem CaptureInvariant.advance (positive : 0 < fragmentSize.toNat) (action : SenderAction)
    (state : SenderState n) (invariant : CaptureInvariant fragmentSize state) :
    CaptureInvariant fragmentSize (SenderState.advance fragmentSize action state) := by
  obtain stepped | same := advance_cases fragmentSize action state
  · have moves := step_moves stepped
    exact {
      counted := step_pointersCounted moves invariant.counted
      payloads := step_payloadsIntact positive invariant.counted moves invariant.payloads
      numbered := step_numbered moves invariant.numbered
      fates := step_fates moves invariant.fates
      progress := step_progress moves invariant.progress
      failures := step_failures invariant.payloads moves invariant.failures }
  · rw [same]
    exact invariant

theorem CaptureInvariant.run (positive : 0 < fragmentSize.toNat) (storage : Fin n → List UInt8)
    (sized : ∀ buffer, (storage buffer).length = bufferSize) {maxSize : Nat}
    (bounded : 0 < maxSize) (actions : List SenderAction) : CaptureInvariant fragmentSize
      (run (SenderState.advance fragmentSize) actions
        (SenderState.create (FrameBufferPool.create storage sized) maxSize bounded)) :=
  run_keeps (CaptureInvariant.advance positive) actions _ (CaptureInvariant.create storage sized
    bounded)

end Runs

/-! ## Integrity -/

/-- What the receiver can rely on, and where every captured id is. -/
structure WireIntegrity (fragmentSize : UInt32) (state : SenderState n) : Prop where
  captured : state.capturedIds.Pairwise (· < ·)
  handed : state.handed.Pairwise (· < ·)
  sent : ∀ sent ∈ state.sent, ∃ image, SentFrom state.captured sent image
  /-- the call of `sendFrame` that is running -/
  sending : ∀ frame index taken payload, state.send = .sending frame index taken payload →
    ∃ image, ⟨frame.frameId, image⟩ ∈ state.captured ∧
      payload = image.data.take (index * fragmentSize.toNat + taken)
  fate : ∀ frameId ∈ state.capturedIds, ∃! fate, frameId ∈ state.ids fate
  /-- an id is evicted by a newer one that is pushed to a full queue, as its oldest -/
  evicted : ∀ action after, SenderState.step fragmentSize action state = some after →
    after.evicted = state.evicted ∨ ∃ frame oldest rest, state.capture = .pushing frame ∧
      state.queue.queue.length = state.queue.maxSize ∧ state.queue.queue = oldest :: rest ∧
      oldest.frameId < frame.frameId ∧ after.evicted = state.evicted ++ [oldest.frameId]
  /-- an id is refused by a stopped queue -/
  refused : ∀ action after, SenderState.step fragmentSize action state = some after →
    after.refused = state.refused ∨ ∃ frame, state.capture = .pushing frame ∧
      state.queue.stopped = true ∧ after.refused = state.refused ++ [frame.frameId]
  /-- a popped id is handed to `sendFrame`, or is being checked, or the connection is broken -/
  popped : state.popped = state.handed ∨ ∃ frameId, state.popped = state.handed ++ [frameId] ∧
    ((∃ frame, state.send = .checking frame ∧ frame.frameId = frameId) ∨
      (state.broken = true ∧ state.send.Left))
  failures : FailuresEnd state

section Integrity

variable {fragmentSize : UInt32} {state after : SenderState n}

theorem Numbered.increasing (numbered : Numbered state) (few : state.captured.length < 2 ^ 64) :
    state.capturedIds.Pairwise (· < ·) := by
  rw [numbered.ids, List.pairwise_map]
  apply List.pairwise_lt_range.imp_of_mem
  intro first second _ member earlier
  have bound := List.mem_range.mp member
  rw [UInt64.lt_iff_toNat_lt, UInt64.toNat_ofNat', UInt64.toNat_ofNat', Nat.mod_eq_of_lt,
    Nat.mod_eq_of_lt] <;> omega

theorem Progress.popped (progress : Progress state) :
    state.popped = state.handed ∨ ∃ frameId, state.popped = state.handed ++ [frameId] ∧
      ((∃ frame, state.send = .checking frame ∧ frame.frameId = frameId) ∨
        (state.broken = true ∧ state.send.Left)) := by
  cases position : state.send with
  | checking frame =>
    simp only [Progress, position] at progress
    exact .inr ⟨frame.frameId, progress, .inl ⟨frame, rfl, rfl⟩⟩
  | leaving frame ends =>
    cases ends with
    | true =>
      simp only [Progress, position] at progress
      obtain all | ⟨frameId, last, broken⟩ := progress
      · exact .inl all
      · exact .inr ⟨frameId, last, .inr ⟨broken, .leaving⟩⟩
    | false =>
      simp only [Progress, position] at progress
      exact .inl progress
  | ended =>
    simp only [Progress, position] at progress
    obtain all | ⟨frameId, last, broken⟩ := progress
    · exact .inl all
    · exact .inr ⟨frameId, last, .inr ⟨broken, .ended⟩⟩
  | testing | popping | starting | sending =>
    simp only [Progress, position] at progress
    exact .inl progress

theorem Progress.handed_prefix (progress : Progress state) : state.handed <+: state.popped := by
  obtain all | ⟨frameId, last, _⟩ := progress.popped
  · exact all ▸ List.prefix_rfl
  · exact last ▸ List.prefix_append _ _

theorem FatesDisjoint.handed (fates : FatesDisjoint state) (progress : Progress state) :
    state.handed.Sublist state.capturedIds := by
  have popped : state.popped.Sublist state.capturedIds := by
    refine List.Sublist.trans ?_ fates.ordered
    rw [List.append_assoc]
    exact List.sublist_append_left _ _
  exact progress.handed_prefix.sublist.trans popped

theorem FatesDisjoint.unique (fates : FatesDisjoint state) (nodup : state.capturedIds.Nodup)
    (frameId : UInt64) (captured : frameId ∈ state.capturedIds) :
    ∃! fate, frameId ∈ state.ids fate := by
  have once := List.count_eq_one_of_mem nodup captured
  rw [fates.accounted.count_eq frameId] at once
  simp only [List.count_append] at once
  have somewhere : ∃ fate, frameId ∈ state.ids fate := by
    have member := fates.accounted.mem_iff.mp captured
    simp only [List.mem_append] at member
    obtain (evicted | refused) | (popped | queued) | inHand := member
    exacts [⟨.evicted, evicted⟩, ⟨.refused, refused⟩, ⟨.popped, popped⟩, ⟨.queued, queued⟩,
      ⟨.inHand, inHand⟩]
  obtain ⟨fate, member⟩ := somewhere
  refine ⟨fate, member, fun other member' => ?_⟩
  have here := List.count_pos_iff.mpr member
  have there := List.count_pos_iff.mpr member'
  -- two fates would count the id twice
  cases fate <;> cases other <;> first | rfl | omega

/-- What waits in the queue is older than what is pushed. -/
theorem FatesDisjoint.older (fates : FatesDisjoint state)
    (increasing : state.capturedIds.Pairwise (· < ·)) {frame oldest : SharedFrame n}
    (pushing : state.capture = .pushing frame) (queued : oldest ∈ state.queue.queue) :
    oldest.frameId < frame.frameId := by
  have ordered := increasing.sublist fates.ordered
  rw [List.pairwise_append] at ordered
  apply ordered.2.2 _ (List.mem_append_right _ (List.mem_map_of_mem queued)) _
  rw [SenderState.ids, pushing]
  exact List.mem_cons_self

theorem evicted_after (moves : Moves fragmentSize state after) :
    after.evicted = state.evicted ∨ ∃ frame oldest rest, state.capture = .pushing frame ∧
      state.queue.queue.length = state.queue.maxSize ∧ state.queue.queue = oldest :: rest ∧
      after.evicted = state.evicted ++ [oldest.frameId] := by
  cases moves with
  | @evicted frame oldest rest queue pushing full held now kept =>
    exact .inr ⟨frame, oldest, rest, pushing, full, held, rfl⟩
  | _ => exact .inl rfl

theorem refused_after (moves : Moves fragmentSize state after) :
    after.refused = state.refused ∨ ∃ frame, state.capture = .pushing frame ∧
      state.queue.stopped = true ∧ after.refused = state.refused ++ [frame.frameId] := by
  cases moves with
  | @refused frame pushing stopped => exact .inr ⟨frame, pushing, stopped, rfl⟩
  | _ => exact .inl rfl

end Integrity

/-- A one-byte image. -/
def dot : CameraImage where
  rows := 1
  cols := 1
  type := 0
  elemSize := 1
  data := [7]

def blank : Fin n → List UInt8 := fun _ => List.replicate bufferSize 0

theorem blank_length (buffer : Fin n) : (blank buffer).length = bufferSize :=
  List.length_replicate

/-- One image on its way to the wire, up to the frame header. -/
def headerActions : List SenderAction :=
  [.testCapturing, .read (some dot), .acquire, .copyByte, .number, .push, .dropFrame, .dropBuffer,
    .testRunning, .pop, .check true, .sendHeader true]

/-- While fewer than 2^64 frames have been captured, whatever the two threads do. -/
theorem capture_integrity (requested : UInt32) (storage : Fin n → List UInt8)
    (sized : ∀ buffer, (storage buffer).length = bufferSize) (maxSize : Nat)
    (bounded : 0 < maxSize) (actions : List SenderAction)
    (few : (run (SenderState.advance (RawFrameSender.setFragmentSize requested)) actions
      (SenderState.create (FrameBufferPool.create storage sized) maxSize
        bounded)).captured.length < 2 ^ 64) :
    WireIntegrity (RawFrameSender.setFragmentSize requested)
      (run (SenderState.advance (RawFrameSender.setFragmentSize requested)) actions
        (SenderState.create (FrameBufferPool.create storage sized) maxSize bounded)) := by
  have invariant := CaptureInvariant.run (setFragmentSize_positive requested) storage sized bounded
    actions
  have increasing := invariant.numbered.increasing few
  have handed := invariant.fates.handed invariant.progress
  refine ⟨increasing, increasing.sublist handed, invariant.payloads.sent, ?_, ?_, ?_, ?_,
    invariant.progress.popped, invariant.failures⟩
  · intro frame index taken payload sending
    obtain ⟨image, intact, upTo⟩ := invariant.payloads.progress frame index taken payload sending
    exact ⟨image, intact.captured, upTo.sent⟩
  · exact invariant.fates.unique (increasing.imp UInt64.ne_of_lt)
  · intro action after stepped
    obtain same | ⟨frame, oldest, rest, pushing, full, held, new⟩ :=
      evicted_after (step_moves stepped)
    · exact .inl same
    · have older := invariant.fates.older increasing pushing (held ▸ List.mem_cons_self)
      exact .inr ⟨frame, oldest, rest, pushing, full, held, older, new⟩
  · intro action after stepped
    exact refused_after (step_moves stepped)

/-- The second image evicts the first. -/
theorem capture_integrity_evicting :
    WireIntegrity (RawFrameSender.setFragmentSize 1024)
      (run (SenderState.advance (RawFrameSender.setFragmentSize 1024))
        (headerActions.take 8 ++ headerActions)
        (SenderState.create (FrameBufferPool.create blank (@blank_length 2)) 1 Nat.one_pos)) :=
  capture_integrity 1024 blank blank_length 1 Nat.one_pos _ (by decide)

/-! ## The ids wrap around -/

/-- `count` images, one after the other. -/
def rounds (count : Nat) : List SenderAction :=
  (List.replicate count
    (headerActions ++ [.sendBytes 1, .returnSent, .dropSent])).flatten

/-- `captureLoop` is between two frames, with nothing queued. -/
structure Drained (count : Nat) (state : SenderState 1) : Prop where
  capturing : state.capturing = true
  running : state.running = true
  capture : state.capture = .testing
  frameId : state.frameId = UInt64.ofNat count
  queue : state.queue.queue = []
  maxSize : state.queue.maxSize = 1
  stopped : state.queue.stopped = false

/-- Both threads are between two frames. -/
structure Rest (count : Nat) (state : SenderState 1) : Prop extends Drained count state where
  send : state.send = .testing
  freeBuffers : state.pool.freeBuffers = [0]
  owners : state.pool.owners 0 = 0
  sent : state.sent.map SentFrame.frameId =
    (List.range count).map fun number => UInt64.ofNat (number + 1)

section Wrap

variable {count : Nat} {state : SenderState 1}

theorem dot_fragments (frameId : UInt64) : (RawFrameSender.fragmentCount 1024
    (sharedFrame frameId dot (0 : Fin 1)).metadata).toNat = 1 := by
  have first : (RawFrameSender.fragmentCount 1024
    (sharedFrame 0 dot (0 : Fin 1)).metadata).toNat = 1 := by decide
  exact first

theorem dot_fragment_length (frameId : UInt64) :
    ¬ 1 < (state.fragmentBytes 1024 (sharedFrame frameId dot 0) 0).length := by
  have size : (RawFrameSender.chunkHeaderFor 1024 (sharedFrame 0 dot (0 : Fin 1)).metadata
      (UInt32.ofNat 0)).payloadSize.toNat = 1 := by decide
  exact Nat.not_lt.mpr (Nat.le_trans (List.length_take_le _ _) (Nat.le_of_eq size))

theorem dot_sent {frameId : UInt64}
    (sending : state.send = .sending (sharedFrame frameId dot 0) 0 0 []) :
    run (SenderState.advance 1024) [.sendBytes 1, .returnSent, .dropSent] state =
      { state with
        pool := state.pool.drop 0
        sent := state.sent ++
          [⟨frameId, state.fragmentBytes 1024 (sharedFrame frameId dot 0) 0, true⟩]
        send := .testing } := by
  simp only [run, SenderState.advance, SenderState.step, sending, dot_fragments, List.drop_zero,
    dot_fragment_length, Nat.one_ne_zero, Nat.zero_lt_one, Nat.lt_irrefl, Nat.zero_add, if_true,
    if_false, Option.getD_some, List.nil_append]
  rfl

theorem header_sent (rest : Rest count state) :
    ∃ after, run (SenderState.advance 1024) headerActions state = after ∧
      Drained (count + 1) after ∧
      after.send = .sending (sharedFrame (UInt64.ofNat (count + 1)) dot 0) 0 0 [] ∧
      after.pool.freeBuffers = [] ∧ after.pool.owners 0 = 1 ∧ after.sent = state.sent := by
  obtain ⟨⟨storage, sized, freeBuffers, owners⟩, ⟨queue, maxSize, stopped, positive, bounded⟩,
    capturing, running, frameId, capture, send, broken, captured, evicted, refused, popped,
    sent⟩ := state
  obtain ⟨⟨rfl, rfl, rfl, rfl, rfl, rfl, rfl⟩, rfl, rfl, free, ids⟩ := rest
  have next : UInt64.ofNat (count + 1) = UInt64.ofNat count + 1 := UInt64.ofNat_add ..
  have fits : dot.Fits := by decide
  have total : ∀ frameId, (sharedFrame frameId dot (0 : Fin 1)).totalBytes ≠ 0 := fun _ => by
    simp [sharedFrame, dot]
  have buffer : ∀ frameId, (sharedFrame frameId dot (0 : Fin 1)).buffer = 0 := fun _ => rfl
  have room : ¬ 1 ≤ 0 := by decide
  rw [next]
  refine ⟨_, rfl, ?_⟩
  simp only [headerActions, run, SenderState.advance, SenderState.step, FrameBufferPool.acquire,
    Option.getD_some, fits, if_true, FrameBufferPool.share, FrameBufferPool.write,
    FrameBufferPool.drop, SenderState.pushFrame, BlockingQueue.dropped, BlockingQueue.push,
    BlockingQueue.pop, BlockingQueue.ready, Function.update_self, Bool.false_eq_true, if_false,
    show dot.data = [7] from rfl, List.getElem?_cons_zero, List.length_singleton, Nat.zero_add,
    List.length_nil, room, dif_neg, not_false_eq_true, total, buffer, List.nil_append,
    List.isEmpty_cons, Bool.not_false, Bool.or_true, Bool.and_false, List.head?_cons,
    List.tail_cons]
  exact ⟨⟨rfl, rfl, rfl, next.symm, rfl, rfl, rfl⟩, trivial, rfl, trivial, trivial⟩

theorem round_rests (rest : Rest count state) :
    Rest (count + 1) (run (SenderState.advance 1024)
      (headerActions ++ [.sendBytes 1, .returnSent, .dropSent]) state) := by
  obtain ⟨after, header, drained, sending, freeBuffers, owners, same⟩ := header_sent rest
  rw [run_append, header, dot_sent sending]
  refine ⟨⟨drained.capturing, drained.running, drained.capture, drained.frameId, drained.queue,
    drained.maxSize, drained.stopped⟩, rfl, ?_, ?_, ?_⟩
  · simp only [FrameBufferPool.drop, owners, freeBuffers, if_true, List.nil_append]
  · simp only [FrameBufferPool.drop, owners, Function.update_self]
  · simp only [List.range_succ, List.map_append, ← rest.sent, same]
    rfl

/-- Both threads before the first frame. -/
def firstState : SenderState 1 :=
  SenderState.create (FrameBufferPool.create blank blank_length) 1 Nat.one_pos

theorem rounds_rest (count : Nat) :
    Rest count (run (SenderState.advance 1024) (rounds count) firstState) := by
  induction count with
  | zero => exact ⟨⟨rfl, rfl, rfl, rfl, rfl, rfl, rfl⟩, rfl, rfl, rfl, rfl⟩
  | succ count ih =>
    rw [rounds, List.replicate_succ', List.flatten_append, List.flatten_singleton, run_append]
    exact round_rests ih

theorem rounds_handed (count : Nat) :
    (run (SenderState.advance 1024) (rounds count) firstState).handed =
      (List.range count).map fun number => UInt64.ofNat (number + 1) := by
  have rest := rounds_rest count
  rw [SenderState.handed, rest.send, rest.sent]
  exact List.append_nil _

end Wrap

theorem last_increases {α : Type} [LT α] {f : Nat → α} {count last : Nat}
    (length : count = last + 2) (increasing : ((List.range count).map f).Pairwise (· < ·)) :
    f last < f (last + 1) := by
  rw [length, List.range_succ, List.range_succ, List.map_append, List.map_append,
    List.pairwise_append] at increasing
  refine increasing.2.2 _ ?_ _ List.mem_cons_self
  exact List.mem_append_right _ List.mem_cons_self

/-- The frame after the one with the id 2^64 - 1 has the id 0. -/
theorem ids_wrap : ¬ (run (SenderState.advance (RawFrameSender.setFragmentSize 1024))
    (rounds (2 ^ 64)) firstState).handed.Pairwise (· < ·) := by
  intro increasing
  rw [show RawFrameSender.setFragmentSize 1024 = 1024 from rfl, rounds_handed] at increasing
  have last := @last_increases _ _ _ _ (2 ^ 64 - 2) (by decide) increasing
  exact absurd last (by decide)

end PictureReconstruct.App
