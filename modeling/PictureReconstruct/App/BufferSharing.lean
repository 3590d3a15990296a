import PictureReconstruct.App.CaptureToWire
import PictureReconstruct.Network.StreamRoundTrip

/-! # The buffers that the two threads share

A buffer goes back to the pool with its last pointer, so nobody fills one that is still read.

* `PointersCounted`: every pointer is counted, and the one to a buffer being filled is the only one.
* `PayloadsIntact`: the buffer of every frame holds what was copied for its id, and what was sent of
  a frame is a part of that.
* `step_pointersCounted`, `step_payloadsIntact`: every step keeps both.
-/

namespace PictureReconstruct.App

open Library.Bytes

variable {n : Nat}

/-- The pointers of `captureLoop`. -/
def CapturePosition.pointers : CapturePosition n → List (Fin n)
  | .copying _ buffer _ => [buffer]
  | .pushing frame => [frame.buffer, frame.buffer]
  | .pushed frame => [frame.buffer, frame.buffer]
  | .releasing buffer => [buffer]
  | _ => []

/-- The frame that `captureLoop` has yet to push. -/
def CapturePosition.frames : CapturePosition n → List (SharedFrame n)
  | .pushing frame => [frame]
  | _ => []

/-- The frame of `sendLoop`. -/
def SendPosition.frames : SendPosition n → List (SharedFrame n)
  | .checking frame => [frame]
  | .starting frame => [frame]
  | .sending frame _ _ _ => [frame]
  | .leaving frame _ => [frame]
  | _ => []

theorem CapturePosition.Idle.pointers {capture : CapturePosition n} (idle : capture.Idle) :
    capture.pointers = [] := by
  cases idle <;> rfl

theorem CapturePosition.Idle.frames {capture : CapturePosition n} (idle : capture.Idle) :
    capture.frames = [] := by
  cases idle <;> rfl

theorem SendPosition.Idle.frames {send : SendPosition n} (idle : send.Idle) : send.frames = [] := by
  cases idle <;> rfl

namespace SenderState

/-- The frames that `captureLoop` has pushed and that may still be read. -/
def shared (state : SenderState n) : List (SharedFrame n) :=
  state.queue.queue ++ state.send.frames

/-- The frames that may still be read. -/
def frames (state : SenderState n) : List (SharedFrame n) := state.capture.frames ++ state.shared

end SenderState

/-! ## Use counts -/

/-- Every pointer is counted, and the pointer to a buffer being filled is the only one. -/
structure PointersCounted (state : SenderState n) : Prop where
  held : state.pool.HeldBy (state.capture.pointers ++ state.shared.map SharedFrame.buffer)
  alone : ∀ image buffer copied, state.capture = .copying image buffer copied →
    ∀ frame ∈ state.shared, frame.buffer ≠ buffer

section PointersCounted

variable {fragmentSize : UInt32} {state after : SenderState n}

theorem PointersCounted.same (counted : PointersCounted state) (pool : after.pool = state.pool)
    (capture : after.capture = state.capture) (queue : after.queue.queue = state.queue.queue)
    (frames : state.send.frames = after.send.frames) : PointersCounted after := by
  have shared : after.shared = state.shared := by
    rw [SenderState.shared, SenderState.shared, queue, frames]
  exact ⟨pool ▸ capture ▸ shared ▸ counted.held, capture ▸ shared ▸ counted.alone⟩

theorem step_pointersCounted (moves : Moves fragmentSize state after)
    (counted : PointersCounted state) : PointersCounted after := by
  obtain ⟨held, alone⟩ := counted
  cases moves with
  | flagged => exact ⟨held, alone⟩
  | queueStopped => exact ⟨held, alone⟩
  | captureIdled before now =>
    rw [before.pointers] at held
    refine ⟨?_, fun image buffer copied copying => ?_⟩
    · simp only [now.pointers]
      exact held
    · cases now <;> cases copying
  | @acquired image buffer pool acquiring acquired =>
    rw [acquiring] at held
    refine ⟨held.acquire acquired, fun _ _ _ copying frame member => ?_⟩
    obtain ⟨_, rfl, _⟩ := CapturePosition.copying.inj copying
    exact fun same => held.fresh acquired (List.mem_map.mpr ⟨frame, member, same⟩)
  | @byteCopied image buffer copied byte copying next =>
    rw [copying] at held
    refine ⟨held.write copied byte, fun _ _ _ copying' => ?_⟩
    obtain ⟨_, rfl, _⟩ := CapturePosition.copying.inj copying'
    exact alone image buffer copied copying
  | @numbered image buffer copying =>
    rw [copying] at held
    exact ⟨held.share List.mem_cons_self, nofun⟩
  | @refused frame pushing stopped =>
    rw [pushing] at held
    exact ⟨held, nofun⟩
  | @queued frame queue pushing longer kept =>
    rw [pushing] at held
    refine ⟨(held.share List.mem_cons_self).perm ?_, nofun⟩
    simp only [SenderState.shared, longer, CapturePosition.pointers, List.map_append,
      List.map_cons, List.map_nil]
    grind
  | @evicted frame oldest rest queue pushing full before now kept =>
    rw [pushing] at held
    have first : state.pool.HeldBy (oldest.buffer :: ([frame.buffer, frame.buffer] ++
        (rest ++ state.send.frames).map SharedFrame.buffer)) := by
      apply held.perm
      simp only [SenderState.shared, before, CapturePosition.pointers, List.map_append,
        List.map_cons]
      grind
    refine ⟨(first.drop.share List.mem_cons_self).perm ?_, nofun⟩
    simp only [SenderState.shared, now, CapturePosition.pointers, List.map_append, List.map_cons,
      List.map_nil]
    grind
  | @frameDropped frame pushed =>
    rw [pushed] at held
    exact ⟨held.drop, nofun⟩
  | @bufferDropped buffer releasing =>
    rw [releasing] at held
    exact ⟨held.drop, nofun⟩
  | sendIdled before _ now =>
    exact PointersCounted.same ⟨held, alone⟩ rfl rfl rfl (by rw [before.frames, now.frames])
  | @popped frame rest queue popping before now kept =>
    have same : state.shared.Perm (queue.queue ++ [frame]) := by
      simp only [SenderState.shared, before, now, popping, SendPosition.frames, List.append_nil]
      grind
    refine ⟨held.perm ((same.map SharedFrame.buffer).append_left _), ?_⟩
    intro image buffer copied copying other member
    exact alone image buffer copied copying other (same.mem_iff.mpr member)
  | checked position | disconnected position | emptyFrame position | headerSent position
  | headerFailed position | bytesSent position | fragmentSent position | sendFailed position
  | returned position =>
    exact PointersCounted.same ⟨held, alone⟩ rfl rfl rfl (by rw [position]; rfl)
  | @sentDropped frame ends leaving =>
    have same : state.shared = state.queue.queue ++ [frame] := by
      rw [SenderState.shared, leaving]
      rfl
    have left : SenderState.shared { state with
        pool := state.pool.drop frame.buffer
        send := if ends then .ended else .testing } = state.queue.queue := by
      cases ends <;> exact List.append_nil _
    refine ⟨?_, fun image buffer copied copying other member => ?_⟩
    · rw [left]
      refine (held.perm ?_).drop
      rw [same, List.map_append]
      grind
    · rw [left] at member
      exact alone image buffer copied copying other (same ▸ List.mem_append_left _ member)

end PointersCounted

/-! ## Payloads -/

theorem CameraImage.Fits.small {image : CameraImage} (fits : image.Fits) :
    image.data.length < 2 ^ 63 :=
  Nat.lt_of_le_of_lt fits.2 (by decide)

theorem CameraImage.Fits.totalBytes {image : CameraImage} (fits : image.Fits) :
    (UInt64.ofNat image.data.length).toNat = image.data.length :=
  UInt64.toNat_ofNat_of_lt' (Nat.lt_trans fits.small (by decide))

/-- The bytes of a fragment. -/
def CameraImage.fragment (image : CameraImage) (fragmentSize : UInt32) (index : Nat) : List UInt8 :=
  slice image.data (index * fragmentSize.toNat)
    (min fragmentSize.toNat (image.data.length - index * fragmentSize.toNat))

/-- The frame that the image is sent as. -/
def CameraImage.rawFrame (image : CameraImage) (fits : image.Fits) (frameId : UInt64) :
    RawFrame where
  frameId := frameId
  rows := image.rows
  cols := image.cols
  type := image.type
  elemSize := image.elemSize
  totalBytes := UInt64.ofNat image.data.length
  buffer := some image.data
  sized := by
    rintro _ ⟨⟩
    exact ⟨fits.totalBytes.symm, fits.small⟩

theorem CameraImage.sendable {image : CameraImage} (fits : image.Fits) (frameId : UInt64) :
    Sendable (image.rawFrame fits frameId) := by
  have bytes := fits.totalBytes
  have nonempty : 0 < image.data.length := List.length_pos_of_ne_nil fits.1
  constructor
  · simp only [RawFrame.empty, rawFrame, Option.isNone_some, Bool.false_or, beq_eq_false_iff_ne]
    intro zero
    rw [zero] at bytes
    exact absurd bytes (Nat.ne_of_lt nonempty)
  · rw [UInt64.le_iff_toNat_le]
    simp only [rawFrame, bytes]
    exact Nat.le_trans fits.2 (by decide)

/-- The buffer of the frame holds the image that was captured under its id. -/
structure Intact (state : SenderState n) (frame : SharedFrame n) (image : CameraImage) : Prop where
  fits : image.Fits
  captured : ⟨frame.frameId, image⟩ ∈ state.captured
  made : frame = sharedFrame frame.frameId image frame.buffer
  shown : (state.pool.storage frame.buffer).take image.data.length = image.data

section Fragments

variable {fragmentSize : UInt32} {state : SenderState n} {frame : SharedFrame n}
  {image : CameraImage} (positive : 0 < fragmentSize.toNat) (intact : Intact state frame image)

include positive intact

/-- The loop index runs over the fragments that start inside the image. -/
theorem Intact.lt_count (index : Nat) :
    index < (RawFrameSender.fragmentCount fragmentSize frame.metadata).toNat ↔
      index * fragmentSize.toNat < image.data.length := by
  have count := lt_fragmentCount positive (CameraImage.sendable intact.fits frame.frameId) index
  simp only [CameraImage.rawFrame, intact.fits.totalBytes] at count
  rw [intact.made]
  exact count

/-- `sendFrame` reads the fragments of the image from the buffer. -/
theorem Intact.fragmentBytes {index : Nat}
    (inside : index * fragmentSize.toNat < image.data.length) :
    state.fragmentBytes fragmentSize frame index = image.fragment fragmentSize index := by
  let rawFrame := image.rawFrame intact.fits frame.frameId
  have total : rawFrame.totalBytes.toNat = image.data.length := intact.fits.totalBytes
  have header : RawFrameSender.chunkHeaderFor fragmentSize frame.metadata (UInt32.ofNat index) =
      RawFrameSender.chunkHeaderFor fragmentSize rawFrame (UInt32.ofNat index) := by
    rw [congrArg SharedFrame.metadata intact.made]
    rfl
  have sendable : Sendable rawFrame := CameraImage.sendable intact.fits frame.frameId
  obtain ⟨offset, payloadSize⟩ := chunkHeaderFor_fields positive sendable (total.symm ▸ inside)
  rw [total] at payloadSize
  rw [SenderState.fragmentBytes, header, offset, payloadSize, CameraImage.fragment,
    ← slice_take _ (show _ ≤ image.data.length by omega), intact.shown]

end Fragments

/-- What a call has sent of a frame comes from the image that was captured under its id. -/
structure SentFrom (captured : List CapturedFrame) (sent : SentFrame) (image : CameraImage) :
    Prop where
  captured : ⟨sent.frameId, image⟩ ∈ captured
  payload : sent.payload <+: image.data
  complete : sent.complete = true → sent.payload = image.data

/-- `payload` is what comes before byte `taken` of fragment `index`. -/
structure SentUpTo (fragmentSize : UInt32) (image : CameraImage) (index taken : Nat)
    (payload : List UInt8) : Prop where
  inside : taken ≤ min fragmentSize.toNat (image.data.length - index * fragmentSize.toNat)
  sent : payload = image.data.take (index * fragmentSize.toNat + taken)

structure PayloadsIntact (fragmentSize : UInt32) (state : SenderState n) : Prop where
  fits : ∀ image, state.capture = .acquiring image → image.Fits
  filled : ∀ image buffer copied, state.capture = .copying image buffer copied →
    image.Fits ∧ (state.pool.storage buffer).take copied = image.data.take copied
  intact : ∀ frame ∈ state.frames, ∃ image, Intact state frame image
  progress : ∀ frame index taken payload, state.send = .sending frame index taken payload →
    ∃ image, Intact state frame image ∧ SentUpTo fragmentSize image index taken payload
  sent : ∀ sent ∈ state.sent, ∃ image, SentFrom state.captured sent image

section PayloadsIntact

variable {fragmentSize : UInt32} {state after : SenderState n}

theorem captured_grows (moves : Moves fragmentSize state after) :
    ∀ captured ∈ state.captured, captured ∈ after.captured := by
  intro captured member
  cases moves with
  | numbered => exact List.mem_append_left _ member
  | _ => exact member

/-- Only a buffer that no frame shows is written to. -/
theorem storage_kept (counted : PointersCounted state) (moves : Moves fragmentSize state after)
    {frame : SharedFrame n} (member : frame ∈ state.frames) :
    after.pool.storage frame.buffer = state.pool.storage frame.buffer := by
  cases moves with
  | @byteCopied image buffer copied byte copying next =>
    rw [SenderState.frames, copying] at member
    have other := counted.alone image buffer copied copying frame member
    exact Function.update_of_ne other _ _
  | acquired acquiring acquired =>
    obtain ⟨_, _, rfl⟩ := FrameBufferPool.acquire_cases acquired
    rfl
  | _ => rfl

theorem Intact.kept {frame : SharedFrame n} {image : CameraImage}
    (intact : Intact state frame image) (counted : PointersCounted state)
    (moves : Moves fragmentSize state after) (member : frame ∈ state.frames) :
    Intact after frame image where
  fits := intact.fits
  captured := captured_grows moves _ intact.captured
  made := intact.made
  shown := (storage_kept counted moves member).symm ▸ intact.shown

/-- A frame that may still be read was there before, or has just been made of the image that fills
    its buffer. -/
theorem frames_after (moves : Moves fragmentSize state after) {frame : SharedFrame n}
    (member : frame ∈ after.frames) :
    frame ∈ state.frames ∨
      ∃ image buffer, state.capture = .copying image buffer image.data.length ∧
        frame = sharedFrame (state.frameId + 1) image buffer ∧
        after.captured = state.captured ++ [⟨state.frameId + 1, image⟩] ∧
        after.pool.storage = state.pool.storage := by
  cases moves with
  | flagged | queueStopped => exact .inl member
  | captureIdled before now =>
    rw [SenderState.frames, now.frames] at member
    exact .inl (List.mem_append_right _ member)
  | acquired | byteCopied | refused | frameDropped | bufferDropped =>
    exact .inl (List.mem_append_right _ member)
  | @numbered image buffer copying =>
    cases List.mem_cons.mp member with
    | inl made => exact .inr ⟨image, buffer, copying, made, rfl, rfl⟩
    | inr other => exact .inl (List.mem_append_right _ other)
  | queued pushing longer kept =>
    refine .inl ?_
    simp only [SenderState.frames, SenderState.shared, pushing, longer, CapturePosition.frames]
      at member ⊢
    grind
  | evicted pushing full before now kept =>
    refine .inl ?_
    simp only [SenderState.frames, SenderState.shared, pushing, before, now,
      CapturePosition.frames] at member ⊢
    grind
  | sendIdled before _ now =>
    refine .inl ?_
    rw [SenderState.frames, SenderState.shared, before.frames]
    rw [SenderState.frames, SenderState.shared, now.frames] at member
    exact member
  | popped popping before now kept =>
    refine .inl ?_
    simp only [SenderState.frames, SenderState.shared, popping, before, now,
      SendPosition.frames] at member ⊢
    grind
  | checked position | disconnected position | emptyFrame position | headerSent position
  | headerFailed position | bytesSent position | fragmentSent position | sendFailed position
  | returned position =>
    refine .inl ?_
    rw [SenderState.frames, SenderState.shared, position]
    exact member
  | @sentDropped frame ends leaving =>
    refine .inl ?_
    have left : ∀ send : SendPosition n,
        send = (if ends then .ended else .testing) → send.frames = [] := by
      rintro _ rfl
      cases ends <;> rfl
    simp only [SenderState.frames, SenderState.shared, left _ rfl] at member ⊢
    grind

theorem fits_after (moves : Moves fragmentSize state after)
    (payloads : PayloadsIntact fragmentSize state) (image : CameraImage)
    (acquiring : after.capture = .acquiring image) : image.Fits := by
  cases moves with
  | captureIdled _ now =>
    cases now with
    | acquiring fits => exact CapturePosition.acquiring.inj acquiring ▸ fits
    | testing | reading | ended => cases acquiring
  | acquired | byteCopied | numbered | refused | queued | evicted | frameDropped
  | bufferDropped => cases acquiring
  | _ => exact payloads.fits image acquiring

theorem filled_after (moves : Moves fragmentSize state after)
    (payloads : PayloadsIntact fragmentSize state) (image : CameraImage) (buffer : Fin n)
    (copied : Nat) (copying : after.capture = .copying image buffer copied) :
    image.Fits ∧ (after.pool.storage buffer).take copied = image.data.take copied := by
  cases moves with
  | captureIdled _ now => cases now <;> cases copying
  | acquired acquiring _ =>
    obtain ⟨rfl, _, rfl⟩ := CapturePosition.copying.inj copying
    exact ⟨payloads.fits _ acquiring, rfl⟩
  | @byteCopied image' buffer' copied' byte before next =>
    obtain ⟨rfl, rfl, rfl⟩ := CapturePosition.copying.inj copying
    obtain ⟨fits, filled⟩ := payloads.filled _ _ _ before
    obtain ⟨inside, rfl⟩ := List.getElem?_eq_some_iff.mp next
    refine ⟨fits, ?_⟩
    simp only [FrameBufferPool.write, Function.update_self]
    have room : copied' < (state.pool.storage buffer').length := by
      rw [state.pool.sized]
      exact Nat.lt_of_lt_of_le inside fits.2
    rw [List.take_succ_eq_append_getElem (by rw [List.length_set]; exact room),
      List.take_set_of_le (Nat.le_refl _), List.getElem_set_self, filled,
      List.take_succ_eq_append_getElem inside]
  | numbered | refused | queued | evicted | frameDropped | bufferDropped =>
    cases copying
  | _ => exact payloads.filled image buffer copied copying

theorem intact_after (counted : PointersCounted state) (moves : Moves fragmentSize state after)
    (payloads : PayloadsIntact fragmentSize state) (frame : SharedFrame n)
    (member : frame ∈ after.frames) : ∃ image, Intact after frame image := by
  obtain before | ⟨image, buffer, copying, made, captured, storage⟩ := frames_after moves member
  · obtain ⟨image, intact⟩ := payloads.intact frame before
    exact ⟨image, intact.kept counted moves before⟩
  · obtain ⟨fits, filled⟩ := payloads.filled _ _ _ copying
    refine ⟨image, fits, ?_, ?_, ?_⟩
    · rw [captured, made]
      exact List.mem_append_right _ List.mem_cons_self
    · rw [made]
      rfl
    · rw [storage, made]
      exact filled.trans (List.take_length)

theorem sending_frames {frame : SharedFrame n}
    (sending : state.send.frames = [frame]) : frame ∈ state.frames := by
  rw [SenderState.frames, SenderState.shared, sending]
  exact List.mem_append_right _ (List.mem_append_right _ List.mem_cons_self)

theorem PayloadsIntact.started (payloads : PayloadsIntact fragmentSize state)
    {frame : SharedFrame n} (starting : state.send = .starting frame) :
    ∃ image, Intact state frame image :=
  payloads.intact frame (sending_frames (by rw [starting]; rfl))

/-- No empty image is captured. -/
theorem PayloadsIntact.notEmpty (payloads : PayloadsIntact fragmentSize state)
    {frame : SharedFrame n} (starting : state.send = .starting frame) : frame.totalBytes ≠ 0 := by
  obtain ⟨image, intact⟩ := payloads.started starting
  intro empty
  rw [intact.made] at empty
  have counted := intact.fits.totalBytes
  rw [show UInt64.ofNat image.data.length = 0 from empty] at counted
  exact absurd (List.length_eq_zero_iff.mp counted.symm) intact.fits.1

/-- A piece of a fragment continues what was sent before it. -/
theorem SentUpTo.part {image : CameraImage} {index taken accepted : Nat} {payload : List UInt8}
    (upTo : SentUpTo fragmentSize image index taken payload)
    (part : accepted < ((image.fragment fragmentSize index).drop taken).length) :
    SentUpTo fragmentSize image index (taken + accepted)
      (payload ++ ((image.fragment fragmentSize index).drop taken).take accepted) := by
  rw [CameraImage.fragment, slice, List.length_drop, List.length_take] at part
  refine ⟨by omega, ?_⟩
  rw [upTo.sent, CameraImage.fragment, slice, List.drop_take, List.drop_drop, List.take_take,
    ← List.take_add, Nat.min_eq_left (by omega), Nat.add_assoc]

/-- Behind the rest of a fragment comes the next one. -/
theorem SentUpTo.rest {image : CameraImage} {index taken : Nat} {payload : List UInt8}
    (upTo : SentUpTo fragmentSize image index taken payload) :
    SentUpTo fragmentSize image (index + 1) 0
      (payload ++ (image.fragment fragmentSize index).drop taken) := by
  refine ⟨Nat.zero_le _, ?_⟩
  have inside := upTo.inside
  rw [upTo.sent, CameraImage.fragment, slice, List.drop_take, List.drop_drop, ← List.take_add,
    List.take_eq_take_iff, Nat.add_one_mul]
  omega

theorem progress_after (positive : 0 < fragmentSize.toNat) (counted : PointersCounted state)
    (moves : Moves fragmentSize state after) (payloads : PayloadsIntact fragmentSize state)
    (frame : SharedFrame n) (index taken : Nat) (payload : List UInt8)
    (sending : after.send = .sending frame index taken payload) :
    ∃ image, Intact after frame image ∧ SentUpTo fragmentSize image index taken payload := by
  have kept : ∀ {image}, Intact state frame image → state.send.frames = [frame] →
      Intact after frame image := fun intact held =>
    intact.kept counted moves (sending_frames held)
  have stays : state.send = .sending frame index taken payload →
      ∃ image, Intact after frame image ∧ SentUpTo fragmentSize image index taken payload := by
    intro before
    obtain ⟨image, intact, upTo⟩ := payloads.progress frame index taken payload before
    exact ⟨image, kept intact (by rw [before]; rfl), upTo⟩
  cases moves with
  | sendIdled _ _ now => cases now <;> cases sending
  | popped | checked | disconnected | emptyFrame | headerFailed | sendFailed | returned =>
    cases sending
  | @sentDropped frame' ends _ => cases ends <;> cases sending
  | headerSent starting =>
    obtain ⟨rfl, rfl, rfl, rfl⟩ := SendPosition.sending.inj sending
    obtain ⟨image, intact⟩ := payloads.started starting
    refine ⟨image, kept intact (by rw [starting]; rfl), Nat.zero_le _, ?_⟩
    rw [Nat.zero_mul, List.take_zero]
  | bytesSent before inside part =>
    obtain ⟨rfl, rfl, rfl, rfl⟩ := SendPosition.sending.inj sending
    obtain ⟨image, intact, upTo⟩ := payloads.progress _ _ _ _ before
    refine ⟨image, kept intact (by rw [before]; rfl), ?_⟩
    rw [intact.fragmentBytes positive ((intact.lt_count positive _).mp inside)] at part ⊢
    exact upTo.part part
  | fragmentSent before inside =>
    obtain ⟨rfl, rfl, rfl, rfl⟩ := SendPosition.sending.inj sending
    obtain ⟨image, intact, upTo⟩ := payloads.progress _ _ _ _ before
    refine ⟨image, kept intact (by rw [before]; rfl), ?_⟩
    rw [intact.fragmentBytes positive ((intact.lt_count positive _).mp inside)]
    exact upTo.rest
  | _ => exact stays sending

theorem SentFrom.grows {captured captured' : List CapturedFrame} {sent : SentFrame}
    {image : CameraImage} (from' : SentFrom captured sent image)
    (grown : ∀ frame ∈ captured, frame ∈ captured') : SentFrom captured' sent image :=
  ⟨grown _ from'.captured, from'.payload, from'.complete⟩

theorem sent_after (positive : 0 < fragmentSize.toNat)
    (moves : Moves fragmentSize state after) (payloads : PayloadsIntact fragmentSize state)
    (sent : SentFrame) (member : sent ∈ after.sent) :
    ∃ image, SentFrom after.captured sent image := by
  have grown := captured_grows moves
  have old : sent ∈ state.sent → ∃ image, SentFrom after.captured sent image := by
    intro before
    obtain ⟨image, from'⟩ := payloads.sent sent before
    exact ⟨image, from'.grows grown⟩
  cases moves with
  | emptyFrame starting _ | headerFailed starting =>
    cases List.mem_append.mp member with
    | inl before => exact old before
    | inr new =>
      obtain rfl := List.mem_singleton.mp new
      obtain ⟨image, intact⟩ := payloads.started starting
      exact ⟨image, intact.captured, List.nil_prefix, nofun⟩
  | sendFailed sending =>
    cases List.mem_append.mp member with
    | inl before => exact old before
    | inr new =>
      obtain rfl := List.mem_singleton.mp new
      obtain ⟨image, intact, upTo⟩ := payloads.progress _ _ _ _ sending
      exact ⟨image, intact.captured, upTo.sent ▸ List.take_prefix _ _, nofun⟩
  | returned sending past =>
    cases List.mem_append.mp member with
    | inl before => exact old before
    | inr new =>
      obtain rfl := List.mem_singleton.mp new
      obtain ⟨image, intact, upTo⟩ := payloads.progress _ _ _ _ sending
      have all := Nat.not_lt.mp (mt (intact.lt_count positive _).mpr past)
      refine ⟨image, intact.captured, upTo.sent ▸ List.take_prefix _ _, fun _ => ?_⟩
      exact upTo.sent.trans (List.take_of_length_le (Nat.le_add_right_of_le all))
  | _ => exact old member

theorem step_payloadsIntact (positive : 0 < fragmentSize.toNat) (counted : PointersCounted state)
    (moves : Moves fragmentSize state after) (payloads : PayloadsIntact fragmentSize state) :
    PayloadsIntact fragmentSize after where
  fits := fits_after moves payloads
  filled := filled_after moves payloads
  intact := intact_after counted moves payloads
  progress := progress_after positive counted moves payloads
  sent := sent_after positive moves payloads

end PayloadsIntact

end PictureReconstruct.App
