import PictureReconstruct.Common.BlockingQueue
import PictureReconstruct.Common.FrameBufferPool
import PictureReconstruct.Library.Runs
import PictureReconstruct.Network.RawFrameSender

/-! # `captureLoop` and `sendLoop`

The two threads of a `CameraNetworkSender` between the camera and the connection, step by step.  A
frame is copied byte by byte into a buffer of the pool, handed on as a shared pointer, and read from
the buffer piece by piece while it is sent.  Opening the camera and warming it up touch
neither the pool nor the queue and are left out.

* `step`: the steps of the two threads and of whoever stops them.
* `Moves`, `step_moves`: what a step can do.
-/

namespace PictureReconstruct.App

open Library.Bytes

/-- The size of the buffers of `bufferPool_`. -/
def bufferSize : Nat := 1920 * 1080 * 3

/-- What `cap.read` delivers; `data` is continuous. -/
structure CameraImage where
  rows : UInt32
  cols : UInt32
  type : UInt32
  elemSize : UInt32
  data : List UInt8
deriving DecidableEq

/-- The tests that an image passes before a buffer is acquired for it. -/
def CameraImage.Fits (image : CameraImage) : Prop :=
  image.data ≠ [] ∧ image.data.length ≤ bufferSize

instance (image : CameraImage) : Decidable image.Fits := inferInstanceAs (Decidable (_ ∧ _))

/-- A `RawFrame` with its pointer into the pool. -/
structure SharedFrame (bufferCount : Nat) where
  frameId : UInt64
  rows : UInt32
  cols : UInt32
  type : UInt32
  elemSize : UInt32
  totalBytes : UInt64
  buffer : Fin bufferCount
deriving DecidableEq

variable {n : Nat}

/-- The frame without its pixels, which is all that the headers of its fragments depend on. -/
def SharedFrame.metadata (frame : SharedFrame n) : RawFrame where
  frameId := frame.frameId
  rows := frame.rows
  cols := frame.cols
  type := frame.type
  elemSize := frame.elemSize
  totalBytes := frame.totalBytes
  buffer := none
  sized := nofun

/-- The frame that `captureLoop` makes of an image in a buffer. -/
def sharedFrame (frameId : UInt64) (image : CameraImage) (buffer : Fin n) : SharedFrame n where
  frameId := frameId
  rows := image.rows
  cols := image.cols
  type := image.type
  elemSize := image.elemSize
  totalBytes := UInt64.ofNat image.data.length
  buffer := buffer

/-- Where `captureLoop` is. -/
inductive CapturePosition (bufferCount : Nat)
  /-- reads `running_` next -/
  | testing
  | reading
  | acquiring (image : CameraImage)
  /-- has copied the first `copied` bytes -/
  | copying (image : CameraImage) (buffer : Fin bufferCount) (copied : Nat)
  | pushing (frame : SharedFrame bufferCount)
  /-- `rawFrame` and `buffer` are still in scope -/
  | pushed (frame : SharedFrame bufferCount)
  /-- `buffer` is still in scope -/
  | releasing (buffer : Fin bufferCount)
  | ended

/-- Where `sendLoop` is. -/
inductive SendPosition (bufferCount : Nat)
  /-- reads `running_` next -/
  | testing
  | popping
  /-- tests the connection next -/
  | checking (frame : SharedFrame bufferCount)
  /-- has called `sendFrame` -/
  | starting (frame : SharedFrame bufferCount)
  /-- has sent `index` fragments and `taken` bytes of the next one, `payload` in all -/
  | sending (frame : SharedFrame bufferCount) (index taken : Nat) (payload : List UInt8)
  /-- `frame` is still in scope; the loop is left if `ends` -/
  | leaving (frame : SharedFrame bufferCount) (ends : Bool)
  | ended

/-- An id with the image that was copied for it. -/
structure CapturedFrame where
  frameId : UInt64
  image : CameraImage
deriving DecidableEq

/-- What a call of `sendFrame` has sent of a frame. -/
structure SentFrame where
  frameId : UInt64
  payload : List UInt8
  /-- the call returned `true` -/
  complete : Bool
deriving DecidableEq

structure SenderState (bufferCount : Nat) where
  pool : FrameBufferPool bufferSize bufferCount
  queue : BlockingQueue (SharedFrame bufferCount)
  /-- `running_` of the `CameraCapture` -/
  capturing : Bool := true
  /-- `running_` of the `CameraNetworkSender` -/
  running : Bool := true
  frameId : UInt64 := 0
  capture : CapturePosition bufferCount := .testing
  send : SendPosition bufferCount := .testing
  /-- `sendLoop` has found the connection broken -/
  broken : Bool := false
  captured : List CapturedFrame := []
  evicted : List UInt64 := []
  refused : List UInt64 := []
  popped : List UInt64 := []
  sent : List SentFrame := []

inductive SenderAction
  | stopCamera
  | stopSender
  | stopQueue
  | testCapturing
  /-- no image when the read fails -/
  | read (image : Option CameraImage)
  | acquire
  | copyByte
  | number
  | push
  | dropFrame
  | dropBuffer
  | testRunning
  | pop
  | check (connected : Bool)
  | sendHeader (accepted : Bool)
  /-- one `send` of a payload, which takes `accepted` bytes if the fragment has so many left; the
      chunk header goes with the first -/
  | sendBytes (accepted : Nat)
  | returnSent
  | dropSent

namespace SenderState

def create (pool : FrameBufferPool bufferSize n) (maxSize : Nat) (positive : 0 < maxSize) :
    SenderState n where
  pool := pool
  queue := .create maxSize positive

/-- `sendFrame` returns `false`; the connection is broken. -/
def fail (state : SenderState n) (frame : SharedFrame n) (payload : List UInt8) : SenderState n :=
  { state with
    sent := state.sent ++ [⟨frame.frameId, payload, false⟩]
    broken := true
    send := .leaving frame true }

/-- `outputQueue_.push(rawFrame)` -/
def pushFrame (state : SenderState n) (frame : SharedFrame n) : SenderState n :=
  let state := { state with capture := .pushed frame }
  if state.queue.stopped then { state with refused := state.refused ++ [frame.frameId] }
  else
    -- the oldest frame goes before the new one is copied into the queue
    match state.queue.dropped with
    | none =>
      { state with queue := state.queue.push frame, pool := state.pool.share frame.buffer }
    | some oldest =>
      { state with
        queue := state.queue.push frame
        pool := (state.pool.drop oldest.buffer).share frame.buffer
        evicted := state.evicted ++ [oldest.frameId] }

/-- The bytes that `sendFrame` reads from the buffer for a fragment. -/
def fragmentBytes (fragmentSize : UInt32) (state : SenderState n) (frame : SharedFrame n)
    (index : Nat) : List UInt8 :=
  let header := RawFrameSender.chunkHeaderFor fragmentSize frame.metadata (UInt32.ofNat index)
  slice (state.pool.storage frame.buffer) header.offset.toNat header.payloadSize.toNat

/-- The state after a step; none where the thread cannot take it. -/
def step (fragmentSize : UInt32) : SenderAction → SenderState n → Option (SenderState n)
  | .stopCamera, state => some { state with capturing := false }
  | .stopSender, state => some { state with running := false }
  | .stopQueue, state => some { state with queue := state.queue.stop }
  | .testCapturing, state =>
    match state.capture with
    | .testing =>
      if state.capturing then some { state with capture := .reading }
      else some { state with capture := .ended }
    | _ => none
  | .read image, state =>
    match state.capture, image with
    | .reading, some image =>
      if image.Fits then some { state with capture := .acquiring image }
      else some { state with capture := .testing }
    | .reading, none => some { state with capture := .testing }
    | _, _ => none
  | .acquire, state =>
    match state.capture, state.pool.acquire with
    | .acquiring image, some (buffer, pool) =>
      some { state with pool, capture := .copying image buffer 0 }
    | _, _ => none
  | .copyByte, state =>
    match state.capture with
    | .copying image buffer copied =>
      match image.data[copied]? with
      | some byte =>
        some { state with
          pool := state.pool.write buffer copied byte
          capture := .copying image buffer (copied + 1) }
      | none => none
    | _ => none
  | .number, state =>
    match state.capture with
    | .copying image buffer copied =>
      if copied = image.data.length then
        let frameId := state.frameId + 1
        some { state with
          frameId
          pool := state.pool.share buffer
          captured := state.captured ++ [⟨frameId, image⟩]
          capture := .pushing (sharedFrame frameId image buffer) }
      else none
    | _ => none
  | .push, state =>
    match state.capture with
    | .pushing frame => some (state.pushFrame frame)
    | _ => none
  | .dropFrame, state =>
    match state.capture with
    | .pushed frame =>
      some { state with pool := state.pool.drop frame.buffer, capture := .releasing frame.buffer }
    | _ => none
  | .dropBuffer, state =>
    match state.capture with
    | .releasing buffer => some { state with pool := state.pool.drop buffer, capture := .testing }
    | _ => none
  | .testRunning, state =>
    match state.send with
    | .testing =>
      if state.running then some { state with send := .popping }
      else some { state with send := .ended }
    | _ => none
  | .pop, state =>
    match state.send with
    | .popping =>
      if state.queue.ready then
        match state.queue.pop with
        -- the copy in the loop takes the place of the one in the queue
        | (some frame, queue) =>
          some { state with
            queue, send := .checking frame, popped := state.popped ++ [frame.frameId] }
        | (none, _) => some { state with send := .ended }
      else none
    | _ => none
  | .check connected, state =>
    match state.send with
    | .checking frame =>
      if connected then some { state with send := .starting frame }
      else some { state with broken := true, send := .leaving frame true }
    | _ => none
  | .sendHeader accepted, state =>
    match state.send with
    | .starting frame =>
      -- an empty frame is not sent
      if frame.totalBytes = 0 then
        some { state with
          sent := state.sent ++ [⟨frame.frameId, [], false⟩], send := .leaving frame true }
      else if accepted then some { state with send := .sending frame 0 0 [] }
      else some (state.fail frame [])
    | _ => none
  | .sendBytes accepted, state =>
    match state.send with
    | .sending frame index taken payload =>
      if index < (RawFrameSender.fragmentCount fragmentSize frame.metadata).toNat then
        if accepted = 0 then some (state.fail frame payload)
        else
          let bytes := (state.fragmentBytes fragmentSize frame index).drop taken
          if accepted < bytes.length then
            some { state with
              send := .sending frame index (taken + accepted) (payload ++ bytes.take accepted) }
          else some { state with send := .sending frame (index + 1) 0 (payload ++ bytes) }
      else none
    | _ => none
  | .returnSent, state =>
    match state.send with
    | .sending frame index _ payload =>
      if index < (RawFrameSender.fragmentCount fragmentSize frame.metadata).toNat then none
      else some { state with
        sent := state.sent ++ [⟨frame.frameId, payload, true⟩]
        send := .leaving frame false }
    | _ => none
  | .dropSent, state =>
    match state.send with
    | .leaving frame ends =>
      some { state with
        pool := state.pool.drop frame.buffer
        send := if ends then .ended else .testing }
    | _ => none

/-- The state after a step, or the same state where the thread cannot take it. -/
def advance (fragmentSize : UInt32) (action : SenderAction) (state : SenderState n) :
    SenderState n :=
  (step fragmentSize action state).getD state

end SenderState

/-- A position of `captureLoop` without a buffer. -/
inductive CapturePosition.Idle : CapturePosition n → Prop
  | testing : Idle .testing
  | reading : Idle .reading
  | acquiring {image : CameraImage} : image.Fits → Idle (.acquiring image)
  | ended : Idle .ended

/-- A position of `sendLoop` without a frame. -/
inductive SendPosition.Idle : SendPosition n → Prop
  | testing : Idle .testing
  | popping : Idle .popping
  | ended : Idle .ended

/-- What one step can do. -/
inductive Moves (fragmentSize : UInt32) (state : SenderState n) : SenderState n → Prop
  | flagged {capturing running} : Moves fragmentSize state { state with capturing, running }
  | queueStopped : Moves fragmentSize state { state with queue := state.queue.stop }
  | captureIdled {capture} : state.capture.Idle → capture.Idle →
    Moves fragmentSize state { state with capture }
  | acquired {image buffer pool} : state.capture = .acquiring image →
    state.pool.acquire = some (buffer, pool) →
    Moves fragmentSize state { state with pool, capture := .copying image buffer 0 }
  | byteCopied {image buffer copied byte} : state.capture = .copying image buffer copied →
    image.data[copied]? = some byte →
    Moves fragmentSize state { state with
      pool := state.pool.write buffer copied byte
      capture := .copying image buffer (copied + 1) }
  | numbered {image buffer} : state.capture = .copying image buffer image.data.length →
    Moves fragmentSize state { state with
      frameId := state.frameId + 1
      pool := state.pool.share buffer
      captured := state.captured ++ [⟨state.frameId + 1, image⟩]
      capture := .pushing (sharedFrame (state.frameId + 1) image buffer) }
  | refused {frame} : state.capture = .pushing frame → state.queue.stopped = true →
    Moves fragmentSize state { state with
      capture := .pushed frame, refused := state.refused ++ [frame.frameId] }
  | queued {frame queue} : state.capture = .pushing frame →
    queue.queue = state.queue.queue ++ [frame] → queue.stopped = state.queue.stopped →
    Moves fragmentSize state { state with
      queue, capture := .pushed frame, pool := state.pool.share frame.buffer }
  | evicted {frame oldest rest queue} : state.capture = .pushing frame →
    state.queue.queue.length = state.queue.maxSize → state.queue.queue = oldest :: rest →
    queue.queue = rest ++ [frame] →
    queue.stopped = state.queue.stopped →
    Moves fragmentSize state { state with
      queue
      capture := .pushed frame
      pool := (state.pool.drop oldest.buffer).share frame.buffer
      evicted := state.evicted ++ [oldest.frameId] }
  | frameDropped {frame} : state.capture = .pushed frame →
    Moves fragmentSize state { state with
      pool := state.pool.drop frame.buffer, capture := .releasing frame.buffer }
  | bufferDropped {buffer} : state.capture = .releasing buffer →
    Moves fragmentSize state { state with pool := state.pool.drop buffer, capture := .testing }
  | sendIdled {send} : state.send.Idle → state.send ≠ .ended → send.Idle →
    Moves fragmentSize state { state with send }
  | popped {frame rest queue} : state.send = .popping → state.queue.queue = frame :: rest →
    queue.queue = rest → queue.stopped = state.queue.stopped →
    Moves fragmentSize state { state with
      queue, send := .checking frame, popped := state.popped ++ [frame.frameId] }
  | checked {frame} : state.send = .checking frame →
    Moves fragmentSize state { state with send := .starting frame }
  | disconnected {frame} : state.send = .checking frame →
    Moves fragmentSize state { state with broken := true, send := .leaving frame true }
  | emptyFrame {frame} : state.send = .starting frame → frame.totalBytes = 0 →
    Moves fragmentSize state { state with
      sent := state.sent ++ [⟨frame.frameId, [], false⟩], send := .leaving frame true }
  | headerSent {frame} : state.send = .starting frame →
    Moves fragmentSize state { state with send := .sending frame 0 0 [] }
  | headerFailed {frame} : state.send = .starting frame →
    Moves fragmentSize state (state.fail frame [])
  | bytesSent {frame index taken payload accepted} :
    state.send = .sending frame index taken payload →
    index < (RawFrameSender.fragmentCount fragmentSize frame.metadata).toNat →
    accepted < ((state.fragmentBytes fragmentSize frame index).drop taken).length →
    Moves fragmentSize state { state with
      send := .sending frame index (taken + accepted)
        (payload ++ ((state.fragmentBytes fragmentSize frame index).drop taken).take accepted) }
  | fragmentSent {frame index taken payload} : state.send = .sending frame index taken payload →
    index < (RawFrameSender.fragmentCount fragmentSize frame.metadata).toNat →
    Moves fragmentSize state { state with
      send := .sending frame (index + 1) 0
        (payload ++ (state.fragmentBytes fragmentSize frame index).drop taken) }
  | sendFailed {frame index taken payload} : state.send = .sending frame index taken payload →
    Moves fragmentSize state (state.fail frame payload)
  | returned {frame index taken payload} : state.send = .sending frame index taken payload →
    ¬ index < (RawFrameSender.fragmentCount fragmentSize frame.metadata).toNat →
    Moves fragmentSize state { state with
      sent := state.sent ++ [⟨frame.frameId, payload, true⟩]
      send := .leaving frame false }
  | sentDropped {frame ends} : state.send = .leaving frame ends →
    Moves fragmentSize state { state with
      pool := state.pool.drop frame.buffer
      send := if ends then .ended else .testing }

section Steps

variable {fragmentSize : UInt32} {state after : SenderState n} {action : SenderAction}

/-- A step is taken, or nothing happens. -/
theorem advance_cases (fragmentSize : UInt32) (action : SenderAction) (state : SenderState n) :
    SenderState.step fragmentSize action state =
        some (SenderState.advance fragmentSize action state) ∨
      SenderState.advance fragmentSize action state = state := by
  unfold SenderState.advance
  cases SenderState.step fragmentSize action state with
  | none => exact .inr rfl
  | some after => exact .inl rfl

theorem pushFrame_queue (state : SenderState n) (frame : SharedFrame n) :
    (state.pushFrame frame).queue = state.queue.push frame := by
  unfold SenderState.pushFrame
  dsimp only
  split
  · next stopped =>
    -- a stopped queue stays as it is
    rw [BlockingQueue.push, if_pos stopped]
  · split <;> rfl

/-- What a step can do to the queue. -/
theorem step_queue (stepped : SenderState.step fragmentSize action state = some after) :
    after.queue = state.queue ∨ (action = .stopQueue ∧ after.queue = state.queue.stop) ∨
      (∃ frame, after.queue = state.queue.push frame) ∨ after.queue = state.queue.pop.2 := by
  cases action with
  | stopQueue =>
    cases stepped
    exact .inr (.inl ⟨rfl, rfl⟩)
  | push =>
    simp only [SenderState.step] at stepped
    split at stepped
    · next frame _ =>
      cases stepped
      exact .inr (.inr (.inl ⟨frame, pushFrame_queue state frame⟩))
    · cases stepped
  | pop =>
    simp only [SenderState.step] at stepped
    grind
  | _ =>
    -- the other steps leave the queue alone
    refine .inl ?_
    simp only [SenderState.step] at stepped
    grind [SenderState.fail]

theorem pushFrame_moves {frame : SharedFrame n} (pushing : state.capture = .pushing frame) :
    Moves fragmentSize state (state.pushFrame frame) := by
  cases stopped : state.queue.stopped with
  | true =>
    simp only [SenderState.pushFrame, stopped, if_true]
    exact .refused pushing stopped
  | false =>
    obtain ⟨refuses, _⟩ | ⟨spared, longer, kept⟩ |
        ⟨oldest, rest, full, held, dropped, moved, kept⟩ :=
      state.queue.push_cases frame
    · rw [stopped] at refuses
      cases refuses
    · simp only [SenderState.pushFrame, stopped, spared, Bool.false_eq_true, if_false]
      exact .queued pushing longer kept
    · simp only [SenderState.pushFrame, stopped, dropped, Bool.false_eq_true, if_false]
      exact .evicted pushing full held moved kept

theorem testCapturing_moves
    (stepped : SenderState.step fragmentSize .testCapturing state = some after) :
    Moves fragmentSize state after := by
  simp only [SenderState.step] at stepped
  split at stepped
  · next testing =>
    have idle : state.capture.Idle := testing ▸ .testing
    split at stepped
    · cases stepped
      exact .captureIdled idle .reading
    · cases stepped
      exact .captureIdled idle .ended
  · cases stepped

theorem read_moves {image : Option CameraImage}
    (stepped : SenderState.step fragmentSize (.read image) state = some after) :
    Moves fragmentSize state after := by
  simp only [SenderState.step] at stepped
  split at stepped
  · next reading =>
    have idle : state.capture.Idle := reading ▸ .reading
    split at stepped
    · next fits =>
      cases stepped
      exact .captureIdled idle (.acquiring fits)
    · cases stepped
      exact .captureIdled idle .testing
  · next reading =>
    cases stepped
    exact .captureIdled (reading ▸ .reading) .testing
  · cases stepped

theorem testRunning_moves
    (stepped : SenderState.step fragmentSize .testRunning state = some after) :
    Moves fragmentSize state after := by
  simp only [SenderState.step] at stepped
  split at stepped
  · next testing =>
    have idle : state.send.Idle := testing ▸ .testing
    have running : state.send ≠ .ended := by simp [testing]
    split at stepped
    · cases stepped
      exact .sendIdled idle running .popping
    · cases stepped
      exact .sendIdled idle running .ended
  · cases stepped

theorem pop_moves
    (stepped : SenderState.step fragmentSize .pop state = some after) :
    Moves fragmentSize state after := by
  simp only [SenderState.step] at stepped
  split at stepped
  · next popping =>
    split at stepped
    · next ready =>
      obtain ⟨frame, rest, held, given, left, kept⟩ | ⟨_, _, nothing⟩ :=
        BlockingQueue.pop_cases ready
      · split at stepped
        · next frame' queue pops =>
          cases stepped
          rw [pops] at given left kept
          obtain rfl := Option.some.inj given
          exact .popped popping held left kept
        · next pops =>
          rw [pops] at given
          cases given
      · rw [nothing] at stepped
        cases stepped
        exact .sendIdled (popping ▸ .popping) (by simp [popping]) .ended
    · cases stepped
  · cases stepped

theorem check_moves {connected : Bool}
    (stepped : SenderState.step fragmentSize (.check connected) state = some after) :
    Moves fragmentSize state after := by
  simp only [SenderState.step] at stepped
  split at stepped
  · next checking =>
    split at stepped
    · cases stepped
      exact .checked checking
    · cases stepped
      exact .disconnected checking
  · cases stepped

theorem sendHeader_moves {accepted : Bool}
    (stepped : SenderState.step fragmentSize (.sendHeader accepted) state = some after) :
    Moves fragmentSize state after := by
  simp only [SenderState.step] at stepped
  split at stepped
  · next starting =>
    split at stepped
    · next empty =>
      cases stepped
      exact .emptyFrame starting empty
    · split at stepped
      · cases stepped
        exact .headerSent starting
      · cases stepped
        exact .headerFailed starting
  · cases stepped

theorem sendBytes_moves {accepted : Nat}
    (stepped : SenderState.step fragmentSize (.sendBytes accepted) state = some after) :
    Moves fragmentSize state after := by
  simp only [SenderState.step] at stepped
  split at stepped
  · next sending =>
    split at stepped
    · next inside =>
      split at stepped
      · cases stepped
        exact .sendFailed sending
      · split at stepped
        · next part =>
          cases stepped
          exact .bytesSent sending inside part
        · cases stepped
          exact .fragmentSent sending inside
    · cases stepped
  · cases stepped

theorem step_moves (stepped : SenderState.step fragmentSize action state = some after) :
    Moves fragmentSize state after := by
  cases action with
  | stopCamera =>
    cases stepped
    exact @Moves.flagged _ _ state false state.running
  | stopSender =>
    cases stepped
    exact @Moves.flagged _ _ state state.capturing false
  | stopQueue =>
    cases stepped
    exact .queueStopped
  | testCapturing => exact testCapturing_moves stepped
  | read image => exact read_moves stepped
  | acquire =>
    simp only [SenderState.step] at stepped
    split at stepped
    · next acquiring acquired =>
      cases stepped
      exact .acquired acquiring acquired
    · cases stepped
  | copyByte =>
    simp only [SenderState.step] at stepped
    split at stepped
    · next copying =>
      split at stepped
      · next next =>
        cases stepped
        exact .byteCopied copying next
      · cases stepped
    · cases stepped
  | number =>
    simp only [SenderState.step] at stepped
    split at stepped
    · next copying =>
      split at stepped
      · next all =>
        cases stepped
        exact .numbered (all ▸ copying)
      · cases stepped
    · cases stepped
  | push =>
    simp only [SenderState.step] at stepped
    split at stepped
    · next pushing =>
      cases stepped
      exact pushFrame_moves pushing
    · cases stepped
  | dropFrame =>
    simp only [SenderState.step] at stepped
    split at stepped
    · next pushed =>
      cases stepped
      exact .frameDropped pushed
    · cases stepped
  | dropBuffer =>
    simp only [SenderState.step] at stepped
    split at stepped
    · next releasing =>
      cases stepped
      exact .bufferDropped releasing
    · cases stepped
  | testRunning => exact testRunning_moves stepped
  | pop => exact pop_moves stepped
  | check connected => exact check_moves stepped
  | sendHeader accepted => exact sendHeader_moves stepped
  | sendBytes accepted => exact sendBytes_moves stepped
  | returnSent =>
    simp only [SenderState.step] at stepped
    split at stepped
    · next sending =>
      split at stepped
      · cases stepped
      · next past =>
        cases stepped
        exact .returned sending past
    · cases stepped
  | dropSent =>
    simp only [SenderState.step] at stepped
    split at stepped
    · next leaving =>
      cases stepped
      exact .sentDropped leaving
    · cases stepped

end Steps

end PictureReconstruct.App
