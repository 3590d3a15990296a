import PictureReconstruct.Library.Procedure
import PictureReconstruct.Library.Streams
import PictureReconstruct.Protocol.RawFrameProtocol

/-! # The receive loop of `test_server.cpp`

`main` accepts one connection and turns its byte stream into stored frames.  The model runs
the loop against the bytes the peer sends; `split` says how many of them each `recv` call
hands over, and a `recv` on the exhausted stream returns 0.  Every header read, payload
read, stored file and `cv::Mat` built over the buffer is recorded as a `ServerEvent`.

The OpenCV calls after `saveRawFile` read `rawBuffer` and touch neither the socket nor the
stored frame; they appear as the event `view`.  `clones` says for which headers they come back,
which is for all of them where a statement does not pass it.
-/

namespace PictureReconstruct.Server

open Library.Bytes Library.Procedure Library.Streams RawFrameProtocol

/-- What the loop does, in order. -/
inductive ServerEvent
  /-- A chunk header was parsed while the frame was being assembled. -/
  | chunk (frameHeader : RawFrameHeader) (chunkHeader : RawChunkHeader)
  /-- The loop reaches the `recvAll` of the chunk's payload. -/
  | payload (frameHeader : RawFrameHeader) (chunkHeader : RawChunkHeader)
  /-- `saveRawFile` is called with the assembled bytes. -/
  | save (frameHeader : RawFrameHeader) (rawBuffer : List UInt8)
  /-- A `cv::Mat` over the assembled bytes is built and cloned. -/
  | view (frameHeader : RawFrameHeader) (rawBuffer : List UInt8)
deriving DecidableEq

/-- How `main` leaves the receive loop. -/
inductive ServerExit
  /-- `recvAll` of a frame header fails: the peer is gone. -/
  | disconnected
  | badFrameHeader
  | illegalSize
  | chunkHeaderLost
  | badChunkHeader
  | payloadLost
  /-- A payload is received past the end of `rawBuffer`: undefined behaviour from here on. -/
  | outOfBounds
  /-- The `cv::Mat` or its clone throws, or reads past the end of `rawBuffer`. -/
  | viewFailed
deriving DecidableEq

/-- The socket and the history of the loop. -/
structure Connection where
  /-- what the peer sends and the server has not received yet -/
  incoming : List UInt8
  /-- `recv` calls made so far -/
  calls : Nat := 0
  events : List ServerEvent := []
deriving DecidableEq

abbrev Receive := EStateM ServerExit Connection

variable (split : Nat → Nat)

/-! ## `recvAll` -/

/-- `recv` with room for `size` bytes: at least one byte while there are any. -/
def recv (size : Nat) (connection : Connection) : List UInt8 × Connection :=
  let n := min size (max 1 (split connection.calls))
  (connection.incoming.take n,
    { connection with incoming := connection.incoming.drop n, calls := connection.calls + 1 })

/-- The loop of `recvAll` with `size` bytes to go.  Each `recv` takes a byte or ends the loop,
    so `size` rounds are enough. -/
def recvLoop : Nat → Nat → Connection → (Bool × List UInt8) × Connection
  | _, 0, connection => ((true, []), connection)
  | 0, _, connection => ((false, []), connection)
  | rounds + 1, size, connection =>
    let (chunk, connection) := recv split size connection
    if chunk.isEmpty then ((false, []), connection)
    else
      let ((complete, rest), connection) := recvLoop rounds (size - chunk.length) connection
      ((complete, chunk ++ rest), connection)

/-- `recvAll`: whether all `size` bytes came, and the bytes that did. -/
def recvAll (size : Nat) : Receive (Bool × List UInt8) := fun connection =>
  let (result, connection) := recvLoop split size size connection
  .ok result connection

def record (event : ServerEvent) : Receive Unit :=
  modify fun connection => { connection with events := connection.events ++ [event] }

/-! ## The loop -/

/-- `200ULL * 1024ULL * 1024ULL` -/
def maxFrameBytes : UInt64 := 200 * 1024 * 1024

/-- One iteration of the chunk loop: the buffer with the payload in place, or `none` when the
    chunk is rejected and the loop left by `break`. -/
def receiveChunk (frameHeader : RawFrameHeader) (rawBuffer : List UInt8) :
    Receive (Option (List UInt8)) := do
  let (received, chunkHeaderBytes) ← recvAll split chunkHeaderSize
  if !received then throw .chunkHeaderLost
  let (parsed, chunkHeader) := parseChunkHeader chunkHeaderBytes ⟨0, 0, 0, 0⟩
  if !parsed then throw .badChunkHeader
  record (.chunk frameHeader chunkHeader)
  if chunkHeader.frameId ≠ frameHeader.frameId then return none
  if chunkHeader.offset + chunkHeader.payloadSize.toUInt64 > frameHeader.totalBytes then
    return none
  record (.payload frameHeader chunkHeader)
  -- the addresses written do not wrap
  if chunkHeader.offset.toNat + chunkHeader.payloadSize.toNat > rawBuffer.length then
    throw .outOfBounds
  let (complete, payload) ← recvAll split chunkHeader.payloadSize.toNat
  if !complete then throw .payloadLost
  return some (overwrite rawBuffer chunkHeader.offset.toNat payload)

/-- The chunk loop with `remaining` iterations to go. -/
def receiveChunks (frameHeader : RawFrameHeader) : Nat → List UInt8 → Receive (List UInt8)
  | 0, rawBuffer => pure rawBuffer
  | remaining + 1, rawBuffer => do
    match ← receiveChunk split frameHeader rawBuffer with
    | none => return rawBuffer
    | some rawBuffer => receiveChunks frameHeader remaining rawBuffer

/-- One iteration of `while (true)`. -/
def receiveFrame (clones : RawFrameHeader → Bool := fun _ => true) : Receive Unit := do
  let (received, frameHeaderBytes) ← recvAll split frameHeaderSize
  if !received then throw .disconnected
  let (parsed, frameHeader) := parseFrameHeader frameHeaderBytes ⟨0, 0, 0, 0, 0, 0, 0, 0⟩
  if !parsed then throw .badFrameHeader
  if frameHeader.totalBytes == 0 || frameHeader.totalBytes > maxFrameBytes then
    throw .illegalSize
  let rawBuffer := List.replicate frameHeader.totalBytes.toNat 0
  let rawBuffer ← receiveChunks split frameHeader frameHeader.fragmentCount.toNat rawBuffer
  record (.save frameHeader rawBuffer)
  record (.view frameHeader rawBuffer)
  if !clones frameHeader then throw .viewFailed

/-- `rounds` iterations of the loop, which is left by an exit only. -/
def receiveFrames (rounds : Nat) (clones : RawFrameHeader → Bool := fun _ => true) :
    Receive Unit :=
  match rounds with
  | 0 => throw .disconnected
  | rounds + 1 => do
    receiveFrame split clones
    receiveFrames rounds clones

/-- The whole loop.  Every iteration that does not leave it receives a frame header, so there
    are fewer iterations than bytes. -/
def receiveLoop (clones : RawFrameHeader → Bool := fun _ => true) : Receive Unit :=
  fun connection => receiveFrames split (connection.incoming.length + 1) clones connection

/-- The loop on a fresh connection whose peer sends `stream`. -/
def serve (stream : List UInt8) (clones : RawFrameHeader → Bool := fun _ => true) :
    ServerExit × Connection :=
  match receiveLoop split clones { incoming := stream } with
  | .ok _ connection => (.disconnected, connection)
  | .error exit connection => (exit, connection)

/-! ## What `recvAll` delivers -/

/-- The loop of `recvAll` is a read loop on the socket. -/
theorem recvLoop_eq (rounds size : Nat) (connection : Connection) :
    recvLoop split rounds size connection =
      ((readLoop split rounds size ⟨connection.incoming, connection.calls⟩).1,
        { connection with
          incoming := (readLoop split rounds size ⟨connection.incoming, connection.calls⟩).2.incoming
          calls := (readLoop split rounds size ⟨connection.incoming, connection.calls⟩).2.calls }) := by
  induction rounds generalizing size connection with
  | zero => cases size <;> rfl
  | succ rounds ih =>
    cases size with
    | zero => rfl
    | succ size =>
      simp only [recvLoop, readLoop, recv, readSome, ih]
      by_cases gone : (connection.incoming.take
          (min (size + 1) (max 1 (split connection.calls)))).isEmpty = true
      · simp only [gone, if_true]
      · simp only [gone, Bool.false_eq_true, if_false]

/-- However `recv` cuts the stream, `recvAll` takes the next `size` bytes, or all of them and
    fails. -/
theorem recvLoop_spec (rounds size : Nat) (connection : Connection) (enough : size ≤ rounds) :
    ∃ calls, recvLoop split rounds size connection =
      ((decide (size ≤ connection.incoming.length), connection.incoming.take size),
        { connection with incoming := connection.incoming.drop size, calls }) := by
  obtain ⟨calls, delivered⟩ :=
    readLoop_spec split rounds size ⟨connection.incoming, connection.calls⟩ enough
  exact ⟨calls, by rw [recvLoop_eq, delivered]⟩

theorem wp_recvAll {size : Nat} {connection : Connection}
    {Q : Bool × List UInt8 → Connection → Prop} {E : ServerExit → Connection → Prop}
    (post : ∀ calls, Q (decide (size ≤ connection.incoming.length), connection.incoming.take size)
      { connection with incoming := connection.incoming.drop size, calls }) :
    wp (recvAll split size) Q E connection := by
  obtain ⟨calls, delivered⟩ := recvLoop_spec split size size connection (Nat.le_refl size)
  simp only [wp, recvAll, delivered]
  exact post calls

/-! ## What one chunk and one frame can do -/

/-- The two tests a chunk header passes before its payload is received. -/
def Admitted (frameHeader : RawFrameHeader) (chunkHeader : RawChunkHeader) : Prop :=
  chunkHeader.frameId = frameHeader.frameId ∧
    ¬ chunkHeader.offset + chunkHeader.payloadSize.toUInt64 > frameHeader.totalBytes

/-- The connection after `received` more bytes and `added` more events. -/
def Connection.Advances (before after : Connection) (received : Nat) (added : List ServerEvent) :
    Prop :=
  after.incoming = before.incoming.drop received ∧ after.events = before.events ++ added

theorem wp_receiveChunk {frameHeader : RawFrameHeader} {rawBuffer : List UInt8}
    {connection : Connection} {Q : Option (List UInt8) → Connection → Prop}
    {E : ServerExit → Connection → Prop}
    (lost : ∀ after, connection.incoming.length < chunkHeaderSize →
      connection.Advances after chunkHeaderSize [] → E .chunkHeaderLost after)
    (bad : ∀ after, chunkHeaderSize ≤ connection.incoming.length →
      (parseChunkHeader (connection.incoming.take chunkHeaderSize) ⟨0, 0, 0, 0⟩).1 = false →
      connection.Advances after chunkHeaderSize [] → E .badChunkHeader after)
    (parsed : ∀ chunkHeader, chunkHeaderSize ≤ connection.incoming.length →
      parseChunkHeader (connection.incoming.take chunkHeaderSize) ⟨0, 0, 0, 0⟩ =
        (true, chunkHeader) →
      (∀ after, ¬ Admitted frameHeader chunkHeader →
        connection.Advances after chunkHeaderSize [.chunk frameHeader chunkHeader] →
        Q none after) ∧
      (∀ after, Admitted frameHeader chunkHeader →
        chunkHeader.offset.toNat + chunkHeader.payloadSize.toNat > rawBuffer.length →
        connection.Advances after chunkHeaderSize
          [.chunk frameHeader chunkHeader, .payload frameHeader chunkHeader] →
        E .outOfBounds after) ∧
      (∀ after, Admitted frameHeader chunkHeader →
        chunkHeader.offset.toNat + chunkHeader.payloadSize.toNat ≤ rawBuffer.length →
        connection.Advances after (chunkHeaderSize + chunkHeader.payloadSize.toNat)
          [.chunk frameHeader chunkHeader, .payload frameHeader chunkHeader] →
        (connection.incoming.length < chunkHeaderSize + chunkHeader.payloadSize.toNat →
          E .payloadLost after) ∧
        (chunkHeaderSize + chunkHeader.payloadSize.toNat ≤ connection.incoming.length →
          Q (some (overwrite rawBuffer chunkHeader.offset.toNat
            (slice connection.incoming chunkHeaderSize chunkHeader.payloadSize.toNat))) after))) :
    wp (receiveChunk split frameHeader rawBuffer) Q E connection := by
  simp only [receiveChunk, wp_bind]
  apply wp_recvAll
  intro calls
  -- the cases of the caller are those of the parser's outcome
  generalize result : parseChunkHeader (connection.incoming.take chunkHeaderSize) ⟨0, 0, 0, 0⟩ =
    outcome at bad parsed
  obtain ⟨ok, chunkHeader⟩ := outcome
  simp only [wp_bind, wp_ite, wp_throw, wp_pure, record, wp_modify, Bool.not_eq_true',
    decide_eq_false_iff_not, Nat.not_le, Bool.not_eq_false]
  refine ⟨fun short => lost _ short ⟨rfl, by simp⟩, fun long => ?_⟩
  have enough : chunkHeaderSize ≤ connection.incoming.length := by omega
  cases ok with
  | false => exact ⟨fun _ => bad _ enough rfl ⟨rfl, by simp⟩, fun absurd => by simp at absurd⟩
  | true =>
    obtain ⟨rejected, outside, inside⟩ := parsed chunkHeader enough rfl
    refine ⟨fun absurd => by simp at absurd, fun _ => ⟨fun otherId => ?_,
      fun ownId => ⟨fun beyond => ?_, fun within => ⟨fun past => ?_, fun room => ?_⟩⟩⟩⟩
    · exact rejected _ (fun admitted => otherId admitted.1) ⟨rfl, rfl⟩
    · exact rejected _ (fun admitted => admitted.2 beyond) ⟨rfl, rfl⟩
    · exact outside _ ⟨not_not.mp ownId, within⟩ past ⟨rfl, by simp⟩
    · apply wp_recvAll
      intro calls
      obtain ⟨cut, complete⟩ := inside
        { connection with
          incoming := (connection.incoming.drop chunkHeaderSize).drop chunkHeader.payloadSize.toNat
          calls
          events := connection.events ++ [.chunk frameHeader chunkHeader] ++
            [.payload frameHeader chunkHeader] }
        ⟨not_not.mp ownId, within⟩ (by omega) ⟨by simp [List.drop_drop], by simp⟩
      simp only [wp_ite, wp_throw, wp_pure, decide_eq_false_iff_not, Nat.not_le,
        List.length_drop, wp_bind]
      exact ⟨fun short => cut (by omega), fun long => complete (by omega)⟩

theorem wp_receiveFrame {connection : Connection} {clones : RawFrameHeader → Bool}
    {Q : Unit → Connection → Prop} {E : ServerExit → Connection → Prop}
    (gone : ∀ after, connection.incoming.length < frameHeaderSize →
      connection.Advances after frameHeaderSize [] → E .disconnected after)
    (bad : ∀ after, frameHeaderSize ≤ connection.incoming.length →
      (parseFrameHeader (connection.incoming.take frameHeaderSize) ⟨0, 0, 0, 0, 0, 0, 0, 0⟩).1 =
        false → connection.Advances after frameHeaderSize [] → E .badFrameHeader after)
    (parsed : ∀ frameHeader after, frameHeaderSize ≤ connection.incoming.length →
      parseFrameHeader (connection.incoming.take frameHeaderSize) ⟨0, 0, 0, 0, 0, 0, 0, 0⟩ =
        (true, frameHeader) →
      connection.Advances after frameHeaderSize [] →
      (frameHeader.totalBytes = 0 ∨ frameHeader.totalBytes > maxFrameBytes →
        E .illegalSize after) ∧
      (frameHeader.totalBytes ≠ 0 → frameHeader.totalBytes ≤ maxFrameBytes →
        wp (receiveChunks split frameHeader frameHeader.fragmentCount.toNat
            (List.replicate frameHeader.totalBytes.toNat 0))
          (fun rawBuffer last =>
            let stored := { last with events :=
              last.events ++ [.save frameHeader rawBuffer, .view frameHeader rawBuffer] }
            (clones frameHeader = true → Q () stored) ∧
              (clones frameHeader = false → E .viewFailed stored))
          E after)) :
    wp (receiveFrame split clones) Q E connection := by
  simp only [receiveFrame, wp_bind]
  apply wp_recvAll
  intro calls
  generalize result : parseFrameHeader (connection.incoming.take frameHeaderSize)
    ⟨0, 0, 0, 0, 0, 0, 0, 0⟩ = outcome at bad parsed
  obtain ⟨ok, frameHeader⟩ := outcome
  simp only [wp_bind, wp_ite, wp_throw, record, Bool.not_eq_true',
    decide_eq_false_iff_not, Nat.not_le, Bool.not_eq_false, Bool.or_eq_true, beq_iff_eq,
    decide_eq_true_eq, not_or, UInt64.not_lt]
  refine ⟨fun short => gone _ short ⟨rfl, by simp⟩, fun long => ?_⟩
  have enough : frameHeaderSize ≤ connection.incoming.length := by omega
  cases ok with
  | false => exact ⟨fun _ => bad _ enough rfl ⟨rfl, by simp⟩, fun absurd => by simp at absurd⟩
  | true =>
    obtain ⟨illegal, assembled⟩ := parsed frameHeader
      { connection with incoming := connection.incoming.drop frameHeaderSize, calls }
      enough rfl ⟨rfl, by simp⟩
    refine ⟨fun absurd => by simp at absurd, fun _ => ⟨illegal, fun legal => ?_⟩⟩
    refine (assembled legal.1 legal.2).post (fun rawBuffer last stored => ?_)
    simp only [wp_bind, wp_modify, wp_ite, wp_throw, wp_pure, List.append_assoc,
      List.cons_append, List.nil_append]
    exact ⟨fun failed => stored.2 (Bool.not_eq_true' _ ▸ failed),
      fun cloned => stored.1 (Bool.not_eq_false _ ▸ cloned)⟩

/-! ## The number of iterations -/

/-- No iteration gives bytes back. -/
theorem receiveChunks_shrinks (frameHeader : RawFrameHeader) (remaining : Nat)
    (rawBuffer : List UInt8) (connection : Connection) :
    wp (receiveChunks split frameHeader remaining rawBuffer)
      (fun _ after => after.incoming.length ≤ connection.incoming.length) (fun _ _ => True)
      connection := by
  induction remaining generalizing rawBuffer connection with
  | zero => simp [receiveChunks]
  | succ remaining ih =>
    simp only [receiveChunks, wp_bind]
    apply wp_receiveChunk
    · exact fun _ _ _ => trivial
    · exact fun _ _ _ _ => trivial
    · intro chunkHeader _ _
      refine ⟨fun after _ advanced => ?_, fun _ _ _ _ => trivial, fun after _ _ advanced =>
        ⟨fun _ => trivial, fun _ => ?_⟩⟩
      · simp [advanced.1]
      · refine (ih _ after).mono (fun _ last shorter => ?_) (fun _ _ _ => trivial)
        simp only [advanced.1, List.length_drop] at shorter
        omega

theorem receiveFrame_shrinks (clones : RawFrameHeader → Bool) (connection : Connection) :
    wp (receiveFrame split clones)
      (fun _ after => after.incoming.length < connection.incoming.length) (fun _ _ => True)
      connection := by
  apply wp_receiveFrame
  · exact fun _ _ _ => trivial
  · exact fun _ _ _ _ => trivial
  · intro frameHeader after long _ advanced
    refine ⟨fun _ => trivial, fun _ _ => ?_⟩
    refine (receiveChunks_shrinks split frameHeader _ _ after).mono
      (fun _ last shorter => ⟨fun _ => ?_, fun _ => trivial⟩) (fun _ _ _ => trivial)
    rw [frameHeaderSize] at long advanced
    simp only [advanced.1, List.length_drop] at shorter ⊢
    omega

/-- With more rounds than bytes the number of rounds does not matter. -/
theorem receiveFrames_enough (clones : RawFrameHeader → Bool) (rounds others : Nat)
    (connection : Connection)
    (enough : connection.incoming.length < rounds) (enough' : connection.incoming.length < others) :
    receiveFrames split rounds clones connection =
      receiveFrames split others clones connection := by
  induction rounds generalizing others connection with
  | zero => omega
  | succ rounds ih =>
    cases others with
    | zero => omega
    | succ others =>
      have shrinks := receiveFrame_shrinks split clones connection
      rw [receiveFrames, receiveFrames, run_bind, run_bind]
      cases run : receiveFrame split clones connection with
      | error _ _ => rfl
      | ok _ after =>
        have shorter := shrinks.ok run
        exact ih others after (by omega) (by omega)

/-- `while (true)`: the loop is one iteration and the loop again. -/
theorem receiveLoop_unfold (clones : RawFrameHeader → Bool) :
    receiveLoop split clones =
      (do receiveFrame split clones; receiveLoop split clones : Receive Unit) := by
  funext connection
  have shrinks := receiveFrame_shrinks split clones connection
  rw [receiveLoop, receiveFrames, run_bind, run_bind]
  cases run : receiveFrame split clones connection with
  | error _ _ => rfl
  | ok _ after =>
    have shorter := shrinks.ok run
    exact receiveFrames_enough split _ _ _ after (by omega) (by omega)

theorem receiveLoop_next {clones : RawFrameHeader → Bool} {connection after : Connection}
    (run : receiveFrame split clones connection = .ok () after) :
    receiveLoop split clones connection = receiveLoop split clones after := by
  apply (congrFun (receiveLoop_unfold split clones) connection).trans
  rw [run_bind, run]

theorem receiveLoop_left {clones : RawFrameHeader → Bool} {connection after : Connection}
    {exit : ServerExit}
    (run : receiveFrame split clones connection = .error exit after) :
    receiveLoop split clones connection = .error exit after := by
  apply (congrFun (receiveLoop_unfold split clones) connection).trans
  rw [run_bind, run]

end PictureReconstruct.Server
