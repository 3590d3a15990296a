import PictureReconstruct.Library.Readers
import PictureReconstruct.Network.BrokenStreams
import PictureReconstruct.Network.Handshake

/-! # The receiver of `test_reliable_resume.cpp`

The only peer of a `ResumeSession` in the repository: `serverLoop` reads the two messages of the
handshake, replies that it has nothing, and reads one frame.

* `serverLoop_frame`: on a handshake and a frame it has the frame.
* `Heard`, `Interrupted`: what a session has sent when it ends early.
* `replay_received`: however a session starts, the receiver has the oldest frame exactly when the
  last byte of it has arrived.
-/

namespace PictureReconstruct

open Library.Bytes Library.Procedure Library.Streams ProtocolV2 TcpClient RawFrameProtocol
  RawFrameSender Session ResumeSession Server SenderSpool

namespace ResumeReceiver

/-! ## `serverLoop` -/

/-- Where `serverLoop` returns early, or gets into what has no defined behaviour. -/
inductive ReceiverExit
  | helloMissing
  | resumeRequestMissing
  /-- `send` of the reply failed -/
  | replyLost
  | frameHeaderMissing
  | badFrameHeader
  /-- a `std::vector` larger than any can be -/
  | lengthError
  | chunkHeaderMissing
  | badChunkHeader
  /-- a payload is received past the end of `rawBuffer` -/
  | outOfBounds
  | payloadMissing
deriving DecidableEq

abbrev Receiver := EStateM ReceiverExit (Stream UInt8)

/-- `max_size` of a `std::vector<uint8_t>` -/
def maxSize : Nat := 2 ^ 63 - 1

variable (split : Nat → Nat)

/-- One iteration of the loop over the chunks, on `rawBuffer` and `totalReceived`. -/
def receiveChunk (rawBuffer : List UInt8) (totalReceived : UInt32) :
    Receiver (List UInt8 × UInt32) := do
  let chunkHeaderBytes ← readExact split chunkHeaderSize .chunkHeaderMissing
  let (parsed, chunkHeader) := parseChunkHeader chunkHeaderBytes ⟨0, 0, 0, 0⟩
  if !parsed then throw .badChunkHeader
  -- neither the frame of the chunk nor its place is looked at
  if chunkHeader.offset.toNat + chunkHeader.payloadSize.toNat > rawBuffer.length then
    throw .outOfBounds
  let payload ← readExact split chunkHeader.payloadSize.toNat .payloadMissing
  return (overwrite rawBuffer chunkHeader.offset.toNat payload,
    totalReceived + chunkHeader.payloadSize)

def receiveChunks : Nat → List UInt8 → UInt32 → Receiver (List UInt8 × UInt32)
  | 0, rawBuffer, totalReceived => return (rawBuffer, totalReceived)
  | remaining + 1, rawBuffer, totalReceived => do
    let (rawBuffer, totalReceived) ← receiveChunk split rawBuffer totalReceived
    receiveChunks remaining rawBuffer totalReceived

/-- `serverLoop` from the accepted connection on: `gotReplay`, and `rawBuffer`. -/
def serverLoop (replied : Bool) : Receiver (Bool × List UInt8) := do
  let _ ← readExact split 20 .helloMissing
  let _ ← readExact split 20 .resumeRequestMissing
  if !replied then throw .replyLost
  let frameHeaderBytes ← readExact split frameHeaderSize .frameHeaderMissing
  let (parsed, frameHeader) := parseFrameHeader frameHeaderBytes ⟨0, 0, 0, 0, 0, 0, 0, 0⟩
  if !parsed then throw .badFrameHeader
  if maxSize < frameHeader.totalBytes.toNat then throw .lengthError
  let (rawBuffer, totalReceived) ← receiveChunks split frameHeader.fragmentCount.toNat
    (List.replicate frameHeader.totalBytes.toNat 0) 0
  return (totalReceived.toUInt64 == frameHeader.totalBytes, rawBuffer)

/-- What `serverLoop` sends, whatever it is asked for. -/
def reply : ResumeReply := ⟨1, 0⟩

/-- The receiver waits for bytes, and fails if the peer is gone. -/
def Missing (exit : ReceiverExit) : Prop :=
  exit = .helloMissing ∨ exit = .resumeRequestMissing ∨ exit = .frameHeaderMissing ∨
    exit = .chunkHeaderMissing ∨ exit = .payloadMissing

theorem handshake_length (taskId : UInt64) : (handshake taskId).length = 40 := by
  simp [handshake, makeHelloMessage, makeResumeRequestMessage, Wire.appendUint64_eq]

/-! ## Part of a stream -/

section Reading

variable {split}

theorem receiveChunk_incremental (rawBuffer : List UInt8) (totalReceived : UInt32) :
    Incremental Missing (receiveChunk split rawBuffer totalReceived) := by
  refine (incremental_readExact (by simp [Missing])).bind fun bytes => ?_
  generalize parseChunkHeader bytes ⟨0, 0, 0, 0⟩ = outcome
  obtain ⟨parsed, chunkHeader⟩ := outcome
  refine .unless (.unless ?_)
  exact (incremental_readExact (by simp [Missing])).bind fun _ => incremental_pure _

theorem receiveChunks_incremental (remaining : Nat) : ∀ (rawBuffer : List UInt8)
    (totalReceived : UInt32),
    Incremental Missing (receiveChunks split remaining rawBuffer totalReceived) := by
  induction remaining with
  | zero => exact fun _ _ => incremental_pure _
  | succ remaining ih =>
    intro rawBuffer totalReceived
    exact (receiveChunk_incremental rawBuffer totalReceived).bind fun _ => ih _ _

theorem serverLoop_incremental (replied : Bool) :
    Incremental Missing (serverLoop split replied) := by
  refine (incremental_readExact (by simp [Missing])).bind fun _ => ?_
  refine (incremental_readExact (by simp [Missing])).bind fun _ => ?_
  refine .unless ?_
  refine (incremental_readExact (by simp [Missing])).bind fun bytes => ?_
  generalize parseFrameHeader bytes ⟨0, 0, 0, 0, 0, 0, 0, 0⟩ = outcome
  obtain ⟨parsed, frameHeader⟩ := outcome
  refine .unless (.unless ?_)
  exact (receiveChunks_incremental _ _ _).bind fun _ => incremental_pure _

/-- Without its reply the receiver does not get to the frame. -/
theorem serverLoop_unreplied (stream : Stream UInt8) :
    wp (serverLoop split false) (fun _ _ => False)
      (fun exit _ => Missing exit ∨ exit = .replyLost) stream := by
  rw [serverLoop, wp_bind]
  refine wp_readExact (fun _ _ => by simp [Missing]) fun _ _ => ?_
  rw [wp_bind]
  refine wp_readExact (fun _ _ => by simp [Missing]) fun _ _ => ?_
  simp only [Bool.not_false, if_true, wp_bind, wp_throw]
  exact .inr trivial

/-- On a handshake or a part of it, no frame header comes. -/
theorem serverLoop_handshake (stream : Stream UInt8) (short : stream.incoming.length ≤ 40) :
    wp (serverLoop split true) (fun _ _ => False) (fun exit _ => Missing exit) stream := by
  rw [serverLoop, wp_bind]
  refine wp_readExact (fun _ _ => by simp [Missing]) fun _ hello => ?_
  rw [wp_bind]
  refine wp_readExact (fun _ _ => by simp [Missing]) fun _ request => ?_
  simp only [Bool.not_true, Bool.false_eq_true, if_false, wp_bind]
  refine wp_readExact (fun _ _ => by simp [Missing]) fun _ header => ?_
  simp only [List.length_drop, frameHeaderSize] at header
  omega

end Reading

/-! ## A whole frame -/

section Frames

variable {split} {fragmentSize : UInt32} {frame : RawFrame}

/-- `totalReceived` behind `index` fragments. -/
def counted (fragmentSize : UInt32) (frame : RawFrame) (index : Nat) : UInt32 :=
  UInt32.ofNat (min (index * fragmentSize.toNat) frame.totalBytes.toNat)

variable (positive : 0 < fragmentSize.toNat) (sendable : Sendable frame)

include positive sendable

theorem counted_next {index : Nat} (inside : index * fragmentSize.toNat < frame.totalBytes.toNat) :
    counted fragmentSize frame index +
        (chunkHeaderFor fragmentSize frame (UInt32.ofNat index)).payloadSize =
      counted fragmentSize frame (index + 1) := by
  obtain ⟨_, payloadSize⟩ := chunkHeaderFor_fields positive sendable inside
  obtain ⟨_, _, bounded⟩ := sendable.size
  apply UInt32.toNat_inj.mp
  simp only [counted, UInt32.toNat_add, payloadSize, UInt32.toNat_ofNat', Nat.add_one_mul]
  omega

theorem receiveChunk_fragment {index : Nat}
    (inside : index * fragmentSize.toNat < frame.totalBytes.toNat) {rest : List UInt8}
    {stream : Stream UInt8}
    (bytes : stream.incoming = chunkBytes fragmentSize frame index 1 ++ rest) :
    wp (receiveChunk split (assembled fragmentSize frame index) (counted fragmentSize frame index))
      (fun received after => received = (assembled fragmentSize frame (index + 1),
        counted fragmentSize frame (index + 1)) ∧ after.incoming = rest)
      (fun _ _ => False) stream := by
  let header := chunkHeaderFor fragmentSize frame (UInt32.ofNat index)
  have sent : stream.incoming = buildChunkHeader header ++
      (payloadFor fragmentSize frame (UInt32.ofNat index) ++ rest) := by
    simpa [chunkBytes, fragmentPackets, Packet.bytes] using bytes
  obtain ⟨offset, payloadSize⟩ := chunkHeaderFor_fields positive sendable inside
  have width : (buildChunkHeader header).length = chunkHeaderSize := buildChunkHeader_length header
  have payload : (payloadFor fragmentSize frame (UInt32.ofNat index)).length =
      header.payloadSize.toNat := payloadFor_length positive sendable inside
  have parsed : parseChunkHeader (stream.incoming.take chunkHeaderSize) ⟨0, 0, 0, 0⟩ =
      (true, header) := by
    rw [sent, List.take_left' width, ← List.append_nil (buildChunkHeader header)]
    exact parseChunkHeader_build header _ []
  have behind : stream.incoming.drop chunkHeaderSize =
      payloadFor fragmentSize frame (UInt32.ofNat index) ++ rest := by
    rw [sent, List.drop_left' width]
  have fits : ¬ header.offset.toNat + header.payloadSize.toNat >
      (assembled fragmentSize frame index).length := by
    rw [offset, payloadSize, assembled_length sendable]
    omega
  rw [receiveChunk, wp_bind]
  refine wp_readExact (fun _ short => ?_) fun _ _ => ?_
  · rw [sent, List.length_append, width] at short
    omega
  simp only [parsed, Bool.not_true, Bool.false_eq_true, if_false, fits, wp_bind]
  refine wp_readExact (fun _ short => ?_) fun _ _ => ?_
  · rw [behind, List.length_append, payload] at short
    omega
  · rw [behind, List.take_left' payload, List.drop_left' payload]
    refine ⟨?_, rfl⟩
    rw [offset, assembled_next positive sendable inside, counted_next positive sendable inside]

/-- The loop over the chunks assembles the frame and counts its bytes. -/
theorem receiveChunks_fragments (rest : List UInt8) (remaining : Nat) : ∀ (index : Nat)
    {stream : Stream UInt8}, index + remaining = (fragmentCount fragmentSize frame).toNat →
    stream.incoming = chunkBytes fragmentSize frame index remaining ++ rest →
    wp (receiveChunks split remaining (assembled fragmentSize frame index)
        (counted fragmentSize frame index))
      (fun received after => received.1 = frame.data ∧
        received.2.toUInt64 = frame.totalBytes ∧ after.incoming = rest)
      (fun _ _ => False) stream := by
  obtain ⟨length, _, bounded⟩ := sendable.size
  induction remaining with
  | zero =>
    intro index stream last bytes
    -- the last fragment ends the frame
    have complete : frame.totalBytes.toNat ≤ index * fragmentSize.toNat := by
      rw [← Nat.not_lt, ← lt_fragmentCount positive sendable]
      omega
    refine ⟨?_, ?_, by simpa [chunkBytes] using bytes⟩
    · rw [assembled, Nat.min_eq_right complete, ← length]
      simp
    · apply UInt64.toNat_inj.mp
      rw [counted, Nat.min_eq_right complete, UInt32.toNat_toUInt64, UInt32.toNat_ofNat']
      omega
  | succ remaining ih =>
    intro index stream last bytes
    -- there are chunks left, so this one starts inside the frame
    have inside := (lt_fragmentCount positive sendable index).mp (by omega)
    rw [chunkBytes_succ, List.append_assoc] at bytes
    simp only [receiveChunks, wp_bind]
    apply (receiveChunk_fragment positive sendable inside bytes).post
    rintro _ middle ⟨rfl, incoming⟩
    exact ih (index + 1) (by omega) incoming

/-- On a handshake and a frame, `serverLoop` ends with the frame behind its last byte. -/
theorem serverLoop_frame {taskId : UInt64} {stream : Stream UInt8}
    (bytes : stream.incoming = handshake taskId ++ frameBytes fragmentSize frame) :
    wp (serverLoop split true)
      (fun received after => received = (true, frame.data) ∧ after.incoming = [])
      (fun _ _ => False) stream := by
  obtain ⟨length, _, bounded⟩ := sendable.size
  let header := frameHeaderFor fragmentSize frame
  have width : (buildFrameHeader header).length = frameHeaderSize := buildFrameHeader_length header
  have greeting := handshake_length taskId
  have size : 40 + frameHeaderSize ≤ stream.incoming.length := by
    rw [bytes, frameBytes, List.length_append, List.length_append, greeting, width]
    omega
  have behind : (stream.incoming.drop 20).drop 20 = frameBytes fragmentSize frame := by
    rw [List.drop_drop, bytes, List.drop_left' greeting]
  have parsed : parseFrameHeader (((stream.incoming.drop 20).drop 20).take frameHeaderSize)
      ⟨0, 0, 0, 0, 0, 0, 0, 0⟩ = (true, header) := by
    rw [behind, frameBytes, List.take_left' width, ← List.append_nil (buildFrameHeader header)]
    exact parseFrameHeader_build header _ []
  have chunks : ((stream.incoming.drop 20).drop 20).drop frameHeaderSize =
      chunkBytes fragmentSize frame 0 (fragmentCount fragmentSize frame).toNat ++ [] := by
    rw [behind, frameBytes, List.drop_left' width, List.append_nil]
  have small : ¬ maxSize < frame.totalBytes.toNat := by
    rw [maxSize]
    omega
  have started : List.replicate frame.totalBytes.toNat 0 = assembled fragmentSize frame 0 := by
    simp [assembled, length]
  have zero : (0 : UInt32) = counted fragmentSize frame 0 := by simp [counted]
  rw [serverLoop, wp_bind]
  refine wp_readExact (fun _ short => by omega) fun _ _ => ?_
  rw [wp_bind]
  refine wp_readExact (fun _ short => ?_) fun _ _ => ?_
  · rw [List.length_drop] at short
    omega
  simp only [Bool.not_true, Bool.false_eq_true, if_false, wp_bind]
  refine wp_readExact (fun _ short => ?_) fun _ _ => ?_
  · rw [List.length_drop, List.length_drop] at short
    omega
  simp only [parsed, header, frameHeaderFor, small, Bool.not_true, Bool.false_eq_true, if_false,
    wp_bind]
  rw [started, zero]
  apply (receiveChunks_fragments positive sendable [] _ 0 (Nat.zero_add _) chunks).post
  rintro ⟨rawBuffer, totalReceived⟩ after ⟨rfl, counted, incoming⟩
  exact ⟨by simp [counted], incoming⟩

end Frames

/-! ## What a session sends -/

/-- The bytes on the current connection, and the frames that were sent in full. -/
structure Heard (bytes : List UInt8) (frames : List RawFrame) (net : Net) : Prop where
  bytes : bytesOn net.connection net.history = bytes
  frames : framesSent net.history = frames

/-- The session went no further than this: not beyond the handshake, or into the replay of these
    frames. -/
def Interrupted (taskId : UInt64) (frames : List RawFrame) (net : Net) : Prop :=
  (∃ bytes, bytes <+: handshake taskId ∧ Heard bytes [] net) ∨
    ∃ complete next later part, frames = complete ++ next :: later ∧
      Heard (handshake taskId ++ complete.flatMap (frameBytes fragmentSize) ++ part) complete net ∧
      part <+: frameBytes fragmentSize next ∧ part.length < (frameBytes fragmentSize next).length

section Sending

variable {env : Environment} {taskId : UInt64} {frames frames' : List RawFrame}
  {bytes bytes' whole : List UInt8} {net after : Net} {session : Session}

theorem Heard.carries (heard : Heard bytes frames net)
    (carries : Carries bytes' frames' net after) :
    Heard (bytes ++ bytes') (frames ++ frames') after := by
  obtain ⟨connection, added, grown, sent, complete⟩ := carries
  constructor
  · rw [connection, grown, bytesOn_append, heard.bytes, sent]
  · rw [grown, framesSent_append, heard.frames, complete]

theorem Heard.interrupted (heard : Heard bytes [] net) (begins : bytes <+: handshake taskId) :
    Interrupted taskId frames net := .inl ⟨bytes, begins, heard⟩

/-- A part of the next message of the handshake goes out. -/
theorem Heard.breaks (heard : Heard bytes [] net) (partly : Partial whole net after)
    (begins : bytes ++ whole <+: handshake taskId) : Interrupted taskId frames after := by
  obtain ⟨part, carries, front, _⟩ := partly
  exact (heard.carries carries).interrupted
    ((List.prefix_append_right_inj bytes |>.mpr front).trans begins)

/-- The replay breaks off. -/
theorem Heard.brokenOff (heard : Heard (handshake taskId) [] net)
    (broken : BrokenOff fragmentSize frames net after) : Interrupted taskId frames after := by
  obtain ⟨complete, next, later, part, split, carries, begins, shorter⟩ := broken
  refine .inr ⟨complete, next, later, part, split, ?_, begins, shorter⟩
  have sent := heard.carries carries
  rwa [← List.append_assoc] at sent

theorem Interrupted.close (interrupted : Interrupted taskId frames net) :
    Interrupted taskId frames { net with connected := false } := by
  rcases interrupted with ⟨bytes, begins, heard⟩ |
    ⟨complete, next, later, part, split, heard, broken⟩
  · exact .inl ⟨bytes, begins, heard.bytes, heard.frames⟩
  · exact .inr ⟨complete, next, later, part, split, ⟨heard.bytes, heard.frames⟩, broken⟩

theorem connectToServer_heard {spool : SenderSpool} :
    wp (connectToServer env) (fun _ => Heard [] []) (fun _ => Heard [] [])
      ({ spool } : Session).net := by
  have nothing : Heard [] [] ({ spool } : Session).net := ⟨rfl, rfl⟩
  refine wp_connectToServer env (fun _ => nothing)
    (fun after _ ticks _ => nothing.carries (.of_ticks ticks))
    (fun after _ ticks _ => nothing.carries (.of_ticks ticks)) (fun after _ ticks _ => ?_)
  obtain ⟨frames, _, grown⟩ := ticks.history
  constructor
  · simp [Net.record, grown, bytesOn, Event.bytesOn]
  · simp [Net.record, grown, framesSent]

theorem recvAll_carries {size : Nat} : wp (recvAll env size)
    (fun given after => Carries [] [] net after ∧
      ∀ received ∈ given, ∃ asked, received = recvLoop (env.recv asked) size size [])
    (fun _ after => Carries [] [] net after) net := by
  refine wp_recvAll env (fun _ => ⟨.refl net, by simp⟩) (fun after _ ticks _ => .of_ticks ticks)
    (fun after received _ ticks given => ?_)
  have recorded : Carries [] [] after (after.record (.received net.connection received)) :=
    ⟨rfl, [_], rfl, rfl, rfl⟩
  have carries := (Carries.of_ticks ticks).trans recorded
  refine ⟨fun _ => ⟨⟨carries.connection, carries.history⟩, by simp⟩, fun _ => ⟨carries, ?_⟩⟩
  rintro _ ⟨⟩
  exact ⟨after, given⟩

/-- The request goes out; a reply behind it is one that the peer offers. -/
theorem receiveReply_heard (heard : Heard (makeHelloMessage taskId) [] net) :
    wp (receiveReply env taskId)
      (fun answer after => match answer with
        | none => Interrupted taskId frames after
        | some reply => Offers env reply ∧ Heard (handshake taskId) [] after)
      (fun _ after => Interrupted taskId frames after) net := by
  have request : (Packet.resumeRequest taskId).bytes ≠ [] :=
    List.ne_nil_of_length_pos (by simp [Packet.bytes, makeResumeRequestMessage])
  simp only [receiveReply, wp_bind]
  refine (sendAll_breaks _ request).mono (fun sent asked went => ?_)
    (fun _ after partly => heard.breaks partly (List.prefix_refl _))
  cases sent with
  | false => exact heard.breaks went (List.prefix_refl _)
  | true =>
    have whole : Heard (handshake taskId) [] asked := heard.carries went
    simp only [Bool.not_true, Bool.false_eq_true, if_false, wp_bind]
    refine recvAll_carries.mono (fun given after received => ?_) (fun _ after carries => ?_)
    · have here : Heard (handshake taskId) [] after := by simpa using whole.carries received.1
      cases given with
      | none => exact here.interrupted (List.prefix_refl _)
      | some given =>
        obtain ⟨asked, rfl⟩ := received.2 given rfl
        simp only [wp_pure]
        generalize result : parseResumeReply _ ⟨0, 0⟩ = outcome
        obtain ⟨_ | _, reply⟩ := outcome
        · exact here.interrupted (List.prefix_refl _)
        · exact ⟨⟨asked, result⟩, here⟩
    · have here : Heard (handshake taskId) [] after := by simpa using whole.carries carries
      exact here.interrupted (List.prefix_refl _)

/-- The frames that the receiver does not have according to its reply. -/
def awaited (files : Directory) : List RawFrame := unacknowledged files reply

theorem requestResume_heard (owned : Owned session.spool.files)
    (replies : ∀ offered, Offers env offered → offered = reply)
    (heard : Heard (makeHelloMessage taskId) [] session.net) :
    wp (requestResume env taskId)
      (fun resumed after => if resumed then Heard (handshake taskId) [] after.net ∧
          pending after.spool.files = awaited session.spool.files
        else Interrupted taskId frames after.net)
      (fun _ after => Interrupted taskId frames after.net) session := by
  rw [wp_requestResume_iff]
  simp only [onNet, wp_zoom]
  refine (receiveReply_heard heard).post fun answer asked given => ?_
  cases answer with
  | none => exact given
  | some offered =>
    obtain ⟨offers, here⟩ := given
    obtain rfl := replies offered offers
    have recorded : Carries [] [] asked (asked.record (.resumed asked.connection reply)) :=
      ⟨rfl, [_], rfl, rfl, rfl⟩
    have accepted : Heard (handshake taskId) []
        (asked.record (.resumed asked.connection reply)) := by
      simpa using here.carries recorded
    have spools : wp (prune env reply)
        (fun _ after =>
          after.spool = session.spool.removeAll (covered reply session.spool.files))
        (fun _ _ => True) { session with net := asked } := by
      apply wp_prune
      · exact fun _ => trivial
      · exact fun _ _ _ _ _ _ => trivial
      · exact fun _ _ _ _ => rfl
    refine (spools.and prune_carries).mono (fun _ after pruned => ?_) (fun _ after pruned => ?_)
    · have kept : Heard (handshake taskId) [] after.net := by
        simpa using accepted.carries pruned.2
      exact ⟨kept, by rw [pruned.1]; exact pending_covered owned reply⟩
    · have kept : Heard (handshake taskId) [] after.net := by
        simpa using accepted.carries pruned.2
      exact kept.interrupted (List.prefix_refl _)

theorem replayPendingFrames_heard (session : Session) (sendable : ∀ frame ∈ frames, Sendable frame)
    (left : pending session.spool.files = frames)
    (heard : Heard (handshake taskId) [] session.net) :
    wp (replayPendingFrames env)
      (fun replayed after => if replayed then
          Heard (handshake taskId ++ frames.flatMap (frameBytes fragmentSize)) frames after.net
        else Interrupted taskId frames after.net)
      (fun _ after => Interrupted taskId frames after.net) session := by
  have positive : 0 < ResumeSession.fragmentSize.toNat := by decide
  simp only [replayPendingFrames, wp_bind]
  refine wp_loadPendingFrames (fun _ => heard.interrupted (List.prefix_refl _)) fun _ => ?_
  rw [left, wp_ite]
  refine ⟨fun isEmpty => ?_, fun _ => ?_⟩
  · rw [List.isEmpty_iff.mp isEmpty]
    simpa using heard
  · refine wp_allM_zoom Session.net (fun net session => { session with net }) (fun _ _ => rfl)
      (fun _ _ _ => rfl) (fun _ => rfl) _ _ ?_
    refine (sendFrames_break positive frames session.net sendable).mono
      (fun replayed after went => ?_) (fun _ after broken => heard.brokenOff broken)
    cases replayed with
    | false => exact heard.brokenOff went
    | true => simpa using heard.carries went

/-- A session that starts on a spool and has not been connected before. -/
theorem start_heard {spool : SenderSpool} (owned : Owned spool.files)
    (sendable : ∀ frame ∈ pending spool.files, Sendable frame)
    (replies : ∀ offered, Offers env offered → offered = reply) :
    wp (start env taskId)
      (fun ready after => if ready then
          Heard (handshake taskId ++ (awaited spool.files).flatMap (frameBytes fragmentSize))
            (awaited spool.files) after.net
        else Interrupted taskId (awaited spool.files) after.net)
      (fun _ after => Interrupted taskId (awaited spool.files) after.net) { spool } := by
  have nothing : ∀ {net}, Heard [] [] net → Interrupted taskId (awaited spool.files) net :=
    fun heard => heard.interrupted List.nil_prefix
  have hello : (Packet.hello taskId).bytes ≠ [] :=
    List.ne_nil_of_length_pos (by simp [Packet.bytes, makeHelloMessage])
  have front : [] ++ (Packet.hello taskId).bytes <+: handshake taskId :=
    List.prefix_append (makeHelloMessage taskId) (makeResumeRequestMessage taskId)
  apply wp_reconnectAndResume_steps env taskId (Heard [] []) (Heard (makeHelloMessage taskId) [])
    fun after => Heard (handshake taskId) [] after.net ∧
      pending after.spool.files = awaited spool.files
  · refine connectToServer_heard.mono (fun up net heard => ?_) (fun _ net heard => nothing heard)
    cases up with
    | false => exact nothing heard
    | true => exact heard
  · intro net heard
    refine (sendAll_breaks _ hello).mono (fun sent after went => ?_)
      (fun _ after partly => heard.breaks partly front)
    cases sent with
    | false => exact (heard.breaks went front).close
    | true => exact heard.carries went
  · intro net heard
    refine (requestResume_heard owned replies heard).post fun resumed after answered => ?_
    cases resumed with
    | false => exact Interrupted.close answered
    | true => exact answered
  · rintro after ⟨heard, left⟩
    refine (replayPendingFrames_heard { after with state := .recovering } ?_ left heard).post
      fun replayed last went => ?_
    · exact fun frame member => sendable frame (List.mem_filter.mp member).1
    · cases replayed with
      | false => exact went
      | true => exact went

end Sending

/-! ## What the receiver makes of it -/

/-- `serverLoop` when these bytes have come; `replied` says whether its reply could be sent. -/
def receives (split : Nat → Nat) (bytes : List UInt8) (replied : Bool := true) :
    Except ReceiverExit (Bool × List UInt8) :=
  match serverLoop split replied { incoming := bytes } with
  | .ok received _ => .ok received
  | .error exit _ => .error exit

/-- It waits for what it is lacking. -/
def Waits (outcome : Except ReceiverExit (Bool × List UInt8)) : Prop :=
  ∃ exit, Missing exit ∧ outcome = .error exit

section Receiving

variable {split : Nat → Nat} {taskId : UInt64} {frame : RawFrame} {bytes part : List UInt8}

theorem receives_handshake (begins : bytes <+: handshake taskId) :
    Waits (receives split bytes) := by
  have short : bytes.length ≤ 40 := begins.length_le.trans_eq (handshake_length taskId)
  have waits := @serverLoop_handshake split { incoming := bytes } short
  rw [receives]
  cases run : serverLoop split true { incoming := bytes } with
  | ok received after => exact (waits.ok run).elim
  | error exit after => exact ⟨exit, waits.error run, rfl⟩

theorem serverLoop_frame_run (split : Nat → Nat) (taskId : UInt64) (sendable : Sendable frame) :
    ∃ after, serverLoop split true
        { incoming := handshake taskId ++ frameBytes ResumeSession.fragmentSize frame } =
      .ok (true, frame.data) ⟨[], after⟩ := by
  have positive : 0 < ResumeSession.fragmentSize.toNat := by decide
  have ends : wp (serverLoop split true) _ (fun _ _ => False)
      { incoming := handshake taskId ++ frameBytes ResumeSession.fragmentSize frame } :=
    serverLoop_frame positive sendable rfl
  cases run : serverLoop split true
      { incoming := handshake taskId ++ frameBytes ResumeSession.fragmentSize frame } with
  | ok received after =>
    obtain ⟨rfl, incoming⟩ := ends.ok run
    obtain ⟨_, calls⟩ := after
    obtain rfl : _ = [] := incoming
    exact ⟨calls, rfl⟩
  | error exit after => exact (ends.error run).elim

theorem receives_frame (sendable : Sendable frame) (rest : List UInt8) :
    receives split (handshake taskId ++ frameBytes ResumeSession.fragmentSize frame ++ rest) =
      .ok (true, frame.data) := by
  obtain ⟨after, run⟩ := serverLoop_frame_run split taskId sendable
  obtain ⟨after', more⟩ := (serverLoop_incremental true).more run rest 0
  rw [receives, more]

theorem receives_part (sendable : Sendable frame)
    (begins : part <+: frameBytes ResumeSession.fragmentSize frame)
    (shorter : part.length < (frameBytes ResumeSession.fragmentSize frame).length) :
    Waits (receives split (handshake taskId ++ part)) := by
  obtain ⟨after, run⟩ := serverLoop_frame_run split taskId sendable
  obtain ⟨exit, after', less, missing⟩ := (serverLoop_incremental true).starves run
    ((List.prefix_append_right_inj _).mpr begins)
    (by rw [List.length_append, List.length_append]; omega) 0
  exact ⟨exit, missing, by rw [receives, less]⟩

end Receiving

/-- No frame is asked for any more. -/
def GivenUp (outcome : Except ReceiverExit (Bool × List UInt8)) : Prop :=
  ∃ exit, (Missing exit ∨ exit = .replyLost) ∧ outcome = .error exit

/-- Whatever part of the bytes that went out arrives, the receiver has the first frame that is
    whole behind the handshake, and waits while there is none; if its reply cannot be sent it gives
    up.  `sent` are the frames whose last byte went out. -/
structure Replayed (split : Nat → Nat) (frames : List RawFrame) (net : Net) : Prop where
  sent : framesSent net.history = wholeFrames ResumeSession.fragmentSize frames
    ((bytesOn net.connection net.history).length - 40)
  received : ∀ arrived ≤ (bytesOn net.connection net.history).length,
    match wholeFrames ResumeSession.fragmentSize frames (arrived - 40) with
    | [] => Waits (receives split ((bytesOn net.connection net.history).take arrived))
    | frame :: _ => receives split ((bytesOn net.connection net.history).take arrived) =
        .ok (true, frame.data)
  unreplied : ∀ arrived,
    GivenUp (receives split ((bytesOn net.connection net.history).take arrived) false)

section Replay

variable {split : Nat → Nat} {taskId : UInt64} {frames : List RawFrame} {net : Net}

theorem wholeFrames_zero (frames : List RawFrame) :
    wholeFrames ResumeSession.fragmentSize frames 0 = [] := by
  cases frames with
  | nil => rfl
  | cons frame frames =>
    have header : 48 ≤ (frameBytes ResumeSession.fragmentSize frame).length := by
      rw [frameBytes, List.length_append, buildFrameHeader_length]
      exact Nat.le_add_right _ _
    rw [wholeFrames, if_neg (by omega)]

theorem receives_unreplied (bytes : List UInt8) : GivenUp (receives split bytes false) := by
  have ends := @serverLoop_unreplied split { incoming := bytes }
  rw [receives]
  cases run : serverLoop split false { incoming := bytes } with
  | ok received after => exact (ends.ok run).elim
  | error exit after => exact ⟨exit, ends.error run, rfl⟩

/-- What the receiver makes of the first bytes of a session. -/
theorem receives_beginning (sendable : ∀ frame ∈ frames, Sendable frame) {bytes : List UInt8}
    (begins : bytes <+:
      handshake taskId ++ frames.flatMap (frameBytes ResumeSession.fragmentSize)) :
    match wholeFrames ResumeSession.fragmentSize frames (bytes.length - 40) with
    | [] => Waits (receives split bytes)
    | frame :: _ => receives split bytes = .ok (true, frame.data) := by
  have width := handshake_length taskId
  cases Nat.le_total bytes.length 40 with
  | inl short =>
    rw [Nat.sub_eq_zero_of_le short, wholeFrames_zero]
    exact receives_handshake (List.prefix_of_prefix_length_le begins (List.prefix_append _ _)
      (by omega))
  | inr long =>
    -- the handshake is there, and a part of the frames
    obtain ⟨rest, rfl⟩ := List.prefix_of_prefix_length_le (List.prefix_append _ _) begins
      (by omega : (handshake taskId).length ≤ bytes.length)
    rw [List.prefix_append_right_inj] at begins
    rw [List.length_append, width, Nat.add_sub_cancel_left]
    obtain ⟨later, whole, cases⟩ := @take_frameBytes ResumeSession.fragmentSize frames rest.length
    rw [← List.prefix_iff_eq_take.mp begins] at cases
    generalize wholeFrames ResumeSession.fragmentSize frames rest.length = complete at whole cases
    cases complete with
    | nil =>
      -- nothing behind the handshake, or the first frame is on its way
      rcases cases with ⟨_, same⟩ | ⟨next, later, part, rfl, same, front, shorter⟩
      · rw [same, List.flatMap_nil, List.append_nil]
        exact receives_handshake (List.prefix_refl _)
      · rw [same, List.flatMap_nil, List.nil_append]
        exact receives_part (sendable next (by rw [whole]; simp)) front shorter
    | cons frame complete =>
      -- the receiver is through with the first frame, whatever follows it
      have known : Sendable frame := sendable frame (by rw [whole]; simp)
      rcases cases with ⟨_, same⟩ | ⟨next, later, part, rfl, same, _, _⟩
      · rw [same, List.flatMap_cons, ← List.append_assoc]
        exact receives_frame known _
      · rw [same, List.flatMap_cons, List.append_assoc, ← List.append_assoc]
        exact receives_frame known _

theorem Replayed.of_beginning (taskId : UInt64) (sendable : ∀ frame ∈ frames, Sendable frame)
    (begins : bytesOn net.connection net.history <+:
      handshake taskId ++ frames.flatMap (frameBytes ResumeSession.fragmentSize))
    (sent : framesSent net.history = wholeFrames ResumeSession.fragmentSize frames
      ((bytesOn net.connection net.history).length - 40)) : Replayed split frames net where
  sent := sent
  received arrived bound := by
    have front := (List.take_prefix arrived _).trans begins
    have received := @receives_beginning split taskId frames sendable _ front
    rwa [List.length_take, Nat.min_eq_left bound] at received
  unreplied _ := receives_unreplied _

theorem Heard.replayed (sendable : ∀ frame ∈ frames, Sendable frame)
    (heard : Heard (handshake taskId ++ frames.flatMap (frameBytes ResumeSession.fragmentSize))
      frames net) : Replayed split frames net := by
  have all := @wholeFrames_front ResumeSession.fragmentSize frames [] [] (.inl ⟨rfl, rfl⟩)
  rw [List.append_nil, List.append_nil] at all
  refine .of_beginning taskId sendable (by rw [heard.bytes]) ?_
  rw [heard.frames, heard.bytes, List.length_append, handshake_length, Nat.add_sub_cancel_left,
    all]

theorem Interrupted.replayed (sendable : ∀ frame ∈ frames, Sendable frame)
    (interrupted : Interrupted taskId frames net) : Replayed split frames net := by
  rcases interrupted with ⟨bytes, begins, heard⟩ |
    ⟨complete, next, later, part, rfl, heard, begins, shorter⟩
  · -- the handshake broke off
    refine .of_beginning taskId sendable ?_ ?_
    · rw [heard.bytes]
      exact begins.trans (List.prefix_append _ _)
    have short : bytes.length ≤ 40 := begins.length_le.trans_eq (handshake_length taskId)
    rw [heard.frames, heard.bytes, Nat.sub_eq_zero_of_le short, wholeFrames_zero]
  · -- the frame `next` did
    refine .of_beginning taskId sendable ?_ ?_
    · rw [heard.bytes, List.append_assoc, List.flatMap_append, List.flatMap_cons]
      exact (List.prefix_append_right_inj _).mpr ((List.prefix_append_right_inj _).mpr
        (begins.trans (List.prefix_append _ _)))
    · rw [heard.frames, heard.bytes, List.append_assoc, List.length_append, handshake_length,
        Nat.add_sub_cancel_left, wholeFrames_front (.inr ⟨next, later, rfl, shorter⟩)]

end Replay

/-- Over any spool that only `persist` wrote to, with frames of up to 200 MiB, and over any
    network: whenever the connection breaks or the process dies, and however many of the bytes that
    went out are lost, the receiver has the oldest frame that it asked for once the last byte of it
    arrived, and waits until then; a session that is ready has sent all of them. -/
theorem replay_received (env : Environment) (split : Nat → Nat) (taskId : UInt64)
    (spool : SenderSpool) (owned : Owned spool.files)
    (sendable : ∀ frame ∈ pending spool.files, Sendable frame)
    (replies : ∀ offered, Offers env offered → offered = reply) :
    wp (start env taskId)
      (fun ready after => Replayed split (awaited spool.files) after.net ∧
        (ready = true → framesSent after.net.history = awaited spool.files))
      (fun _ after => Replayed split (awaited spool.files) after.net) { spool } := by
  have known : ∀ frame ∈ awaited spool.files, Sendable frame := fun frame member =>
    sendable frame (List.mem_filter.mp member).1
  refine (start_heard owned sendable replies).mono (fun ready after heard => ?_)
    (fun _ after interrupted => interrupted.replayed known)
  cases ready with
  | false => exact ⟨Interrupted.replayed known heard, Bool.noConfusion⟩
  | true => exact ⟨Heard.replayed known heard, fun _ => heard.frames⟩

/-- Two frames; the older one is what the receiver gets. -/
theorem replay_received_two :
    ∃ after, start (.serving (fun _ => some reply) fun _ => []) 1 { spool := twoPending.spool } =
        .ok true after ∧
      Replayed (fun _ => 7) (awaited twoPending.spool.files) after.net ∧
      framesSent after.net.history = awaited twoPending.spool.files := by
  have sendable : ∀ frame ∈ pending twoPending.spool.files,
      frame.empty = false ∧ frame.totalBytes ≤ maxFrameBytes := by
    decide +kernel
  have replies : ∀ offered, Offers (.serving (fun _ => some reply) fun _ => []) offered →
      offered = reply := by
    rintro offered ⟨net, parsed⟩
    have answer : some reply = some offered :=
      @Environment.serving_reply (fun _ => some reply) (fun _ => []) net offered parsed
    exact (Option.some.inj answer).symm
  have ends := replay_received (.serving (fun _ => some reply) fun _ => []) (fun _ => 7) 1
    twoPending.spool twoPending_owned
    (fun frame member => ⟨(sendable frame member).1, (sendable frame member).2⟩) replies
  have succeeds : wp (start (.serving (fun _ => some reply) fun _ => []) 1)
      (fun ready _ => ready = true) (fun _ _ => False) { spool := twoPending.spool } := by
    decide +kernel
  cases run : start (.serving (fun _ => some reply) fun _ => []) 1
      { spool := twoPending.spool } with
  | error _ _ => exact (succeeds.error run).elim
  | ok ready after =>
    obtain rfl : ready = true := succeeds.ok run
    exact ⟨after, rfl, (ends.ok run).1, (ends.ok run).2 rfl⟩

end ResumeReceiver

end PictureReconstruct
