import PictureReconstruct.Network.Fragmentation
import PictureReconstruct.Server.ImageReads

/-! # The wire format round-trips whole streams

`RawFrameSender::sendFrame` cuts a frame into fragments, the loop of `test_server.cpp` puts
the fragments together again.  Both sides are followed along the same sequence of packets:

* `sendFrame_delivers`: the bytes a successful `sendFrame` leaves on the connection are those
  of `frameBytes`, however `send` takes them.
* `receiveFrame_frameBytes`: on these bytes one iteration of the receive loop stores the frame
  and stops at the first byte after it, however `recv` hands them over.
* `stream_round_trip`: so a sequence of frames whose buffers hold their images is received as it
  was sent.
* `narrowRow_ends_loop`: behind another frame the loop need not go on.
-/

namespace PictureReconstruct

open Library.Bytes Library.Procedure TcpClient RawFrameSender RawFrameProtocol Server

/-! ## The bytes of a frame -/

/-- The bytes of the chunks from number `index` on, `count` of them. -/
def chunkBytes (fragmentSize : UInt32) (frame : RawFrame) (index count : Nat) : List UInt8 :=
  ((List.range' index count).flatMap (fragmentPackets fragmentSize frame)).flatMap Packet.bytes

theorem chunkBytes_succ (fragmentSize : UInt32) (frame : RawFrame) (index count : Nat) :
    chunkBytes fragmentSize frame index (count + 1) =
      chunkBytes fragmentSize frame index 1 ++ chunkBytes fragmentSize frame (index + 1) count := by
  simp [chunkBytes, List.range'_succ]

/-- The bytes of a frame on the wire. -/
def frameBytes (fragmentSize : UInt32) (frame : RawFrame) : List UInt8 :=
  buildFrameHeader (frameHeaderFor fragmentSize frame) ++
    chunkBytes fragmentSize frame 0 (fragmentCount fragmentSize frame).toNat

/-! ## Sending -/

/-- No failure: the process lives and every `send` takes a byte at least. -/
structure Environment.Delivers (env : Environment) : Prop where
  lives : ∀ net, env.dies net = false
  sends : ∀ net packet sent, sent < packet.bytes.length → 0 < env.send net packet sent

/-- `after` is `before` with `bytes` more on the current connection, which is still up. -/
structure Delivered (bytes : List UInt8) (before after : Net) : Prop where
  connected : after.connected = true
  connection : after.connection = before.connection
  history : ∃ added, after.history = before.history ++ added ∧
    bytesOn before.connection added = bytes

section Sending

variable {env : Environment} (delivers : env.Delivers) {fragmentSize : UInt32} {frame : RawFrame}

theorem Delivered.trans {first second : List UInt8} {before middle after : Net}
    (left : Delivered first before middle) (right : Delivered second middle after) :
    Delivered (first ++ second) before after := by
  obtain ⟨added, grown, sent⟩ := left.history
  obtain ⟨added', grown', sent'⟩ := right.history
  refine ⟨right.connected, right.connection.trans left.connection, added ++ added', ?_, ?_⟩
  · rw [grown', grown, List.append_assoc]
  · rw [left.connection] at sent'
    rw [bytesOn_append, sent, sent']

include delivers

theorem sendAll_delivers (packet : Packet) {net : Net} (live : net.connected = true) :
    wp (sendAll env packet) (fun sent after => sent = true ∧ Delivered packet.bytes net after)
      (fun _ _ => False) net := by
  refine wp_sendAll env (fun closed => ?_) (fun after _ _ dies => ?_)
    (fun after accepted _ _ short failed => ?_) (fun after _ ticks _ => ⟨rfl, ?_⟩)
  · simp [live] at closed
  · simp [delivers.lives after] at dies
  · exact absurd failed (Nat.ne_of_gt (delivers.sends after packet accepted short))
  · obtain ⟨frames, _, grown⟩ := ticks.history
    refine ⟨by simpa [Net.record, ticks.connected] using live, ticks.connection,
      frames.map .stored ++ [.sent net.connection packet packet.bytes.length], ?_, ?_⟩
    · rw [Net.record, grown, List.append_assoc]
    · simp [bytesOn, Event.bytesOn]

theorem sendFragment_delivers (index : Nat) {net : Net} (live : net.connected = true) :
    wp (sendFragment env fragmentSize frame index)
      (fun sent after => sent = true ∧ Delivered (chunkBytes fragmentSize frame index 1) net after)
      (fun _ _ => False) net := by
  have bytes : chunkBytes fragmentSize frame index 1 =
      buildChunkHeader (chunkHeaderFor fragmentSize frame (UInt32.ofNat index)) ++
        payloadFor fragmentSize frame (UInt32.ofNat index) := by
    simp [chunkBytes, fragmentPackets, Packet.bytes]
  simp only [sendFragment, wp_bind]
  apply (sendAll_delivers delivers _ live).post
  rintro _ middle ⟨rfl, header⟩
  apply (sendAll_delivers delivers _ header.connected).post
  rintro _ after ⟨rfl, payload⟩
  rw [bytes]
  exact ⟨rfl, header.trans payload⟩

theorem sendFragments_delivers (count : Nat) : ∀ (index : Nat) {net : Net}, net.connected = true →
    wp ((List.range' index count).allM (sendFragment env fragmentSize frame))
      (fun sent after =>
        sent = true ∧ Delivered (chunkBytes fragmentSize frame index count) net after)
      (fun _ _ => False) net := by
  induction count with
  | zero => exact fun _ net live => ⟨rfl, live, rfl, [], by simp, rfl⟩
  | succ count ih =>
    intro index net live
    simp only [List.range'_succ, List.allM, wp_bind]
    apply (sendFragment_delivers delivers index live).post
    rintro _ middle ⟨rfl, first⟩
    apply (ih (index + 1) first.connected).post
    rintro _ after ⟨rfl, rest⟩
    rw [chunkBytes_succ]
    exact ⟨rfl, first.trans rest⟩

/-- Without failures `sendFrame` succeeds and leaves the bytes of the frame on the wire. -/
theorem sendFrame_delivers (filled : frame.empty = false) {net : Net}
    (live : net.connected = true) :
    wp (sendFrame env fragmentSize frame)
      (fun sent after => sent = true ∧ Delivered (frameBytes fragmentSize frame) net after)
      (fun _ _ => False) net := by
  have pixels : (frame.totalBytes == 0) = false := by
    simp only [RawFrame.empty, Bool.or_eq_false_iff] at filled
    exact filled.2
  simp only [sendFrame, filled, pixels, Bool.false_eq_true, if_false, wp_bind]
  apply (sendAll_delivers delivers _ live).post
  rintro _ middle ⟨rfl, header⟩
  simp only [Bool.not_true, Bool.false_eq_true, if_false, wp_bind, List.range_eq_range']
  apply (sendFragments_delivers delivers _ 0 header.connected).post
  rintro _ last ⟨rfl, chunks⟩
  obtain ⟨connected, connection, added, grown, sent⟩ := header.trans chunks
  refine ⟨rfl, connected, connection, added ++ [.frameSent last.connection frame], ?_, ?_⟩
  · simp only [Net.record, grown, List.append_assoc]
  · rw [bytesOn_append, sent]
    simp [bytesOn, Event.bytesOn, frameBytes, Packet.bytes]

theorem sendFrames_deliver (fragmentSize : UInt32) (frames : List RawFrame) :
    ∀ {net : Net}, (∀ frame ∈ frames, frame.empty = false) → net.connected = true →
    wp (frames.allM (sendFrame env fragmentSize))
      (fun sent after =>
        sent = true ∧ Delivered (frames.flatMap (frameBytes fragmentSize)) net after)
      (fun _ _ => False) net := by
  induction frames with
  | nil => exact fun _ live => ⟨rfl, live, rfl, [], by simp, rfl⟩
  | cons frame frames ih =>
    intro net filled live
    simp only [List.allM, wp_bind]
    apply (sendFrame_delivers delivers (filled frame List.mem_cons_self) live).post
    rintro _ middle ⟨rfl, first⟩
    refine (ih (fun other member => filled other (List.mem_cons_of_mem _ member))
      first.connected).post ?_
    rintro _ after ⟨rfl, rest⟩
    exact ⟨rfl, first.trans rest⟩

end Sending

/-! ## The fragments of a frame -/

/-- What the receiver admits: pixels, and at most `maxFrameBytes` of them. -/
structure Sendable (frame : RawFrame) : Prop where
  filled : frame.empty = false
  bounded : frame.totalBytes ≤ maxFrameBytes

section Fragments

variable {fragmentSize : UInt32} {frame : RawFrame}

theorem Sendable.size (sendable : Sendable frame) :
    frame.data.length = frame.totalBytes.toNat ∧ 0 < frame.totalBytes.toNat ∧
      frame.totalBytes.toNat ≤ 209715200 := by
  obtain ⟨_, length, positive, _⟩ := RawFrame.data_of_not_empty sendable.filled
  exact ⟨length, positive, UInt64.le_iff_toNat_le.mp sendable.bounded⟩

theorem setFragmentSize_positive (requested : UInt32) :
    0 < (setFragmentSize requested).toNat := by
  unfold setFragmentSize
  split
  · decide
  · rename_i large
    have := UInt32.not_lt.mp large
    have := UInt32.le_iff_toNat_le.mp this
    have : (1024 : UInt32).toNat = 1024 := rfl
    omega

variable (positive : 0 < fragmentSize.toNat) (sendable : Sendable frame)

include positive sendable

/-- The loop index runs over the fragments that start inside the frame. -/
theorem lt_fragmentCount (index : Nat) : index < (fragmentCount fragmentSize frame).toNat ↔
    index * fragmentSize.toNat < frame.totalBytes.toNat := by
  obtain ⟨_, _, bounded⟩ := sendable.size
  have numbered : frame.totalBytes.toNat ≤ (2 ^ 32 - 1) * fragmentSize.toNat := by omega
  exact frame.declared.lt_fragmentCount positive numbered index

theorem chunkHeaderFor_fields {index : Nat}
    (inside : index * fragmentSize.toNat < frame.totalBytes.toNat) :
    (chunkHeaderFor fragmentSize frame (UInt32.ofNat index)).offset.toNat =
        index * fragmentSize.toNat ∧
      (chunkHeaderFor fragmentSize frame (UInt32.ofNat index)).payloadSize.toNat =
        min fragmentSize.toNat (frame.totalBytes.toNat - index * fragmentSize.toNat) := by
  obtain ⟨_, _, bounded⟩ := sendable.size
  have number : index ≤ index * fragmentSize.toNat := Nat.le_mul_of_pos_right _ positive
  exact frame.declared.fragment_fields (by omega) inside

/-- The receiver's two tests accept every chunk the sender cuts. -/
theorem chunkHeaderFor_admitted {index : Nat}
    (inside : index * fragmentSize.toNat < frame.totalBytes.toNat) :
    Admitted (frameHeaderFor fragmentSize frame)
      (chunkHeaderFor fragmentSize frame (UInt32.ofNat index)) := by
  obtain ⟨offset, payloadSize⟩ := chunkHeaderFor_fields positive sendable inside
  have small := frame.totalBytes.toNat_lt
  refine ⟨rfl, ?_⟩
  rw [gt_iff_lt, UInt64.lt_iff_toNat_lt, UInt64.toNat_add, UInt32.toNat_toUInt64, offset,
    payloadSize, Nat.mod_eq_of_lt (by omega)]
  simp only [frameHeaderFor]
  omega

theorem payloadFor_eq {index : Nat}
    (inside : index * fragmentSize.toNat < frame.totalBytes.toNat) :
    payloadFor fragmentSize frame (UInt32.ofNat index) =
      slice frame.data (index * fragmentSize.toNat)
        (min fragmentSize.toNat (frame.totalBytes.toNat - index * fragmentSize.toNat)) := by
  obtain ⟨offset, payloadSize⟩ := chunkHeaderFor_fields positive sendable inside
  rw [payloadFor, offset, payloadSize]

end Fragments

/-! ## Receiving -/

section Receiving

variable (split : Nat → Nat) (fragmentSize : UInt32) (frame : RawFrame)

/-- What the receive loop does on the chunks from number `index` on, `count` of them. -/
def chunkEvents (index count : Nat) : List ServerEvent :=
  (List.range' index count).flatMap fun i =>
    [.chunk (frameHeaderFor fragmentSize frame)
        (chunkHeaderFor fragmentSize frame (UInt32.ofNat i)),
      .payload (frameHeaderFor fragmentSize frame)
        (chunkHeaderFor fragmentSize frame (UInt32.ofNat i))]

/-- What the receive loop does on a frame. -/
def frameEvents : List ServerEvent :=
  chunkEvents fragmentSize frame 0 (fragmentCount fragmentSize frame).toNat ++
    [.save (frameHeaderFor fragmentSize frame) frame.data,
      .view (frameHeaderFor fragmentSize frame) frame.data]

/-- The buffer when the first `index` fragments are in place. -/
def assembled (index : Nat) : List UInt8 :=
  let copied := min (index * fragmentSize.toNat) frame.totalBytes.toNat
  frame.data.take copied ++ List.replicate (frame.data.length - copied) 0

variable {split fragmentSize frame}
variable (positive : 0 < fragmentSize.toNat) (sendable : Sendable frame)

include positive sendable

omit positive in
theorem assembled_length (index : Nat) :
    (assembled fragmentSize frame index).length = frame.totalBytes.toNat := by
  obtain ⟨length, _, _⟩ := sendable.size
  simp only [assembled, List.length_append, List.length_take, List.length_replicate]
  omega

/-- Fragment number `index` extends the assembled part of the buffer. -/
theorem assembled_next {index : Nat}
    (inside : index * fragmentSize.toNat < frame.totalBytes.toNat) :
    overwrite (assembled fragmentSize frame index) (index * fragmentSize.toNat)
        (payloadFor fragmentSize frame (UInt32.ofNat index)) =
      assembled fragmentSize frame (index + 1) := by
  obtain ⟨length, _, _⟩ := sendable.size
  have before : min (index * fragmentSize.toNat) frame.totalBytes.toNat =
      index * fragmentSize.toNat := Nat.min_eq_left (Nat.le_of_lt inside)
  have after : min ((index + 1) * fragmentSize.toNat) frame.totalBytes.toNat =
      index * fragmentSize.toNat +
        min fragmentSize.toNat (frame.totalBytes.toNat - index * fragmentSize.toNat) := by
    rw [Nat.add_one_mul]
    omega
  rw [payloadFor_eq positive sendable inside, assembled, assembled, before, after]
  exact overwrite_next (by omega)

/-- On the bytes of a chunk the loop puts its payload in place and goes on behind it. -/
theorem receiveChunk_fragment {index : Nat}
    (inside : index * fragmentSize.toNat < frame.totalBytes.toNat) (rest : List UInt8)
    {connection : Connection}
    (bytes : connection.incoming = chunkBytes fragmentSize frame index 1 ++ rest) :
    wp (receiveChunk split (frameHeaderFor fragmentSize frame)
        (assembled fragmentSize frame index))
      (fun rawBuffer after => rawBuffer = some (assembled fragmentSize frame (index + 1)) ∧
        after.incoming = rest ∧
        after.events = connection.events ++ chunkEvents fragmentSize frame index 1)
      (fun _ _ => False) connection := by
  let header := chunkHeaderFor fragmentSize frame (UInt32.ofNat index)
  have admitted := chunkHeaderFor_admitted positive sendable inside
  have sent : connection.incoming = buildChunkHeader header ++
      (payloadFor fragmentSize frame (UInt32.ofNat index) ++ rest) := by
    simpa [chunkBytes, fragmentPackets, Packet.bytes] using bytes
  obtain ⟨offset, payloadSize⟩ := chunkHeaderFor_fields positive sendable inside
  obtain ⟨length, _, _⟩ := sendable.size
  have width : (buildChunkHeader header).length = chunkHeaderSize := buildChunkHeader_length header
  have payload : (payloadFor fragmentSize frame (UInt32.ofNat index)).length =
      header.payloadSize.toNat := by
    rw [payloadFor_eq positive sendable inside, payloadSize]
    exact slice_length (by omega)
  -- what the loop reads first is the header of this chunk
  have taken : parseChunkHeader (connection.incoming.take chunkHeaderSize) ⟨0, 0, 0, 0⟩ =
      (true, header) := by
    rw [sent, List.take_left' width, ← List.append_nil (buildChunkHeader header)]
    exact parseChunkHeader_build header _ []
  have size : connection.incoming.length =
      chunkHeaderSize + (header.payloadSize.toNat + rest.length) := by
    rw [sent, List.length_append, List.length_append, width, payload]
  refine wp_receiveChunk split (fun _ short _ => ?_) (fun _ _ rejected _ => ?_)
    (fun chunkHeader _ parsed => ?_)
  · omega
  · simp [taken] at rejected
  · obtain rfl : header = chunkHeader := by simpa [taken] using parsed
    refine ⟨fun _ refused _ => absurd admitted refused, fun _ _ outside _ => ?_,
      fun after _ _ advanced => ⟨fun short => ?_, fun _ => ?_⟩⟩
    · rw [offset, payloadSize, assembled_length sendable] at outside
      omega
    · omega
    · have held : slice connection.incoming chunkHeaderSize header.payloadSize.toNat =
          payloadFor fragmentSize frame (UInt32.ofNat index) := by
        rw [sent, slice_append_right width _ _ (Nat.le_refl _), Nat.sub_self,
          slice_append_left payload]
      have left : connection.incoming.drop (chunkHeaderSize + header.payloadSize.toNat) = rest := by
        rw [sent, ← List.append_assoc]
        exact List.drop_left' (by rw [List.length_append, width, payload])
      refine ⟨?_, advanced.1.trans left, ?_⟩
      · rw [held, offset, assembled_next positive sendable inside]
      · rw [advanced.2]
        simp [chunkEvents, header]

/-- The chunk loop assembles the frame from its fragments. -/
theorem receiveChunks_fragments (rest : List UInt8) (remaining : Nat) : ∀ (index : Nat)
    {connection : Connection}, index + remaining = (fragmentCount fragmentSize frame).toNat →
    connection.incoming = chunkBytes fragmentSize frame index remaining ++ rest →
    wp (receiveChunks split (frameHeaderFor fragmentSize frame) remaining
        (assembled fragmentSize frame index))
      (fun rawBuffer after => rawBuffer = frame.data ∧ after.incoming = rest ∧
        after.events = connection.events ++ chunkEvents fragmentSize frame index remaining)
      (fun _ _ => False) connection := by
  induction remaining with
  | zero =>
    intro index connection last bytes
    -- the last fragment ends the frame
    have complete : frame.totalBytes.toNat ≤ index * fragmentSize.toNat := by
      rw [← Nat.not_lt, ← lt_fragmentCount positive sendable]
      omega
    refine ⟨?_, by simpa [chunkBytes] using bytes, by simp [chunkEvents]⟩
    rw [assembled, Nat.min_eq_right complete, ← sendable.size.1]
    simp
  | succ remaining ih =>
    intro index connection last bytes
    -- there are chunks left, so this one starts inside the frame
    have inside := (lt_fragmentCount positive sendable index).mp (by omega)
    rw [chunkBytes_succ, List.append_assoc] at bytes
    simp only [receiveChunks, wp_bind]
    apply (receiveChunk_fragment positive sendable inside _ bytes).post
    rintro _ middle ⟨rfl, incoming, events⟩
    apply (ih (index + 1) (by omega) incoming).post
    rintro _ after ⟨rfl, incoming', events'⟩
    refine ⟨rfl, incoming', ?_⟩
    rw [events', events, List.append_assoc]
    simp [chunkEvents, List.range'_succ]

/-- On the bytes of a frame one iteration of the loop stores the frame and stops behind it. -/
theorem receiveFrame_frameBytes {clones : RawFrameHeader → Bool}
    (cloned : clones (frameHeaderFor fragmentSize frame) = true) (rest : List UInt8)
    {connection : Connection}
    (bytes : connection.incoming = frameBytes fragmentSize frame ++ rest) :
    wp (receiveFrame split clones)
      (fun _ after => after.incoming = rest ∧
        after.events = connection.events ++ frameEvents fragmentSize frame)
      (fun _ _ => False) connection := by
  obtain ⟨length, filled, bounded⟩ := sendable.size
  let header := frameHeaderFor fragmentSize frame
  have width : (buildFrameHeader header).length = frameHeaderSize := buildFrameHeader_length header
  rw [frameBytes, List.append_assoc] at bytes
  have taken : parseFrameHeader (connection.incoming.take frameHeaderSize)
      ⟨0, 0, 0, 0, 0, 0, 0, 0⟩ = (true, header) := by
    rw [bytes, List.take_left' width, ← List.append_nil (buildFrameHeader header)]
    exact parseFrameHeader_build header _ []
  refine wp_receiveFrame split (fun _ short _ => ?_) (fun _ _ rejected _ => ?_)
    (fun frameHeader after _ parsed advanced => ?_)
  · rw [bytes, List.length_append, width] at short
    omega
  · simp [taken] at rejected
  · obtain rfl : header = frameHeader := by simpa [taken] using parsed
    refine ⟨fun illegal => ?_, fun _ _ => ?_⟩
    · cases illegal with
      | inl zero =>
        rw [show frame.totalBytes = 0 from zero] at filled
        exact absurd filled (by decide)
      | inr large => exact absurd sendable.bounded (UInt64.not_le.mpr large)
    · have started : List.replicate header.totalBytes.toNat 0 = assembled fragmentSize frame 0 := by
        simp [assembled, length, header, frameHeaderFor]
      have chunks : after.incoming =
          chunkBytes fragmentSize frame 0 (fragmentCount fragmentSize frame).toNat ++ rest := by
        rw [advanced.1, bytes, List.drop_left' width]
      rw [started]
      apply (receiveChunks_fragments positive sendable rest _ 0 (Nat.zero_add _) chunks).post
      rintro _ last ⟨rfl, incoming, events⟩
      refine ⟨fun _ => ⟨incoming, ?_⟩, fun failed => Bool.noConfusion (failed.symm.trans cloned)⟩
      rw [events, advanced.2]
      simp [frameEvents, header]

end Receiving

/-! ## Whole streams -/

/-- What a receiver has to know of a frame. -/
structure Picture where
  frameId : UInt64
  rows : UInt32
  cols : UInt32
  type : UInt32
  elemSize : UInt32
  totalBytes : UInt64
  payload : List UInt8
deriving DecidableEq

def RawFrame.picture (frame : RawFrame) : Picture :=
  ⟨frame.frameId, frame.rows, frame.cols, frame.type, frame.elemSize, frame.totalBytes, frame.data⟩

/-- The frame that `saveRawFile` is called with. -/
def Server.ServerEvent.picture : ServerEvent → Option Picture
  | .save header rawBuffer => some ⟨header.frameId, header.rows, header.cols, header.type,
      header.elemSize, header.totalBytes, rawBuffer⟩
  | _ => none

theorem chunkEvents_picture (fragmentSize : UInt32) (frame : RawFrame) (index count : Nat) :
    (chunkEvents fragmentSize frame index count).filterMap ServerEvent.picture = [] := by
  rw [chunkEvents, List.filterMap_flatMap]
  simp [ServerEvent.picture]

theorem frameEvents_picture (fragmentSize : UInt32) (frame : RawFrame) :
    (frameEvents fragmentSize frame).filterMap ServerEvent.picture = [frame.picture] := by
  rw [frameEvents, List.filterMap_append, chunkEvents_picture]
  rfl

theorem frameEvents_admitted {fragmentSize : UInt32} (positive : 0 < fragmentSize.toNat)
    {frame : RawFrame} (sendable : Sendable frame) {frameHeader : RawFrameHeader}
    {chunkHeader : RawChunkHeader}
    (parsed : .chunk frameHeader chunkHeader ∈ frameEvents fragmentSize frame) :
    Admitted frameHeader chunkHeader := by
  simp only [frameEvents, chunkEvents, List.mem_append, List.mem_flatMap, List.mem_cons,
    reduceCtorEq, List.not_mem_nil, or_false] at parsed
  obtain ⟨index, member, same⟩ := parsed
  obtain ⟨rfl, rfl⟩ := ServerEvent.chunk.inj same
  apply chunkHeaderFor_admitted positive sendable
  rw [← lt_fragmentCount positive sendable]
  simpa using (List.mem_range'_1.mp member).2

theorem frameEvents_reads {fragmentSize : UInt32} {frame : RawFrame}
    (held : HoldsImage (frameHeaderFor fragmentSize frame)) :
    ReadsInBounds cvElemSize (frameEvents fragmentSize frame) := by
  intro frameHeader rawBuffer shown
  simp only [frameEvents, chunkEvents, List.mem_append, List.mem_flatMap, List.mem_cons,
    reduceCtorEq, List.not_mem_nil, or_false, and_false, exists_false, false_or] at shown
  obtain ⟨rfl, rfl⟩ := ServerEvent.view.inj shown
  exact held.reads

section Stream

variable (split : Nat → Nat) {clones : RawFrameHeader → Bool} {fragmentSize : UInt32}
  (positive : 0 < fragmentSize.toNat)

include positive in
/-- The loop before the bytes of some frames and the loop behind them, the frames stored. -/
theorem receiveLoop_frames (frames : List RawFrame)
    (cloned : ∀ frame ∈ frames, clones (frameHeaderFor fragmentSize frame) = true)
    (rest : List UInt8) :
    ∀ (connection : Connection), (∀ frame ∈ frames, Sendable frame) →
    connection.incoming = frames.flatMap (frameBytes fragmentSize) ++ rest →
    ∃ calls, receiveLoop split clones connection = receiveLoop split clones
      ⟨rest, calls, connection.events ++ frames.flatMap (frameEvents fragmentSize)⟩ := by
  induction frames with
  | nil =>
    intro connection _ bytes
    refine ⟨connection.calls, congrArg _ ?_⟩
    cases connection
    simpa using bytes
  | cons frame frames ih =>
    intro connection sendable bytes
    rw [List.flatMap_cons, List.append_assoc] at bytes
    have first : wp (receiveFrame split clones) _ (fun _ _ => False) connection :=
      receiveFrame_frameBytes positive (sendable frame List.mem_cons_self)
        (cloned frame List.mem_cons_self) _ bytes
    cases run : receiveFrame split clones connection with
    | error _ _ => exact (first.error run).elim
    | ok _ after =>
      obtain ⟨incoming, events⟩ := first.ok run
      obtain ⟨calls, later⟩ :=
        ih (fun other member => cloned other (List.mem_cons_of_mem _ member)) after
          (fun other member => sendable other (List.mem_cons_of_mem _ member)) incoming
      refine ⟨calls, ?_⟩
      rw [events, List.append_assoc] at later
      rw [receiveLoop_next split run, List.flatMap_cons, later]

/-- Without bytes the loop is left at the next frame header. -/
theorem receiveLoop_drained (connection : Connection) (drained : connection.incoming = []) :
    ∃ calls, receiveLoop split clones connection =
      .error .disconnected { connection with calls } := by
  have ended : wp (receiveFrame split clones) (fun _ _ => False)
      (fun exit after => exit = .disconnected ∧ connection.Advances after frameHeaderSize [])
      connection := by
    refine wp_receiveFrame split (fun _ _ advanced => ⟨rfl, advanced⟩)
      (fun _ long _ _ => ?_) (fun _ _ long _ _ => ?_)
    · simp [drained, frameHeaderSize] at long
    · simp [drained, frameHeaderSize] at long
  cases run : receiveFrame split clones connection with
  | ok _ _ => exact (ended.ok run).elim
  | error exit after =>
    obtain ⟨rfl, incoming, events⟩ := ended.error run
    refine ⟨after.calls, (receiveLoop_left split run).trans ?_⟩
    cases after
    simp_all

end Stream

/-- What `sendFrame` emits for a sequence of frames, however `send` cuts it, the receive loop
    turns into the same sequence, however `recv` cuts it, if every buffer holds the image that its
    frame declares.  The loop stands exactly behind the emitted bytes: it goes on with any `rest`
    as if nothing had been before. -/
theorem stream_round_trip (env : Environment) (delivers : env.Delivers) (split : Nat → Nat)
    (clones : RawFrameHeader → Bool) (documented : ClonesHeld clones) (requested : UInt32)
    (frames : List RawFrame) (sendable : ∀ frame ∈ frames, Sendable frame)
    (held : ∀ frame ∈ frames, HoldsImage (frameHeaderFor (setFragmentSize requested) frame))
    (net : Net) (live : net.connected = true) :
    ∃ after added events,
      frames.allM (sendFrame env (setFragmentSize requested)) net = .ok true after ∧
      after.history = net.history ++ added ∧
      (∀ rest, ∃ calls,
        receiveLoop split clones { incoming := bytesOn net.connection added ++ rest } =
          receiveLoop split clones { incoming := rest, calls, events }) ∧
      (∃ calls, serve split (bytesOn net.connection added) clones =
        (.disconnected, { incoming := [], calls, events })) ∧
      events.filterMap ServerEvent.picture = frames.map RawFrame.picture ∧
      (∀ frameHeader chunkHeader, .chunk frameHeader chunkHeader ∈ events →
        Admitted frameHeader chunkHeader) ∧
      ReadsInBounds cvElemSize events := by
  -- the sender, then the receiver on what it emitted
  have positive := setFragmentSize_positive requested
  have cloned := fun frame member => documented _ (held frame member)
  have sending := sendFrames_deliver delivers (setFragmentSize requested) frames
    (fun frame member => (sendable frame member).filled) live
  cases run : frames.allM (sendFrame env (setFragmentSize requested)) net with
  | error _ _ => exact (sending.error run).elim
  | ok sent after =>
    obtain ⟨rfl, _, _, added, grown, emitted⟩ := sending.ok run
    have received : ∀ rest, ∃ calls,
        receiveLoop split clones { incoming := bytesOn net.connection added ++ rest } =
          receiveLoop split clones
            ⟨rest, calls, frames.flatMap (frameEvents (setFragmentSize requested))⟩ := by
      intro rest
      simpa using receiveLoop_frames split positive frames cloned rest
        ⟨bytesOn net.connection added ++ rest, 0, []⟩ sendable (by rw [emitted])
    refine ⟨after, added, _, rfl, grown, received, ?_, ?_, ?_, ?_⟩
    · obtain ⟨calls, whole⟩ := received []
      obtain ⟨last, ended⟩ := @receiveLoop_drained split clones
        ⟨[], calls, frames.flatMap (frameEvents (setFragmentSize requested))⟩ rfl
      rw [List.append_nil] at whole
      exact ⟨last, by rw [serve, whole, ended]⟩
    · rw [List.filterMap_flatMap, List.map_eq_flatMap]
      simp only [frameEvents_picture]
    · intro frameHeader chunkHeader parsed
      obtain ⟨frame, member, inFrame⟩ := List.mem_flatMap.mp parsed
      exact frameEvents_admitted positive (sendable frame member) inFrame
    · intro frameHeader rawBuffer shown
      obtain ⟨frame, member, inFrame⟩ := List.mem_flatMap.mp shown
      exact frameEvents_reads (held frame member) frameHeader rawBuffer inFrame

/-- `send` takes five bytes at a time. -/
def trickling : Environment where
  dies _ := false
  stores _ := []
  connect _ := true
  send _ _ _ := 5
  recv _ _ := []
  disk _ := .none

def grayRow : RawFrame where
  frameId := 3
  rows := 1
  cols := 1500
  type := 0
  elemSize := 1
  totalBytes := 1500
  buffer := some (List.replicate 1500 0x80)
  sized := by decide +kernel

def whitePixel : RawFrame where
  frameId := 9
  rows := 1
  cols := 1
  type := 0
  elemSize := 1
  totalBytes := 1
  buffer := some [0xFF]
  sized := by decide

/-- OpenCV, where nothing is cloned but what a buffer holds. -/
def clonesHeld (frameHeader : RawFrameHeader) : Bool := decide (HoldsImage frameHeader)

/-- A frame of two fragments and one of a single byte, received seven bytes at a time. -/
theorem stream_round_trip_trickling :
    ∃ after added events,
      [grayRow, whitePixel].allM (sendFrame trickling (setFragmentSize 100))
        { connected := true, connection := 1 } = .ok true after ∧
      after.history = added ∧
      (∃ calls, serve (fun _ => 7) (bytesOn 1 added) clonesHeld =
        (.disconnected, { incoming := [], calls, events })) ∧
      events.filterMap ServerEvent.picture = [grayRow.picture, whitePixel.picture] := by
  obtain ⟨after, added, events, run, grown, _, served, pictures, _⟩ :=
    stream_round_trip trickling ⟨fun _ => rfl, fun _ _ _ _ => Nat.succ_pos 4⟩ (fun _ => 7)
      clonesHeld (fun _ => decide_eq_true) 100 [grayRow, whitePixel]
      (by
        intro frame member
        rcases List.mem_pair.mp member with rfl | rfl
        · exact ⟨rfl, by decide⟩
        · exact ⟨rfl, by decide⟩)
      (by
        intro frame member
        rcases List.mem_pair.mp member with rfl | rfl
        · decide
        · decide)
      { connected := true, connection := 1 } rfl
  exact ⟨after, added, events, run, grown, served, pictures⟩

/-- A frame of one byte that declares two pixels. -/
def narrowRow : RawFrame where
  frameId := 7
  rows := 1
  cols := 2
  type := 0
  elemSize := 1
  totalBytes := 1
  buffer := some [0x80]
  sized := by decide

/-- The clone of its image ends the loop, and the frame behind it is not received. -/
theorem narrowRow_ends_loop :
    ¬ ∀ frames : List RawFrame, (∀ frame ∈ frames, Sendable frame) →
      ∃ after added events,
        frames.allM (sendFrame trickling (setFragmentSize 1024))
          { connected := true, connection := 1 } = .ok true after ∧
        after.history = added ∧
        (∃ calls, serve (fun _ => 7) (bytesOn 1 added) clonesHeld =
          (.disconnected, { incoming := [], calls, events })) ∧
        events.filterMap ServerEvent.picture = frames.map RawFrame.picture := by
  intro received
  have sendable : ∀ frame ∈ [narrowRow, whitePixel], Sendable frame := by
    intro frame member
    rcases List.mem_pair.mp member with rfl | rfl
    · exact ⟨rfl, by decide⟩
    · exact ⟨rfl, by decide⟩
  obtain ⟨after, added, events, run, grown, ⟨calls, served⟩, _⟩ := received _ sendable
  have delivers : trickling.Delivers := ⟨fun _ => rfl, fun _ _ _ _ => Nat.succ_pos 4⟩
  have sending := @sendFrames_deliver trickling delivers (setFragmentSize 1024)
    [narrowRow, whitePixel] { connected := true, connection := 1 }
    (fun frame member => (sendable frame member).filled) rfl
  obtain ⟨_, _, _, added', grown', emitted⟩ := sending.ok run
  obtain rfl : added = added' := grown.symm.trans grown'
  have ends : (serve (fun _ => 7) ([narrowRow, whitePixel].flatMap
      (frameBytes (setFragmentSize 1024))) clonesHeld).1 = .viewFailed := by
    decide +kernel
  rw [← emitted, served] at ends
  cases ends

end PictureReconstruct
