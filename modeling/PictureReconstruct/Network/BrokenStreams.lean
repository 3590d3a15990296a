import PictureReconstruct.Network.ResumeReconciliation

/-! # Streams that break off

A connection may break, or the process die, behind any byte of any packet.

* `Partial`, `BrokenOff`: a part of some bytes went out, and of the bytes of some frames.
* `Breaks`: all of the bytes go out or a part of them; `Breaks.bind` is the rule for a sequence.
* `sendFrames_break`: however a sequence of frames is sent, it goes out whole or breaks off.
* `receiveFrame_part`: on a part of a frame the receive loop stores nothing.
* `broken_stream`: of the bytes that went out any number arrives; the server stores the frames
  whose last byte arrived, and no others.
-/

namespace PictureReconstruct

open Library.Bytes Library.Procedure TcpClient RawFrameSender RawFrameProtocol Server

/-! ## Sending -/

/-- A part of the bytes went out, and not all of them. -/
def Partial (whole : List UInt8) (before after : Net) : Prop :=
  ∃ part, Carries part [] before after ∧ part <+: whole ∧ part.length < whole.length

/-- `send` sends all of the bytes, for these frames, or it ends behind a part of them. -/
def Breaks (send : EStateM Abort Net Bool) (bytes : List UInt8) (frames : List RawFrame)
    (net : Net) : Prop :=
  wp send
    (fun sent after => if sent then Carries bytes frames net after else Partial bytes net after)
    (fun _ after => Partial bytes net after) net

/-- Some frames went out, and a part of the one behind them. -/
def BrokenOff (fragmentSize : UInt32) (frames : List RawFrame) (before after : Net) : Prop :=
  ∃ complete next later part, frames = complete ++ next :: later ∧
    Carries (complete.flatMap (frameBytes fragmentSize) ++ part) complete before after ∧
    part <+: frameBytes fragmentSize next ∧ part.length < (frameBytes fragmentSize next).length

section Sending

variable {env : Environment} {fragmentSize : UInt32} {frame : RawFrame} {frames : List RawFrame}
  {net before middle after : Net} {first rest : List UInt8}

theorem Partial.front (partly : Partial first before after) :
    Partial (first ++ rest) before after := by
  obtain ⟨part, carries, begins, shorter⟩ := partly
  refine ⟨part, carries, begins.trans (List.prefix_append _ _), ?_⟩
  rw [List.length_append]
  omega

theorem Partial.behind (carries : Carries first [] before middle)
    (partly : Partial rest middle after) : Partial (first ++ rest) before after := by
  obtain ⟨part, more, begins, shorter⟩ := partly
  refine ⟨first ++ part, carries.trans more, List.prefix_append_right_inj first |>.mpr begins, ?_⟩
  rw [List.length_append, List.length_append]
  omega

/-- One after the other, where a failure of the first is the last. -/
theorem Breaks.bind {send : EStateM Abort Net Bool} {rest : Bool → EStateM Abort Net Bool}
    {bytes bytes' : List UInt8} (begins : Breaks send bytes [] net)
    (stops : rest false = pure false)
    (goes_on : ∀ middle, Breaks (rest true) bytes' frames middle) :
    Breaks (send >>= rest) (bytes ++ bytes') frames net := by
  rw [Breaks, wp_bind]
  refine wp.mono begins (fun sent middle first => ?_) (fun _ _ partly => partly.front)
  cases sent with
  | false =>
    rw [stops]
    exact Partial.front first
  | true =>
    refine wp.mono (goes_on middle) (fun sent after second => ?_)
      (fun _ _ partly => partly.behind first)
    cases sent with
    | false => exact Partial.behind first second
    | true => exact Carries.trans first second

theorem sendAll_breaks (packet : Packet) (nonempty : packet.bytes ≠ []) :
    Breaks (sendAll env packet) packet.bytes [] net := by
  have positive := List.length_pos_iff.mpr nonempty
  refine wp_sendAll env (fun _ => ?_) (fun after _ ticks _ => ?_)
    (fun after accepted _ ticks short _ => ?_) (fun after _ ticks _ => ?_)
  · exact ⟨[], .refl net, List.nil_prefix, positive⟩
  · exact ⟨[], .of_ticks ticks, List.nil_prefix, positive⟩
  · obtain ⟨connection, added, grown, sent, whole⟩ := Carries.of_ticks ticks
    refine ⟨packet.bytes.take accepted,
      ⟨connection, added ++ [.sent net.connection packet accepted], ?_, ?_, ?_⟩,
      List.take_prefix _ _, ?_⟩
    · simp only [Net.record, grown, List.append_assoc]
    · rw [bytesOn_append, sent]
      simp [bytesOn, Event.bytesOn]
    · rw [framesSent_append, whole]
      rfl
    · rw [List.length_take]
      omega
  · have carried := (Carries.of_ticks ticks).trans (.sent after packet)
    rwa [ticks.connection] at carried

theorem sendFragment_breaks (positive : 0 < fragmentSize.toNat) (sendable : Sendable frame)
    {index : Nat} (inside : index * fragmentSize.toNat < frame.totalBytes.toNat) :
    Breaks (sendFragment env fragmentSize frame index) (chunkBytes fragmentSize frame index 1) []
      net := by
  have bytes : chunkBytes fragmentSize frame index 1 =
      (Packet.chunkHeader (chunkHeaderFor fragmentSize frame (UInt32.ofNat index))).bytes ++
        (Packet.payload (payloadFor fragmentSize frame (UInt32.ofNat index))).bytes := by
    simp [chunkBytes, fragmentPackets]
  have header : (Packet.chunkHeader
      (chunkHeaderFor fragmentSize frame (UInt32.ofNat index))).bytes ≠ [] := by
    refine List.ne_nil_of_length_pos ?_
    rw [Packet.bytes, buildChunkHeader_length]
    decide
  have payload : (Packet.payload (payloadFor fragmentSize frame (UInt32.ofNat index))).bytes ≠
      [] := by
    obtain ⟨length, _, _⟩ := sendable.size
    refine List.ne_nil_of_length_pos ?_
    rw [Packet.bytes, payloadFor_eq positive sendable inside, slice_length (by omega)]
    omega
  rw [bytes]
  exact (sendAll_breaks _ header).bind rfl fun _ => sendAll_breaks _ payload

theorem sendFragments_break (positive : 0 < fragmentSize.toNat) (sendable : Sendable frame)
    (count : Nat) : ∀ (index : Nat) (net : Net),
    index + count = (fragmentCount fragmentSize frame).toNat →
    Breaks ((List.range' index count).allM (sendFragment env fragmentSize frame))
      (chunkBytes fragmentSize frame index count) [] net := by
  induction count with
  | zero => exact fun _ net _ => Carries.refl net
  | succ count ih =>
    intro index net last
    have inside := (lt_fragmentCount positive sendable index).mp (by omega)
    rw [chunkBytes_succ, List.range'_succ]
    exact (sendFragment_breaks positive sendable inside).bind rfl fun middle =>
      ih (index + 1) middle (by omega)

/-- However a frame is sent: it goes out whole and is recorded, or a part of it goes out. -/
theorem sendFrame_breaks (positive : 0 < fragmentSize.toNat) (sendable : Sendable frame) :
    Breaks (sendFrame env fragmentSize frame) (frameBytes fragmentSize frame) [frame] net := by
  have pixels : (frame.totalBytes == 0) = false := by
    have filled := sendable.filled
    simp only [RawFrame.empty, Bool.or_eq_false_iff] at filled
    exact filled.2
  have header : (Packet.frameHeader (frameHeaderFor fragmentSize frame)).bytes ≠ [] := by
    refine List.ne_nil_of_length_pos ?_
    rw [Packet.bytes, buildFrameHeader_length]
    decide
  have bytes : frameBytes fragmentSize frame =
      (Packet.frameHeader (frameHeaderFor fragmentSize frame)).bytes ++
        (chunkBytes fragmentSize frame 0 (fragmentCount fragmentSize frame).toNat ++ []) := by
    rw [List.append_nil]
    rfl
  simp only [sendFrame, sendable.filled, pixels, Bool.false_eq_true, if_false, List.range_eq_range']
  rw [bytes]
  refine (sendAll_breaks _ header).bind rfl fun middle => ?_
  refine (sendFragments_break positive sendable _ 0 middle (Nat.zero_add _)).bind rfl fun last => ?_
  -- the frame is recorded behind its last byte
  exact ⟨rfl, [.frameSent last.connection frame], rfl, rfl, rfl⟩

/-- However a sequence of frames is sent: it goes out whole, or breaks off in one of them. -/
theorem sendFrames_break (positive : 0 < fragmentSize.toNat) (frames : List RawFrame) :
    ∀ net : Net, (∀ frame ∈ frames, Sendable frame) →
    wp (frames.allM (sendFrame env fragmentSize))
      (fun sent after =>
        if sent then Carries (frames.flatMap (frameBytes fragmentSize)) frames net after
        else BrokenOff fragmentSize frames net after)
      (fun _ after => BrokenOff fragmentSize frames net after) net := by
  induction frames with
  | nil => exact fun net _ => Carries.refl net
  | cons frame frames ih =>
    intro net sendable
    have here : ∀ after, Partial (frameBytes fragmentSize frame) net after →
        BrokenOff fragmentSize (frame :: frames) net after := by
      rintro after ⟨part, carries, begins, shorter⟩
      exact ⟨[], frame, frames, part, rfl, carries, begins, shorter⟩
    have later : ∀ middle after, Carries (frameBytes fragmentSize frame) [frame] net middle →
        BrokenOff fragmentSize frames middle after →
        BrokenOff fragmentSize (frame :: frames) net after := by
      rintro middle after first ⟨complete, next, rest, part, split, carries, begins, shorter⟩
      refine ⟨frame :: complete, next, rest, part, by rw [split, List.cons_append], ?_, begins,
        shorter⟩
      rw [List.flatMap_cons, List.append_assoc]
      exact first.trans carries
    simp only [List.allM, wp_bind]
    refine (sendFrame_breaks positive (sendable frame List.mem_cons_self)).mono
      (fun sent middle first => ?_) (fun _ after partly => here after partly)
    cases sent with
    | false => exact here middle first
    | true =>
      refine (ih middle fun other member => sendable other (List.mem_cons_of_mem _ member)).mono
        (fun sent after rest => ?_) (fun _ after broken => later middle after first broken)
      cases sent with
      | false => exact later middle after first rest
      | true => exact Carries.trans first rest

end Sending

/-! ## Receiving -/

/-- No frame was stored in between. -/
def StoresNothing (before after : Connection) : Prop :=
  ∃ added, after.events = before.events ++ added ∧ added.filterMap ServerEvent.picture = []

/-- The exits of the receive loop when the peer is gone. -/
def PeerGone (exit : ServerExit) : Prop :=
  exit = .disconnected ∨ exit = .chunkHeaderLost ∨ exit = .payloadLost

section Receiving

variable {split : Nat → Nat} {clones : RawFrameHeader → Bool} {fragmentSize : UInt32}
  {frame : RawFrame} {part : List UInt8} {connection before middle after : Connection}

theorem StoresNothing.trans (first : StoresNothing before middle)
    (second : StoresNothing middle after) : StoresNothing before after := by
  obtain ⟨added, grown, nothing⟩ := first
  obtain ⟨added', grown', nothing'⟩ := second
  refine ⟨added ++ added', by rw [grown', grown, List.append_assoc], ?_⟩
  rw [List.filterMap_append, nothing, nothing', List.append_nil]

/-- A part that is long enough begins like the whole. -/
theorem take_of_part {whole first rest : List UInt8} (same : whole = first ++ rest)
    (begins : part <+: whole) (long : first.length ≤ part.length) :
    part.take first.length = first := by
  have front : first <+: part :=
    List.prefix_of_prefix_length_le (same ▸ List.prefix_append _ _) begins long
  exact (List.prefix_iff_eq_take.mp front).symm

variable (positive : 0 < fragmentSize.toNat) (sendable : Sendable frame)

include positive sendable

/-- The payload is as long as its header says. -/
theorem payloadFor_length {index : Nat}
    (inside : index * fragmentSize.toNat < frame.totalBytes.toNat) :
    (payloadFor fragmentSize frame (UInt32.ofNat index)).length =
      (chunkHeaderFor fragmentSize frame (UInt32.ofNat index)).payloadSize.toNat := by
  obtain ⟨length, _, _⟩ := sendable.size
  rw [payloadFor_eq positive sendable inside,
    (chunkHeaderFor_fields positive sendable inside).2]
  exact slice_length (by omega)

theorem receiveChunk_part {index : Nat}
    (inside : index * fragmentSize.toNat < frame.totalBytes.toNat)
    (begins : connection.incoming <+: chunkBytes fragmentSize frame index 1)
    (shorter : connection.incoming.length < (chunkBytes fragmentSize frame index 1).length) :
    wp (receiveChunk split (frameHeaderFor fragmentSize frame)
        (assembled fragmentSize frame index))
      (fun _ _ => False) (fun exit after => PeerGone exit ∧ StoresNothing connection after)
      connection := by
  let header := chunkHeaderFor fragmentSize frame (UInt32.ofNat index)
  have bytes : chunkBytes fragmentSize frame index 1 =
      buildChunkHeader header ++ payloadFor fragmentSize frame (UInt32.ofNat index) := by
    simp [chunkBytes, fragmentPackets, Packet.bytes, header]
  have width : (buildChunkHeader header).length = chunkHeaderSize := buildChunkHeader_length header
  obtain ⟨offset, payloadSize⟩ := chunkHeaderFor_fields positive sendable inside
  have payload : (payloadFor fragmentSize frame (UInt32.ofNat index)).length =
      header.payloadSize.toNat := payloadFor_length positive sendable inside
  rw [bytes, List.length_append, width, payload] at shorter
  have taken : chunkHeaderSize ≤ connection.incoming.length →
      parseChunkHeader (connection.incoming.take chunkHeaderSize) ⟨0, 0, 0, 0⟩ =
        (true, header) := by
    intro long
    have front := take_of_part bytes begins (by rw [width]; exact long)
    rw [width] at front
    rw [front, ← List.append_nil (buildChunkHeader header)]
    exact parseChunkHeader_build header _ []
  refine wp_receiveChunk split (fun after _ advanced => ?_) (fun after long rejected _ => ?_)
    (fun chunkHeader long parsed => ?_)
  · exact ⟨.inr (.inl rfl), [], advanced.2, rfl⟩
  · rw [taken long] at rejected
    cases rejected
  -- the header is whole, so the part ends in the payload
  · obtain rfl : header = chunkHeader := by simpa [taken long] using parsed
    refine ⟨fun _ refused _ => ?_, fun _ _ outside _ => ?_, fun after _ _ advanced =>
      ⟨fun _ => ?_, fun whole => ?_⟩⟩
    · exact refused (chunkHeaderFor_admitted positive sendable inside)
    · rw [offset, payloadSize, assembled_length sendable] at outside
      omega
    · exact ⟨.inr (.inr rfl), _, advanced.2, rfl⟩
    · omega

/-- On a part of the fragments the chunk loop loses the connection. -/
theorem receiveChunks_part (remaining : Nat) : ∀ (index : Nat) (connection : Connection),
    index + remaining = (fragmentCount fragmentSize frame).toNat →
    connection.incoming <+: chunkBytes fragmentSize frame index remaining →
    connection.incoming.length < (chunkBytes fragmentSize frame index remaining).length →
    wp (receiveChunks split (frameHeaderFor fragmentSize frame) remaining
        (assembled fragmentSize frame index))
      (fun _ _ => False) (fun exit after => PeerGone exit ∧ StoresNothing connection after)
      connection := by
  induction remaining with
  | zero => exact fun _ _ _ _ shorter => absurd shorter (Nat.not_lt_zero _)
  | succ remaining ih =>
    intro index connection last begins shorter
    have inside := (lt_fragmentCount positive sendable index).mp (by omega)
    rw [chunkBytes_succ] at begins shorter
    simp only [receiveChunks, wp_bind]
    by_cases whole : (chunkBytes fragmentSize frame index 1).length ≤ connection.incoming.length
    · -- the first chunk is there
      have front : chunkBytes fragmentSize frame index 1 <+: connection.incoming :=
        List.prefix_of_prefix_length_le (List.prefix_append _ _) begins whole
      obtain ⟨rest, same⟩ := front
      rw [← same] at begins shorter
      rw [List.prefix_append_right_inj] at begins
      rw [List.length_append, List.length_append] at shorter
      refine (receiveChunk_fragment positive sendable inside rest same.symm).mono ?_
        (fun _ _ never => never.elim)
      rintro _ middle ⟨rfl, incoming, events⟩
      refine (ih (index + 1) middle (by omega) (incoming ▸ begins)
        (by rw [incoming]; omega)).mono (fun _ _ never => never) ?_
      rintro exit after ⟨gone, nothing⟩
      exact ⟨gone, StoresNothing.trans ⟨_, events, chunkEvents_picture ..⟩ nothing⟩
    · have front : connection.incoming <+: chunkBytes fragmentSize frame index 1 :=
        List.prefix_of_prefix_length_le begins (List.prefix_append _ _) (by omega)
      exact (receiveChunk_part positive sendable inside front (by omega)).mono
        (fun _ _ never => never.elim) (fun _ _ lost => lost)

/-- On a part of a frame an iteration of the loop stores nothing and leaves the loop. -/
theorem receiveFrame_part (begins : connection.incoming <+: frameBytes fragmentSize frame)
    (shorter : connection.incoming.length < (frameBytes fragmentSize frame).length) :
    wp (receiveFrame split clones) (fun _ _ => False)
      (fun exit after => PeerGone exit ∧ StoresNothing connection after) connection := by
  obtain ⟨length, filled, bounded⟩ := sendable.size
  let header := frameHeaderFor fragmentSize frame
  have width : (buildFrameHeader header).length = frameHeaderSize := buildFrameHeader_length header
  have taken : frameHeaderSize ≤ connection.incoming.length →
      parseFrameHeader (connection.incoming.take frameHeaderSize) ⟨0, 0, 0, 0, 0, 0, 0, 0⟩ =
        (true, header) := by
    intro long
    have front := take_of_part rfl begins (by rw [width]; exact long)
    rw [width] at front
    rw [front, ← List.append_nil (buildFrameHeader header)]
    exact parseFrameHeader_build header _ []
  refine wp_receiveFrame split (fun after _ advanced => ?_) (fun after long rejected _ => ?_)
    (fun frameHeader after long parsed advanced => ?_)
  · exact ⟨.inl rfl, [], advanced.2, rfl⟩
  · rw [taken long] at rejected
    cases rejected
  · obtain rfl : header = frameHeader := by simpa [taken long] using parsed
    refine ⟨fun illegal => ?_, fun _ _ => ?_⟩
    · -- neither 0 nor more than 200 MiB
      cases illegal with
      | inl zero =>
        rw [show frame.totalBytes = 0 from zero] at filled
        exact absurd filled (by decide)
      | inr large => exact absurd sendable.bounded (UInt64.not_le.mpr large)
    · -- the header is whole, so the part ends in the chunks
      have started : List.replicate header.totalBytes.toNat 0 = assembled fragmentSize frame 0 := by
        simp [assembled, length, header, frameHeaderFor]
      obtain ⟨missing, whole⟩ := begins
      rw [frameBytes, ← List.take_append_drop frameHeaderSize connection.incoming,
        List.append_assoc] at whole
      have front : (connection.incoming.take frameHeaderSize).length =
          (buildFrameHeader header).length := by
        rw [width, List.length_take, Nat.min_eq_left long]
      obtain ⟨_, rest⟩ := List.append_inj whole front
      have behind : after.incoming <+:
          chunkBytes fragmentSize frame 0 (fragmentCount fragmentSize frame).toNat :=
        ⟨missing, by rw [advanced.1, rest]⟩
      have less : after.incoming.length <
          (chunkBytes fragmentSize frame 0 (fragmentCount fragmentSize frame).toNat).length := by
        rw [frameBytes, List.length_append, width] at shorter
        rw [advanced.1, List.length_drop]
        omega
      rw [started]
      refine (receiveChunks_part positive sendable _ 0 after (Nat.zero_add _) behind less).mono
        (fun _ _ never => never.elim) ?_
      rintro exit last ⟨gone, nothing⟩
      exact ⟨gone, StoresNothing.trans ⟨[], advanced.2, rfl⟩ nothing⟩

end Receiving

/-! ## From the sender to the files of the server -/

/-- The frames whose last byte is among the first `arrived` bytes of a stream. -/
def wholeFrames (fragmentSize : UInt32) : List RawFrame → Nat → List RawFrame
  | [], _ => []
  | frame :: frames, arrived =>
    if (frameBytes fragmentSize frame).length ≤ arrived then
      frame :: wholeFrames fragmentSize frames (arrived - (frameBytes fragmentSize frame).length)
    else []

/-- What the server makes of the bytes that went out in between on the current connection, of
    which the first `arrived` reach it: it stores the frames whose last byte is one of these, and
    leaves its loop because the peer is gone. -/
def StoredAsArrived (split : Nat → Nat) (clones : RawFrameHeader → Bool) (fragmentSize : UInt32)
    (frames : List RawFrame) (before after : Net) : Prop :=
  ∃ added, after.history = before.history ++ added ∧
    framesSent added =
      wholeFrames fragmentSize frames (bytesOn before.connection added).length ∧
    ∀ arrived ≤ (bytesOn before.connection added).length,
      PeerGone (serve split ((bytesOn before.connection added).take arrived) clones).1 ∧
      (serve split ((bytesOn before.connection added).take arrived) clones).2.events.filterMap
        ServerEvent.picture = (wholeFrames fragmentSize frames arrived).map RawFrame.picture

section Serving

variable {split : Nat → Nat} {clones : RawFrameHeader → Bool} {fragmentSize : UInt32}
  {frames : List RawFrame} {before after : Net}

theorem frameEvents_pictures (fragmentSize : UInt32) (frames : List RawFrame) :
    (frames.flatMap (frameEvents fragmentSize)).filterMap ServerEvent.picture =
      frames.map RawFrame.picture := by
  rw [List.filterMap_flatMap, List.map_eq_flatMap]
  simp only [frameEvents_picture]

/-- What the server stores of some frames and a part of another one. -/
theorem serve_part (positive : 0 < fragmentSize.toNat)
    (sendable : ∀ frame ∈ frames, Sendable frame)
    (cloned : ∀ frame ∈ frames, clones (frameHeaderFor fragmentSize frame) = true)
    {next : RawFrame} (last : Sendable next)
    {part : List UInt8} (begins : part <+: frameBytes fragmentSize next)
    (shorter : part.length < (frameBytes fragmentSize next).length) :
    PeerGone (serve split (frames.flatMap (frameBytes fragmentSize) ++ part) clones).1 ∧
    (serve split (frames.flatMap (frameBytes fragmentSize) ++ part) clones).2.events.filterMap
      ServerEvent.picture = frames.map RawFrame.picture := by
  obtain ⟨calls, behind⟩ := receiveLoop_frames split positive frames cloned part
    { incoming := frames.flatMap (frameBytes fragmentSize) ++ part } sendable rfl
  have broken : wp (receiveFrame split clones) (fun _ _ => False) _
      ⟨part, calls, [] ++ frames.flatMap (frameEvents fragmentSize)⟩ :=
    receiveFrame_part positive last begins shorter
  cases run : receiveFrame split clones
      ⟨part, calls, [] ++ frames.flatMap (frameEvents fragmentSize)⟩ with
  | ok _ _ => exact (broken.ok run).elim
  | error exit final =>
    obtain ⟨gone, added, grown, nothing⟩ := broken.error run
    have left := behind.trans (receiveLoop_left split run)
    simp only [serve, left]
    refine ⟨gone, ?_⟩
    rw [grown, List.nil_append, List.filterMap_append, nothing, List.append_nil,
      frameEvents_pictures]

/-- What the server stores of some frames and nothing behind them. -/
theorem serve_whole (positive : 0 < fragmentSize.toNat)
    (sendable : ∀ frame ∈ frames, Sendable frame)
    (cloned : ∀ frame ∈ frames, clones (frameHeaderFor fragmentSize frame) = true) :
    PeerGone (serve split (frames.flatMap (frameBytes fragmentSize)) clones).1 ∧
    (serve split (frames.flatMap (frameBytes fragmentSize)) clones).2.events.filterMap
      ServerEvent.picture = frames.map RawFrame.picture := by
  obtain ⟨calls, behind⟩ := receiveLoop_frames split positive frames cloned []
    { incoming := frames.flatMap (frameBytes fragmentSize) } sendable (List.append_nil _).symm
  obtain ⟨calls', ended⟩ := @receiveLoop_drained split clones
    ⟨[], calls, [] ++ frames.flatMap (frameEvents fragmentSize)⟩ rfl
  simp only [serve, behind, ended]
  exact ⟨.inl rfl, by rw [List.nil_append, frameEvents_pictures]⟩

/-- The first bytes of a stream are those of its whole frames and a part of the next one. -/
theorem take_frameBytes (frames : List RawFrame) (arrived : Nat) :
    ∃ later, frames = wholeFrames fragmentSize frames arrived ++ later ∧
      ((later = [] ∧ (frames.flatMap (frameBytes fragmentSize)).take arrived =
          (wholeFrames fragmentSize frames arrived).flatMap (frameBytes fragmentSize)) ∨
        ∃ next rest part, later = next :: rest ∧
          (frames.flatMap (frameBytes fragmentSize)).take arrived =
            (wholeFrames fragmentSize frames arrived).flatMap (frameBytes fragmentSize) ++ part ∧
          part <+: frameBytes fragmentSize next ∧
          part.length < (frameBytes fragmentSize next).length) := by
  induction frames generalizing arrived with
  | nil => exact ⟨[], rfl, .inl ⟨rfl, List.take_nil⟩⟩
  | cons frame frames ih =>
    rw [List.flatMap_cons, List.take_append, wholeFrames]
    -- the first frame arrives in whole, or the stream ends in it
    split
    · next whole =>
      obtain ⟨later, split, cases⟩ := ih (arrived - (frameBytes fragmentSize frame).length)
      refine ⟨later, by rw [List.cons_append, ← split], ?_⟩
      rw [List.take_of_length_le whole, List.flatMap_cons]
      rcases cases with ⟨rfl, same⟩ | ⟨next, rest, part, rfl, same, begins, shorter⟩
      · exact .inl ⟨rfl, by rw [same]⟩
      · exact .inr ⟨next, rest, part, rfl, by rw [same, List.append_assoc], begins, shorter⟩
    · next cut =>
      have part : ((frameBytes fragmentSize frame).take arrived).length <
          (frameBytes fragmentSize frame).length := by
        rw [List.length_take]
        omega
      refine ⟨frame :: frames, rfl, .inr ⟨frame, frames, (frameBytes fragmentSize frame).take
        arrived, rfl, ?_, List.take_prefix _ _, part⟩⟩
      rw [Nat.sub_eq_zero_of_le (Nat.le_of_not_le cut), List.take_zero, List.append_nil]
      rfl

/-- The frames of a whole stream, and of one that breaks off, are those with their last byte. -/
theorem wholeFrames_front {complete later : List RawFrame} {part : List UInt8}
    (ends : later = [] ∧ part = [] ∨ ∃ next rest, later = next :: rest ∧
      part.length < (frameBytes fragmentSize next).length) :
    wholeFrames fragmentSize (complete ++ later)
      (complete.flatMap (frameBytes fragmentSize) ++ part).length = complete := by
  induction complete with
  | nil =>
    rcases ends with ⟨rfl, rfl⟩ | ⟨next, rest, rfl, shorter⟩
    · rfl
    · rw [List.flatMap_nil, List.nil_append, List.nil_append, wholeFrames,
        if_neg (Nat.not_le.mpr shorter)]
  | cons frame complete ih =>
    rw [List.flatMap_cons, List.append_assoc, List.length_append, List.cons_append, wholeFrames,
      if_pos (Nat.le_add_right _ _), Nat.add_sub_cancel_left, ih]

/-- However many of the bytes arrive, once they are the first of the stream. -/
theorem StoredAsArrived.of_beginning (positive : 0 < fragmentSize.toNat)
    (sendable : ∀ frame ∈ frames, Sendable frame)
    (cloned : ∀ frame ∈ frames, clones (frameHeaderFor fragmentSize frame) = true)
    {added : List Event} (grown : after.history = before.history ++ added)
    (begins : bytesOn before.connection added <+: frames.flatMap (frameBytes fragmentSize))
    (sent : framesSent added =
      wholeFrames fragmentSize frames (bytesOn before.connection added).length) :
    StoredAsArrived split clones fragmentSize frames before after := by
  refine ⟨added, grown, sent, fun arrived bound => ?_⟩
  -- what arrives is a front of the whole stream, whatever `send` still had to do
  have front : (bytesOn before.connection added).take arrived =
      (frames.flatMap (frameBytes fragmentSize)).take arrived := by
    obtain ⟨missing, whole⟩ := begins
    rw [← whole, List.take_append_of_le_length bound]
  obtain ⟨later, split', cases⟩ := @take_frameBytes fragmentSize frames arrived
  have early : ∀ frame ∈ wholeFrames fragmentSize frames arrived, frame ∈ frames := by
    intro frame member
    rw [split']
    exact List.mem_append_left _ member
  rw [front]
  rcases cases with ⟨_, same⟩ | ⟨next, rest, part, rfl, same, partly, shorter⟩
  · rw [same]
    exact serve_whole positive (fun frame member => sendable frame (early frame member))
      fun frame member => cloned frame (early frame member)
  · rw [same]
    exact serve_part positive (fun frame member => sendable frame (early frame member))
      (fun frame member => cloned frame (early frame member))
      (sendable next (by rw [split']; simp)) partly shorter

theorem StoredAsArrived.of_brokenOff (positive : 0 < fragmentSize.toNat)
    (sendable : ∀ frame ∈ frames, Sendable frame)
    (cloned : ∀ frame ∈ frames, clones (frameHeaderFor fragmentSize frame) = true)
    (broken : BrokenOff fragmentSize frames before after) :
    StoredAsArrived split clones fragmentSize frames before after := by
  obtain ⟨complete, next, later, part, rfl, ⟨_, added, grown, sent, whole⟩, begins, shorter⟩ :=
    broken
  refine .of_beginning positive sendable cloned grown ?_ ?_
  · rw [sent, List.flatMap_append, List.flatMap_cons]
    exact List.prefix_append_right_inj _ |>.mpr (begins.trans (List.prefix_append _ _))
  · rw [sent, whole, wholeFrames_front (.inr ⟨next, later, rfl, shorter⟩)]

theorem StoredAsArrived.of_carries (positive : 0 < fragmentSize.toNat)
    (sendable : ∀ frame ∈ frames, Sendable frame)
    (cloned : ∀ frame ∈ frames, clones (frameHeaderFor fragmentSize frame) = true)
    (carries : Carries (frames.flatMap (frameBytes fragmentSize)) frames before after) :
    StoredAsArrived split clones fragmentSize frames before after := by
  obtain ⟨_, added, grown, sent, whole⟩ := carries
  refine .of_beginning positive sendable cloned grown (by rw [sent]) ?_
  have all := @wholeFrames_front fragmentSize frames [] [] (.inl ⟨rfl, rfl⟩)
  rw [List.append_nil, List.append_nil] at all
  rw [sent, whole, all]

end Serving

/-- Whenever the connection breaks or the process dies, however `send` and `recv` cut the stream,
    and however many of the bytes that `send` took are lost: the server stores the frames whose
    last byte arrived, in their order and with their pixels, nothing of the frame that was on its
    way, and it ends because the peer is gone. -/
theorem broken_stream (env : Environment) (split : Nat → Nat) (clones : RawFrameHeader → Bool)
    (documented : ClonesHeld clones) (requested : UInt32) (frames : List RawFrame)
    (sendable : ∀ frame ∈ frames, Sendable frame)
    (held : ∀ frame ∈ frames, HoldsImage (frameHeaderFor (setFragmentSize requested) frame))
    (net : Net) :
    wp (frames.allM (sendFrame env (setFragmentSize requested)))
      (fun sent after => StoredAsArrived split clones (setFragmentSize requested) frames net after ∧
        (sent = true → ∃ added, after.history = net.history ++ added ∧ framesSent added = frames))
      (fun _ after => StoredAsArrived split clones (setFragmentSize requested) frames net after)
      net := by
  have positive := setFragmentSize_positive requested
  have cloned := fun frame member => documented _ (held frame member)
  refine (sendFrames_break positive frames net sendable).mono (fun sent after result => ?_)
    (fun _ after broken => .of_brokenOff positive sendable cloned broken)
  cases sent with
  | false => exact ⟨.of_brokenOff positive sendable cloned result, Bool.noConfusion⟩
  | true =>
    have stored : StoredAsArrived split clones (setFragmentSize requested) frames net after :=
      .of_carries positive sendable cloned result
    obtain ⟨_, added, grown, _, whole⟩ := result
    exact ⟨stored, fun _ => ⟨added, grown, whole⟩⟩

/-- `send` takes three bytes at a time, and the process dies at its fifth system call. -/
def dying : Environment where
  dies net := decide (5 ≤ net.clock)
  stores _ := []
  connect _ := true
  send _ _ _ := 3
  recv _ _ := []
  disk _ := .none

/-- A frame of one byte, and one that is cut off behind its header. -/
theorem broken_stream_dying :
    wp ([whitePixel, grayRow].allM (sendFrame dying (setFragmentSize 100)))
      (fun sent after => StoredAsArrived (fun _ => 7) clonesHeld (setFragmentSize 100)
          [whitePixel, grayRow] { connected := true, connection := 1 } after ∧
        (sent = true → ∃ added, after.history = [] ++ added ∧
          framesSent added = [whitePixel, grayRow]))
      (fun _ after => StoredAsArrived (fun _ => 7) clonesHeld (setFragmentSize 100)
        [whitePixel, grayRow] { connected := true, connection := 1 } after)
      { connected := true, connection := 1 } :=
  broken_stream dying (fun _ => 7) clonesHeld (fun _ => decide_eq_true) 100 [whitePixel, grayRow]
    (by
      intro frame member
      rcases List.mem_pair.mp member with rfl | rfl
      · exact ⟨rfl, by decide⟩
      · exact ⟨rfl, by decide⟩)
    (by
      intro frame member
      rcases List.mem_pair.mp member with rfl | rfl
      · decide
      · decide)
    { connected := true, connection := 1 }

end PictureReconstruct
