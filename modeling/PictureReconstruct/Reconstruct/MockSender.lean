import PictureReconstruct.Reconstruct.Producer

/-! # The stream from the sender to the reconstruction

The thread of `mock_sender.py` that reads the frames and builds what is sent, in front of the
producer of `main.cpp`.

* `diskReaderWorker_spec`: the payloads are packets of the receiver.
* `mock_sender_received`: they arrive, and of a truncated stream those that are complete.
-/

namespace PictureReconstruct.Reconstruct.MockSender

open Library.Bytes Library.Streams Producer

/-- A position of the scan with what is in the file of its frame, if there is one. -/
structure Frame where
  frameId : Int
  stageX : UInt64
  stageY : UInt64
  file : Option (List UInt8)
deriving DecidableEq

/-- `i` of `struct.pack`; `none` for `struct.error`. -/
def packInt (n : Int) : Option (List UInt8) :=
  if -2 ^ 31 ≤ n ∧ n < 2 ^ 31 then some (littleEndian 4 (n % 2 ^ 32).toNat) else none

/-- `d` of `struct.pack`. -/
def packDouble (bits : UInt64) : List UInt8 := littleEndian 8 bits.toNat

/-- `struct.pack('<4siidd', b'CAM1', frame_id, len(image_data), stage_x, stage_y)` -/
def packHeader (frameId : Int) (length : Nat) (stageX stageY : UInt64) : Option (List UInt8) := do
  let frameId ← packInt frameId
  let length ← packInt length
  return magicWord ++ frameId ++ length ++ packDouble stageX ++ packDouble stageY

/-- What was put into the queue. -/
structure Queued where
  payloads : List (List UInt8)
  /-- with the end behind them; an exception ends the thread without it -/
  ended : Bool

/-- `disk_reader_worker`; what is missing is skipped. -/
def diskReaderWorker : List Frame → Queued
  | [] => ⟨[], true⟩
  | frame :: frames =>
    match frame.file with
    | none => diskReaderWorker frames
    | some imageData =>
      match packHeader frame.frameId imageData.length frame.stageX frame.stageY with
      | none => ⟨[], false⟩
      | some header =>
        let rest := diskReaderWorker frames
        { rest with payloads := (header ++ imageData) :: rest.payloads }

/-- The frames that are not missing. -/
def present (frames : List Frame) : List Frame := frames.filter (·.file.isSome)

/-- The numbers of the header are in the range of an `int`. -/
def Fits (frame : Frame) : Prop :=
  -2 ^ 31 ≤ frame.frameId ∧ frame.frameId < 2 ^ 31 ∧
    ∀ imageData ∈ frame.file, imageData.length < 2 ^ 31

/-- What a packet says about the frame. -/
def frameOf (packet : Producer.RawFramePacket) : Frame :=
  ⟨packet.frameId.toInt, packet.stageX, packet.stageY, some packet.imgBuffer⟩

/-! ## Payloads are packets -/

/-- A header of the sender is one of the receiver. -/
theorem packHeader_eq {frameId : Int} {length : Nat} (stageX stageY : UInt64)
    (low : -2 ^ 31 ≤ frameId) (high : frameId < 2 ^ 31) (bound : length < 2 ^ 31) :
    packHeader frameId length stageX stageY =
      some (headerBytes (Int32.ofInt frameId) length stageX stageY) := by
  have word : (Int32.ofInt frameId).toUInt32.toNat = (frameId % 2 ^ 32).toNat :=
    BitVec.toNat_ofInt frameId
  have size : ((length : Int) % 2 ^ 32).toNat = length := by omega
  have id : packInt frameId = some (littleEndian 4 (Int32.ofInt frameId).toUInt32.toNat) := by
    rw [word]
    exact if_pos ⟨low, high⟩
  have len : packInt length = some (littleEndian 4 length) := by
    rw [packInt, size]
    exact if_pos (by omega)
  rw [packHeader, id, len]
  rfl

theorem diskReaderWorker_spec {frames : List Frame} (fits : ∀ frame ∈ frames, Fits frame) :
    ∃ packets : List Producer.RawFramePacket,
      diskReaderWorker frames = ⟨packets.map packetBytes, true⟩ ∧
      (∀ packet ∈ packets, WellFormed packet) ∧ packets.map frameOf = present frames := by
  induction frames with
  | nil => exact ⟨[], rfl, by simp, rfl⟩
  | cons frame frames ih =>
    obtain ⟨⟨low, high, image⟩, later⟩ := List.forall_mem_cons.mp fits
    obtain ⟨packets, sent, good, same⟩ := ih later
    cases read : frame.file with
    | none =>
      refine ⟨packets, ?_, good, ?_⟩
      · rw [diskReaderWorker, read]
        exact sent
      · rw [same, present, present, List.filter_cons_of_neg (by simp [read])]
    | some imageData =>
      have bound := image imageData read
      refine ⟨⟨Int32.ofInt frame.frameId, frame.stageX, frame.stageY, imageData⟩ :: packets,
        ?_, List.forall_mem_cons.mpr ⟨bound, good⟩, ?_⟩
      · rw [diskReaderWorker, read]
        simp only [packHeader_eq frame.stageX frame.stageY low high bound, sent]
        rfl
      · have id : (Int32.ofInt frame.frameId).toInt = frame.frameId :=
          Int32.toInt_ofInt_of_le low high
        rw [List.map_cons, same, present, present, List.filter_cons_of_pos (by simp [read]),
          frameOf, id, ← read]

/-! ## What arrives -/

section Arrival

variable (split : Nat → Nat)

/-- Exactly `frames` are pushed for these bytes, and then the queue is finished. -/
def Arrive (bytes : List UInt8) (frames : List Frame) : Prop :=
  (producerThread split bytes).pushed.map frameOf = frames ∧
    (producerThread split bytes).finished = true

/-- The first `k` payloads are complete in the first `n` bytes, and not one more. -/
def Complete (payloads : List (List UInt8)) (n k : Nat) : Prop :=
  k ≤ payloads.length ∧ (payloads.take k).flatten.length ≤ n ∧
    (k < payloads.length → n < (payloads.take (k + 1)).flatten.length)

variable {split}

/-- The whole packets of a truncated stream arrive. -/
theorem truncated_arrive {packets : List Producer.RawFramePacket}
    (good : ∀ packet ∈ packets, WellFormed packet) (n : Nat) :
    ∃ k, Complete (packets.map packetBytes) n k ∧
      Arrive split ((packets.map packetBytes).flatten.take n) ((packets.map frameOf).take k) := by
  obtain ⟨complete, later, rest, rfl, cut, inside, last, next⟩ :=
    Cut.truncated packetBytes_delimited packetBytes_ne_nil packets good n
  have harmless : ¬ NegativeSize rest := by
    cases later with
    | nil =>
      rw [last rfl]
      rintro ⟨header, -⟩
      exact absurd header (by simp [headerSize])
    | cons packet later =>
      obtain ⟨-, part, -⟩ := next packet rfl
      exact part_not_negative (good packet (by simp)) part
  obtain ⟨pushed, finished⟩ := producerThread_of_cut split cut harmless
  refine ⟨complete.length, ⟨?_, ?_, ?_⟩, ?_, finished⟩
  · simp
  · rw [← List.map_take, List.take_left]
    rwa [← List.flatMap_def]
  · intro more
    cases later with
    | nil => simp at more
    | cons packet later =>
      obtain ⟨beyond, -⟩ := next packet rfl
      have front : (complete ++ packet :: later).take (complete.length + 1) =
          complete ++ [packet] := by
        simp [List.take_append]
      rw [← List.map_take, front, ← List.flatMap_def]
      exact beyond
  · rw [← List.map_take, List.take_left]
    exact congrArg (List.map frameOf) pushed

end Arrival

/-- However the stream is cut into pieces, exactly the frames that were read arrive, in their
    order.  When the stream ends early, exactly those do whose payloads are complete. -/
theorem mock_sender_received (split : Nat → Nat) (frames : List Frame)
    (fits : ∀ frame ∈ frames, Fits frame) :
    (diskReaderWorker frames).ended = true ∧
      Arrive split (diskReaderWorker frames).payloads.flatten (present frames) ∧
      ∀ n, ∃ k, Complete (diskReaderWorker frames).payloads n k ∧
        Arrive split ((diskReaderWorker frames).payloads.flatten.take n)
          ((present frames).take k) := by
  obtain ⟨packets, sent, good, same⟩ := diskReaderWorker_spec fits
  rw [sent, ← same]
  refine ⟨rfl, ?_, truncated_arrive good⟩
  have cut : Cut packetBytes WellFormed (packets.map packetBytes).flatten packets [] := by
    refine ⟨by rw [List.append_nil, List.flatMap_def], good, fun packet _ front => ?_⟩
    exact packetBytes_ne_nil packet (List.prefix_nil.mp front)
  have harmless : ¬ NegativeSize [] := by
    rintro ⟨header, -⟩
    exact absurd header (by simp [headerSize])
  obtain ⟨pushed, finished⟩ := producerThread_of_cut split cut harmless
  exact ⟨congrArg (List.map frameOf) pushed, finished⟩

/-- A frame with a negative number, one that is missing and one without an image. -/
theorem mock_sender_received_three :
    let frames : List Frame := [⟨-1, 0x3FF0000000000000, 0, some [1, 2, 3]⟩, ⟨7, 0, 0, none⟩,
      ⟨8, 0, 0, some []⟩]
    (diskReaderWorker frames).ended = true ∧
      Arrive (fun _ => 5) (diskReaderWorker frames).payloads.flatten (present frames) ∧
      ∀ n, ∃ k, Complete (diskReaderWorker frames).payloads n k ∧
        Arrive (fun _ => 5) ((diskReaderWorker frames).payloads.flatten.take n)
          ((present frames).take k) :=
  mock_sender_received (fun _ => 5) [⟨-1, 0x3FF0000000000000, 0, some [1, 2, 3]⟩,
    ⟨7, 0, 0, none⟩, ⟨8, 0, 0, some []⟩] (by simp [Fits])

end PictureReconstruct.Reconstruct.MockSender
