import Mathlib.Data.List.Flatten
import PictureReconstruct.Library.Bytes
import PictureReconstruct.Library.Streams

/-! # The producer of the reconstruction

The thread of `main.cpp` that receives packets.  Doubles are their eight bytes.

* `receiveLoop_spec`: the loop pushes the longest front of whole packets.
* `producer_survives_iff`: a negative image size behind it is all that the producer does not
  survive.
-/

namespace PictureReconstruct.Reconstruct.Producer

open Library.Bytes Library.Streams

/-- `NetHeader`, packed. -/
structure NetHeader where
  magic : List UInt8
  frameId : Int32
  imageSize : Int32
  stageX : UInt64
  stageY : UInt64

structure RawFramePacket where
  frameId : Int32
  stageX : UInt64
  stageY : UInt64
  imgBuffer : List UInt8
deriving DecidableEq

/-- "CAM1" -/
def magicWord : List UInt8 := [0x43, 0x41, 0x4D, 0x31]

/-- `sizeof(NetHeader)` -/
def headerSize : Nat := 28

/-- An `int` in memory. -/
def intAt (bytes : List UInt8) (offset : Nat) : Int32 :=
  (UInt32.ofNat (ofLittleEndian (slice bytes offset 4))).toInt32

/-- A `double` in memory. -/
def doubleAt (bytes : List UInt8) (offset : Nat) : UInt64 :=
  UInt64.ofNat (ofLittleEndian (slice bytes offset 8))

/-- The header that these bytes are. -/
def NetHeader.ofBytes (bytes : List UInt8) : NetHeader where
  magic := slice bytes 0 4
  frameId := intAt bytes 4
  imageSize := intAt bytes 8
  stageX := doubleAt bytes 12
  stageY := doubleAt bytes 20

/-! ## The receive loop -/

/-- How the loop is left. -/
inductive Exit
  | streamEnded
  | badMagic
  | bodyLost
  /-- the exception of the constructor of `imgBuffer` -/
  | lengthError
deriving DecidableEq

/-- The loop is left by `break`. -/
def Exit.breaks : Exit → Bool
  | lengthError => false
  | _ => true

/-- An `int` converted to `size_t`. -/
def toSize (n : Int32) : Nat := (n.toInt % 2 ^ 64).toNat

/-- `max_size` of a `std::vector<uchar>` -/
def maxSize : Nat := 2 ^ 63 - 1

variable (split : Nat → Nat)

/-- `recvExact`: the bytes, nothing for `false`. -/
def recvExact (len : Nat) (stream : Stream UInt8) : Option (List UInt8) × Stream UInt8 :=
  let ((complete, bytes), stream) := readLoop split len len stream
  (if complete then some bytes else none, stream)

/-- One iteration. -/
def receivePacket (stream : Stream UInt8) : Except Exit RawFramePacket × Stream UInt8 :=
  match recvExact split headerSize stream with
  | (none, stream) => (.error .streamEnded, stream)
  | (some bytes, stream) =>
    let header := NetHeader.ofBytes bytes
    if header.magic ≠ magicWord then (.error .badMagic, stream)
    else if maxSize < toSize header.imageSize then (.error .lengthError, stream)
    else
      match recvExact split (toSize header.imageSize) stream with
      | (none, stream) => (.error .bodyLost, stream)
      | (some imgBuffer, stream) =>
        (.ok ⟨header.frameId, header.stageX, header.stageY, imgBuffer⟩, stream)

/-- The loop with what was pushed before.  An iteration that does not leave it takes a header, so
    there are no more iterations than bytes. -/
def receiveLoop : (rounds : Nat) → List RawFramePacket → Stream UInt8 → Exit × List RawFramePacket
  | 0, pushed, _ => (.streamEnded, pushed)
  | rounds + 1, pushed, stream =>
    match receivePacket split stream with
    | (.error exit, _) => (exit, pushed)
    | (.ok packet, stream) => receiveLoop rounds (pushed ++ [packet]) stream

structure Outcome where
  exit : Exit
  /-- what was pushed to `rawQueue` -/
  pushed : List RawFramePacket
  /-- `setFinished` was reached; an exception ends the process instead -/
  finished : Bool
deriving DecidableEq

/-- `producerThread`, behind `accept`. -/
def producerThread (bytes : List UInt8) : Outcome :=
  let (exit, pushed) := receiveLoop split (bytes.length + 1) [] { incoming := bytes }
  { exit, pushed, finished := exit.breaks }

/-! ## Packets -/

def headerBytes (frameId : Int32) (size : Nat) (stageX stageY : UInt64) : List UInt8 :=
  magicWord ++ littleEndian 4 frameId.toUInt32.toNat ++ littleEndian 4 size ++
    littleEndian 8 stageX.toNat ++ littleEndian 8 stageY.toNat

/-- The bytes of a packet. -/
def packetBytes (packet : RawFramePacket) : List UInt8 :=
  headerBytes packet.frameId packet.imgBuffer.length packet.stageX packet.stageY ++
    packet.imgBuffer

/-- The length of the image is an `int`. -/
def WellFormed (packet : RawFramePacket) : Prop := packet.imgBuffer.length < 2 ^ 31

/-- A header with the right magic word and an image size below zero. -/
def NegativeSize (rest : List UInt8) : Prop :=
  headerSize ≤ rest.length ∧ (NetHeader.ofBytes (rest.take headerSize)).magic = magicWord ∧
    (NetHeader.ofBytes (rest.take headerSize)).imageSize.toInt < 0

theorem recvExact_spec (len : Nat) (stream : Stream UInt8) :
    ∃ calls, recvExact split len stream =
      (if len ≤ stream.incoming.length then some (stream.incoming.take len) else none,
        { incoming := stream.incoming.drop len, calls }) := by
  obtain ⟨calls, read⟩ := readLoop_spec split len len stream (Nat.le_refl len)
  exact ⟨calls, by simp [recvExact, read]⟩

/-! ## Headers -/

theorem toInt_word (n : Int32) : n.toUInt32.toNat < 2 ^ 32 ∧
    n.toInt = if n.toUInt32.toNat < 2 ^ 31 then (n.toUInt32.toNat : Int)
      else n.toUInt32.toNat - 2 ^ 32 := by
  have sign : n.toInt = if 2 * n.toUInt32.toNat < 2 ^ 32 then (n.toUInt32.toNat : Int)
      else n.toUInt32.toNat - 2 ^ 32 := BitVec.toInt_eq_toNat_cond n.toBitVec
  refine ⟨n.toUInt32.toNat_lt, sign.trans ?_⟩
  split <;> split <;> omega

/-- A negative size is far above every possible one. -/
theorem toSize_of_neg {n : Int32} (negative : n.toInt < 0) : maxSize < toSize n := by
  obtain ⟨small, sign⟩ := toInt_word n
  unfold toSize maxSize
  split at sign <;> omega

theorem toSize_of_nonneg {n : Int32} (nonneg : 0 ≤ n.toInt) :
    toSize n = n.toUInt32.toNat ∧ toSize n < 2 ^ 31 := by
  obtain ⟨small, sign⟩ := toInt_word n
  unfold toSize
  split at sign <;> omega

theorem headerBytes_length (frameId : Int32) (size : Nat) (stageX stageY : UInt64) :
    (headerBytes frameId size stageX stageY).length = headerSize := by
  simp [headerBytes, magicWord, headerSize]

/-- The fields of a header, by their offsets. -/
theorem header_slices {magic frameId size stageX stageY : List UInt8} (length : magic.length = 4)
    (length' : frameId.length = 4) (length'' : size.length = 4) (width : stageX.length = 8)
    (width' : stageY.length = 8) :
    slice (magic ++ frameId ++ size ++ stageX ++ stageY) 0 4 = magic ∧
      slice (magic ++ frameId ++ size ++ stageX ++ stageY) 4 4 = frameId ∧
      slice (magic ++ frameId ++ size ++ stageX ++ stageY) 8 4 = size ∧
      slice (magic ++ frameId ++ size ++ stageX ++ stageY) 12 8 = stageX ∧
      slice (magic ++ frameId ++ size ++ stageX ++ stageY) 20 8 = stageY := by
  have empty : ∀ {bytes : List UInt8} {n : Nat}, bytes.length ≤ n → bytes.drop n = [] :=
    List.drop_eq_nil_of_le
  simp [slice, List.drop_append, empty, List.take_of_length_le, length, length',
    length'', width, width']

/-- The receiver reads what the sender wrote. -/
theorem ofBytes_headerBytes (frameId : Int32) {size : Nat} (bound : size < 2 ^ 31)
    (stageX stageY : UInt64) :
    NetHeader.ofBytes (headerBytes frameId size stageX stageY) =
      ⟨magicWord, frameId, (UInt32.ofNat size).toInt32, stageX, stageY⟩ := by
  obtain ⟨magic, first, second, third, fourth⟩ := header_slices
    (show magicWord.length = 4 from rfl) (littleEndian_length 4 frameId.toUInt32.toNat)
    (littleEndian_length 4 size) (littleEndian_length 8 stageX.toNat)
    (littleEndian_length 8 stageY.toNat)
  have id : frameId.toUInt32.toNat < 256 ^ 4 := frameId.toUInt32.toNat_lt
  have x : stageX.toNat < 256 ^ 8 := stageX.toNat_lt
  have y : stageY.toNat < 256 ^ 8 := stageY.toNat_lt
  simp only [NetHeader.ofBytes, headerBytes, intAt, doubleAt, magic, first, second, third, fourth,
    ofLittleEndian_littleEndian_of_lt id, ofLittleEndian_littleEndian_of_lt x,
    ofLittleEndian_littleEndian_of_lt y,
    ofLittleEndian_littleEndian_of_lt (show size < 256 ^ 4 by omega), UInt32.ofNat_toNat,
    UInt64.ofNat_toNat]
  rfl

/-- And writes what it read. -/
theorem headerBytes_ofBytes {bytes : List UInt8} (length : bytes.length = headerSize)
    (magic : (NetHeader.ofBytes bytes).magic = magicWord) :
    bytes = headerBytes (NetHeader.ofBytes bytes).frameId
      (NetHeader.ofBytes bytes).imageSize.toUInt32.toNat (NetHeader.ofBytes bytes).stageX
      (NetHeader.ofBytes bytes).stageY := by
  have total : bytes.length = 28 := length
  have int : ∀ offset, offset + 4 ≤ 28 →
      littleEndian 4 (intAt bytes offset).toUInt32.toNat = slice bytes offset 4 := by
    intro offset inside
    have width : (slice bytes offset 4).length = 4 := slice_length (by omega)
    have small := ofLittleEndian_lt (slice bytes offset 4)
    have same := littleEndian_ofLittleEndian (slice bytes offset 4)
    rw [width] at small same
    have word : (intAt bytes offset).toUInt32.toNat = ofLittleEndian (slice bytes offset 4) :=
      UInt32.toNat_ofNat_of_lt' small
    rw [word, same]
  have double : ∀ offset, offset + 8 ≤ 28 →
      littleEndian 8 (doubleAt bytes offset).toNat = slice bytes offset 8 := by
    intro offset inside
    have width : (slice bytes offset 8).length = 8 := slice_length (by omega)
    have small := ofLittleEndian_lt (slice bytes offset 8)
    have same := littleEndian_ofLittleEndian (slice bytes offset 8)
    rw [width] at small same
    have word : (doubleAt bytes offset).toNat = ofLittleEndian (slice bytes offset 8) :=
      UInt64.toNat_ofNat_of_lt' small
    rw [word, same]
  simp only [NetHeader.ofBytes] at magic ⊢
  rw [headerBytes, ← magic, int 4 (by omega), int 8 (by omega), double 12 (by omega),
    double 20 (by omega), slice_append_slice bytes 0 4 4, slice_append_slice bytes 0 8 4,
    slice_append_slice bytes 0 12 8, slice_append_slice bytes 0 20 8, slice, List.drop_zero,
    List.take_of_length_le (by omega)]

/-! ## Packets in a stream -/

section Front

variable {packet : RawFramePacket} {stream : List UInt8}

theorem packetBytes_length (packet : RawFramePacket) :
    (packetBytes packet).length = headerSize + packet.imgBuffer.length := by
  rw [packetBytes, List.length_append, headerBytes_length]

theorem toSize_ofNat {size : Nat} (bound : size < 2 ^ 31) :
    toSize (UInt32.ofNat size).toInt32 = size ∧ 0 ≤ (UInt32.ofNat size).toInt32.toInt := by
  have word : (UInt32.ofNat size).toInt32.toUInt32.toNat = size :=
    UInt32.toNat_ofNat_of_lt' (show size < 2 ^ 32 by omega)
  obtain ⟨small, sign⟩ := toInt_word (UInt32.ofNat size).toInt32
  rw [word] at sign
  have nonneg : 0 ≤ (UInt32.ofNat size).toInt32.toInt := by
    split at sign <;> omega
  exact ⟨(toSize_of_nonneg nonneg).1.trans word, nonneg⟩

/-- The header of a packet at the front of a stream. -/
theorem header_of_front (good : WellFormed packet) (front : packetBytes packet <+: stream) :
    NetHeader.ofBytes (stream.take headerSize) =
      ⟨magicWord, packet.frameId, (UInt32.ofNat packet.imgBuffer.length).toInt32, packet.stageX,
        packet.stageY⟩ := by
  obtain ⟨behind, rfl⟩ := front
  rw [packetBytes, List.append_assoc, List.take_left' (headerBytes_length _ _ _ _)]
  exact ofBytes_headerBytes packet.frameId good packet.stageX packet.stageY

/-- And its image. -/
theorem image_of_front (front : packetBytes packet <+: stream) :
    packet.imgBuffer = (stream.drop headerSize).take packet.imgBuffer.length := by
  obtain ⟨behind, rfl⟩ := front
  rw [packetBytes, List.append_assoc, List.drop_left' (headerBytes_length _ _ _ _), List.take_left]

theorem packetBytes_delimited : Delimited packetBytes WellFormed := by
  intro packet packet' stream good good' front front'
  have same := (header_of_front good front).symm.trans (header_of_front good' front')
  injection same with _ frameId size stageX stageY
  have length : packet.imgBuffer.length = packet'.imgBuffer.length := by
    rw [← (toSize_ofNat good).1, size, (toSize_ofNat good').1]
  have image : packet.imgBuffer = packet'.imgBuffer := by
    rw [image_of_front front, length, ← image_of_front front']
  cases packet
  cases packet'
  cases frameId
  cases stageX
  cases stageY
  cases image
  rfl

theorem packetBytes_ne_nil (packet : RawFramePacket) : packetBytes packet ≠ [] := by
  intro empty
  have length := packetBytes_length packet
  rw [empty, List.length_nil, headerSize] at length
  omega

/-- A part of a packet has no negative image size. -/
theorem part_not_negative {rest : List UInt8} (good : WellFormed packet)
    (part : rest <+: packetBytes packet) : ¬ NegativeSize rest := by
  rintro ⟨header, -, negative⟩
  have same : rest.take headerSize = (packetBytes packet).take headerSize := by
    obtain ⟨behind, whole⟩ := part
    rw [← whole, List.take_append_of_le_length header]
  rw [same, header_of_front good (List.prefix_refl _)] at negative
  exact not_lt.mpr (toSize_ofNat good).2 negative

/-- What a packet at the front says about the stream. -/
theorem front_complete (good : WellFormed packet) (front : packetBytes packet <+: stream) :
    headerSize ≤ stream.length ∧
      (NetHeader.ofBytes (stream.take headerSize)).magic = magicWord ∧
      0 ≤ (NetHeader.ofBytes (stream.take headerSize)).imageSize.toInt ∧
      toSize (NetHeader.ofBytes (stream.take headerSize)).imageSize ≤
        (stream.drop headerSize).length := by
  obtain ⟨size, nonneg⟩ := toSize_ofNat good
  have length := front.length_le
  rw [packetBytes_length] at length
  rw [header_of_front good front]
  refine ⟨by omega, rfl, nonneg, size.trans_le ?_⟩
  rw [List.length_drop]
  omega

/-- A whole header and its image are a packet. -/
theorem front_of_header (header : headerSize ≤ stream.length)
    (magic : (NetHeader.ofBytes (stream.take headerSize)).magic = magicWord)
    (nonneg : 0 ≤ (NetHeader.ofBytes (stream.take headerSize)).imageSize.toInt)
    (complete : toSize (NetHeader.ofBytes (stream.take headerSize)).imageSize ≤
      (stream.drop headerSize).length)
    (packet_eq : packet = ⟨(NetHeader.ofBytes (stream.take headerSize)).frameId,
      (NetHeader.ofBytes (stream.take headerSize)).stageX,
      (NetHeader.ofBytes (stream.take headerSize)).stageY,
      (stream.drop headerSize).take
        (toSize (NetHeader.ofBytes (stream.take headerSize)).imageSize)⟩) :
    WellFormed packet ∧ stream = packetBytes packet ++ (stream.drop headerSize).drop
      (toSize (NetHeader.ofBytes (stream.take headerSize)).imageSize) := by
  obtain ⟨word, bound⟩ := toSize_of_nonneg nonneg
  have length : packet.imgBuffer.length =
      toSize (NetHeader.ofBytes (stream.take headerSize)).imageSize := by
    rw [packet_eq]
    exact List.length_take_of_le complete
  have bytes := headerBytes_ofBytes (List.length_take_of_le header) magic
  constructor
  · rw [WellFormed, length]
    exact bound
  · rw [packetBytes, length, packet_eq, word, ← bytes, List.append_assoc, List.take_append_drop,
      List.take_append_drop]

end Front

/-! ## The loop -/

/-- An iteration takes the packet at the front; where there is none it leaves the loop. -/
theorem receivePacket_cases (stream : Stream UInt8) :
    (∃ packet rest calls, WellFormed packet ∧ stream.incoming = packetBytes packet ++ rest ∧
      receivePacket split stream = (.ok packet, { incoming := rest, calls })) ∨
    ∃ exit stream', receivePacket split stream = (.error exit, stream') ∧
      (∀ packet, WellFormed packet → ¬ packetBytes packet <+: stream.incoming) ∧
      (exit = .lengthError ↔ NegativeSize stream.incoming) := by
  obtain ⟨calls, received⟩ := recvExact_spec split headerSize stream
  by_cases short : stream.incoming.length < headerSize
  · rw [if_neg (by omega)] at received
    exact .inr ⟨.streamEnded, _, by rw [receivePacket, received],
      fun packet good front => short.not_ge (front_complete good front).1,
      iff_of_false (by simp) fun negative => short.not_ge negative.1⟩
  rw [if_pos (by omega)] at received
  let header := NetHeader.ofBytes (stream.incoming.take headerSize)
  by_cases magic : header.magic = magicWord
  swap
  · exact .inr ⟨.badMagic, _, by simp only [receivePacket, received]; rw [if_pos magic],
      fun packet good front => magic (front_complete good front).2.1,
      iff_of_false (by simp) fun negative => magic negative.2.1⟩
  cases lt_or_ge header.imageSize.toInt 0 with
  | inl negative =>
    refine .inr ⟨.lengthError, { incoming := stream.incoming.drop headerSize, calls }, ?_,
      fun packet good front => negative.not_ge (front_complete good front).2.2.1,
      iff_of_true rfl ⟨by omega, magic, negative⟩⟩
    simp only [receivePacket, received]
    rw [if_neg (not_not.mpr magic), if_pos (toSize_of_neg negative)]
  | inr nonneg =>
    obtain ⟨word, bound⟩ := toSize_of_nonneg nonneg
    have notNegative : ¬ NegativeSize stream.incoming := fun negative =>
      nonneg.not_gt negative.2.2
    obtain ⟨calls', received'⟩ := recvExact_spec split (toSize header.imageSize)
      { incoming := stream.incoming.drop headerSize, calls }
    have possible : ¬ maxSize < toSize header.imageSize := by
      unfold maxSize
      omega
    by_cases lost : (stream.incoming.drop headerSize).length < toSize header.imageSize
    · rw [if_neg (not_le.mpr lost)] at received'
      refine .inr ⟨.bodyLost, ⟨(stream.incoming.drop headerSize).drop (toSize header.imageSize),
        calls'⟩, ?_, fun packet good front => lost.not_ge (front_complete good front).2.2.2,
        iff_of_false (by simp) notNegative⟩
      simp only [receivePacket, received]
      rw [if_neg (not_not.mpr magic), if_neg possible, received']
    · rw [if_pos (not_lt.mp lost)] at received'
      obtain ⟨good, front⟩ :=
        front_of_header (not_lt.mp short) magic nonneg (not_lt.mp lost) rfl
      refine .inl ⟨_, _, calls', good, front, ?_⟩
      simp only [receivePacket, received]
      rw [if_neg (not_not.mpr magic), if_neg possible, received']

/-- The loop pushes the longest front of whole packets. -/
theorem receiveLoop_spec {rounds : Nat} (pushed : List RawFramePacket) (stream : Stream UInt8)
    (enough : stream.incoming.length < rounds) :
    ∃ exit packets rest, receiveLoop split rounds pushed stream = (exit, pushed ++ packets) ∧
      Cut packetBytes WellFormed stream.incoming packets rest ∧
      (exit = .lengthError ↔ NegativeSize rest) := by
  induction rounds generalizing pushed stream with
  | zero => omega
  | succ rounds ih =>
    obtain ⟨packet, rest, calls, good, front, received⟩ | ⟨exit, stream', left, none, cause⟩ :=
      receivePacket_cases split stream
    · have length := congrArg List.length front
      rw [List.length_append, packetBytes_length, headerSize] at length
      obtain ⟨exit, packets, rest', looped, cut, cause⟩ :=
        ih (pushed ++ [packet]) { incoming := rest, calls } (by simp only; omega)
      refine ⟨exit, packet :: packets, rest', ?_, ?_, cause⟩
      · rw [receiveLoop, received]
        simpa using looped
      · rw [front]
        exact cut.cons good
    · refine ⟨exit, [], stream.incoming, ?_, ⟨rfl, by simp, none⟩, cause⟩
      rw [receiveLoop, left, List.append_nil]

/-- What the producer pushes, and what it does not survive. -/
theorem producerThread_spec (bytes : List UInt8) :
    ∃ rest, Cut packetBytes WellFormed bytes (producerThread split bytes).pushed rest ∧
      ((producerThread split bytes).finished = true ↔ ¬ NegativeSize rest) := by
  obtain ⟨exit, packets, rest, looped, cut, cause⟩ :=
    receiveLoop_spec split [] { incoming := bytes }
      (Nat.lt_succ_self bytes.length)
  rw [List.nil_append] at looped
  refine ⟨rest, ?_, ?_⟩
  · simp only [producerThread, looped]
    exact cut
  · simp only [producerThread, looped]
    rw [← cause]
    cases exit <;> simp [Exit.breaks]

/-- A stream of whole packets, with a rest that does no harm. -/
theorem producerThread_of_cut {bytes rest : List UInt8} {packets : List RawFramePacket}
    (cut : Cut packetBytes WellFormed bytes packets rest) (harmless : ¬ NegativeSize rest) :
    (producerThread split bytes).pushed = packets ∧
      (producerThread split bytes).finished = true := by
  obtain ⟨rest', cut', finished⟩ := producerThread_spec split bytes
  obtain ⟨pushed, rfl⟩ := cut'.unique packetBytes_delimited cut
  exact ⟨pushed, finished.mpr harmless⟩

/-- The queue is finished, with the longest front of whole packets in it. -/
def Survives (bytes : List UInt8) : Prop :=
  (producerThread split bytes).finished = true ∧
    ∃ rest, Cut packetBytes WellFormed bytes (producerThread split bytes).pushed rest

/-- All that the producer does not survive is a header with an image size below zero, behind whole
    packets: the vector of the image is asked for a length above every possible one. -/
theorem producer_survives_iff (bytes : List UInt8) : Survives split bytes ↔
    ¬ ∃ packets rest, Cut packetBytes WellFormed bytes packets rest ∧ NegativeSize rest := by
  obtain ⟨rest, cut, finished⟩ := producerThread_spec split bytes
  constructor
  · rintro ⟨finishes, -⟩ ⟨packets, rest', cut', negative⟩
    obtain ⟨-, rfl⟩ := cut.unique packetBytes_delimited cut'
    exact finished.mp finishes negative
  · intro harmless
    exact ⟨finished.mpr fun negative => harmless ⟨_, rest, cut, negative⟩, rest, cut⟩

/-- An image size of -1. -/
theorem negative_size_not_survived : ¬ Survives (fun _ => 28)
    (magicWord ++ [0, 0, 0, 0] ++ [0xFF, 0xFF, 0xFF, 0xFF] ++ List.replicate 16 0) := by
  rintro ⟨finished, -⟩
  revert finished
  decide

end PictureReconstruct.Reconstruct.Producer
