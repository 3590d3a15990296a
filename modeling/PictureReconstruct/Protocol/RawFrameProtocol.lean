import PictureReconstruct.Protocol.Wire

/-! # `RawFrameProtocol`: frame and chunk headers

A frame travels as one 48-byte frame header followed by its chunks, each a 28-byte chunk
header and a payload.  `parseFrameHeader` and `parseChunkHeader` write their result through
an out-parameter; the model takes the parameter's old value and returns the new one beside
the `bool`.

* `parseFrameHeader_of_length`, `parseChunkHeader_of_length`: on a long enough buffer the
  parsers decide by the fixed fields alone and then read every other field from its place.
* `parseFrameHeader_build`, `parseChunkHeader_build`: a parser gives back what the builder
  of its header wrote, whatever follows.
-/

namespace PictureReconstruct

open Library.Bytes Wire

/-- `RawFrameHeader`. -/
structure RawFrameHeader where
  frameId : UInt64
  rows : UInt32
  cols : UInt32
  type : UInt32
  elemSize : UInt32
  totalBytes : UInt64
  fragmentSize : UInt32
  fragmentCount : UInt32
deriving DecidableEq, Inhabited

/-- `RawChunkHeader`. -/
structure RawChunkHeader where
  frameId : UInt64
  fragmentIndex : UInt32
  payloadSize : UInt32
  offset : UInt64
deriving DecidableEq, Inhabited

namespace RawFrameProtocol

/-- "RFW1" -/
def frameMagic : UInt32 := 0x52465731
/-- "CHK1" -/
def chunkMagic : UInt32 := 0x43484B31
def version : UInt16 := 1
def frameHeaderSize : Nat := 48
def chunkHeaderSize : Nat := 28

/-! ## Building -/

def buildFrameHeader (header : RawFrameHeader) : List UInt8 :=
  let buffer := []
  let buffer := appendUint32 buffer frameMagic
  let buffer := appendUint16 buffer version
  let buffer := appendUint16 buffer (UInt16.ofNat frameHeaderSize)
  let buffer := appendUint64 buffer header.frameId
  let buffer := appendUint32 buffer header.rows
  let buffer := appendUint32 buffer header.cols
  let buffer := appendUint32 buffer header.type
  let buffer := appendUint32 buffer header.elemSize
  let buffer := appendUint64 buffer header.totalBytes
  let buffer := appendUint32 buffer header.fragmentSize
  appendUint32 buffer header.fragmentCount

def buildChunkHeader (header : RawChunkHeader) : List UInt8 :=
  let buffer := []
  let buffer := appendUint32 buffer chunkMagic
  let buffer := appendUint64 buffer header.frameId
  let buffer := appendUint32 buffer header.fragmentIndex
  let buffer := appendUint32 buffer header.payloadSize
  appendUint64 buffer header.offset

theorem buildFrameHeader_eq (header : RawFrameHeader) :
    buildFrameHeader header =
      bigEndian 4 frameMagic.toNat ++ (bigEndian 2 version.toNat ++ (bigEndian 2 48 ++
      (bigEndian 8 header.frameId.toNat ++ (bigEndian 4 header.rows.toNat ++
      (bigEndian 4 header.cols.toNat ++ (bigEndian 4 header.type.toNat ++
      (bigEndian 4 header.elemSize.toNat ++ (bigEndian 8 header.totalBytes.toNat ++
      (bigEndian 4 header.fragmentSize.toNat ++
        bigEndian 4 header.fragmentCount.toNat))))))))) := by
  simp only [buildFrameHeader, appendUint16_eq, appendUint32_eq, appendUint64_eq, List.nil_append,
    List.append_assoc]
  rfl

theorem buildChunkHeader_eq (header : RawChunkHeader) :
    buildChunkHeader header =
      bigEndian 4 chunkMagic.toNat ++ (bigEndian 8 header.frameId.toNat ++
      (bigEndian 4 header.fragmentIndex.toNat ++ (bigEndian 4 header.payloadSize.toNat ++
      bigEndian 8 header.offset.toNat))) := by
  simp only [buildChunkHeader, appendUint32_eq, appendUint64_eq, List.nil_append,
    List.append_assoc]

@[simp] theorem buildFrameHeader_length (header : RawFrameHeader) :
    (buildFrameHeader header).length = frameHeaderSize := by
  simp [buildFrameHeader_eq, frameHeaderSize]

@[simp] theorem buildChunkHeader_length (header : RawChunkHeader) :
    (buildChunkHeader header).length = chunkHeaderSize := by
  simp [buildChunkHeader_eq, chunkHeaderSize]

/-! ## Parsing -/

def parseFrameHeader (data : List UInt8) (header : RawFrameHeader) : Bool × RawFrameHeader :=
  if data.length < frameHeaderSize then (false, header) else
  match readUint32 data 0 with
  | none => (false, header)
  | some (magic, offset) =>
  match readUint16 data offset with
  | none => (false, header)
  | some (readVersion, offset) =>
  match readUint16 data offset with
  | none => (false, header)
  | some (headerSize, offset) =>
  if magic ≠ frameMagic then (false, header) else
  if readVersion ≠ version then (false, header) else
  if headerSize.toNat ≠ frameHeaderSize then (false, header) else
  match readUint64 data offset with
  | none => (false, header)
  | some (frameId, offset) =>
  let header := { header with frameId }
  match readUint32 data offset with
  | none => (false, header)
  | some (rows, offset) =>
  let header := { header with rows }
  match readUint32 data offset with
  | none => (false, header)
  | some (cols, offset) =>
  let header := { header with cols }
  match readUint32 data offset with
  | none => (false, header)
  | some (type, offset) =>
  let header := { header with type }
  match readUint32 data offset with
  | none => (false, header)
  | some (elemSize, offset) =>
  let header := { header with elemSize }
  match readUint64 data offset with
  | none => (false, header)
  | some (totalBytes, offset) =>
  let header := { header with totalBytes }
  match readUint32 data offset with
  | none => (false, header)
  | some (fragmentSize, offset) =>
  let header := { header with fragmentSize }
  match readUint32 data offset with
  | none => (false, header)
  | some (fragmentCount, _) => (true, { header with fragmentCount })

def parseChunkHeader (data : List UInt8) (header : RawChunkHeader) : Bool × RawChunkHeader :=
  if data.length < chunkHeaderSize then (false, header) else
  match readUint32 data 0 with
  | none => (false, header)
  | some (magic, offset) =>
  if magic ≠ chunkMagic then (false, header) else
  match readUint64 data offset with
  | none => (false, header)
  | some (frameId, offset) =>
  let header := { header with frameId }
  match readUint32 data offset with
  | none => (false, header)
  | some (fragmentIndex, offset) =>
  let header := { header with fragmentIndex }
  match readUint32 data offset with
  | none => (false, header)
  | some (payloadSize, offset) =>
  let header := { header with payloadSize }
  match readUint64 data offset with
  | none => (false, header)
  | some (chunkOffset, _) => (true, { header with offset := chunkOffset })

/-- The fields of a frame header at their places. -/
def frameHeaderAt (data : List UInt8) : RawFrameHeader where
  frameId := UInt64.ofNat (valueAt data 8 8)
  rows := UInt32.ofNat (valueAt data 16 4)
  cols := UInt32.ofNat (valueAt data 20 4)
  type := UInt32.ofNat (valueAt data 24 4)
  elemSize := UInt32.ofNat (valueAt data 28 4)
  totalBytes := UInt64.ofNat (valueAt data 32 8)
  fragmentSize := UInt32.ofNat (valueAt data 40 4)
  fragmentCount := UInt32.ofNat (valueAt data 44 4)

/-- The fields of a chunk header at their places. -/
def chunkHeaderAt (data : List UInt8) : RawChunkHeader where
  frameId := UInt64.ofNat (valueAt data 4 8)
  fragmentIndex := UInt32.ofNat (valueAt data 12 4)
  payloadSize := UInt32.ofNat (valueAt data 16 4)
  offset := UInt64.ofNat (valueAt data 20 8)

theorem parseFrameHeader_of_length {data : List UInt8} (long : frameHeaderSize ≤ data.length)
    (header : RawFrameHeader) :
    parseFrameHeader data header =
      if UInt32.ofNat (valueAt data 0 4) = frameMagic ∧ UInt16.ofNat (valueAt data 4 2) = version ∧
          (UInt16.ofNat (valueAt data 6 2)).toNat = frameHeaderSize
      then (true, frameHeaderAt data) else (false, header) := by
  rw [frameHeaderSize] at long
  simp only [parseFrameHeader, if_neg (show ¬ data.length < frameHeaderSize by
    rw [frameHeaderSize]; omega), readUint32_eq (show 0 + 4 ≤ data.length by omega)]
  simp (disch := omega) only [readUint16_eq, readUint32_eq, readUint64_eq]
  by_cases magic : UInt32.ofNat (valueAt data 0 4) = frameMagic <;>
    by_cases versions : UInt16.ofNat (valueAt data 4 2) = version <;>
    by_cases size : (UInt16.ofNat (valueAt data 6 2)).toNat = frameHeaderSize <;>
    simp [magic, versions, size, frameHeaderAt]

theorem parseChunkHeader_of_length {data : List UInt8} (long : chunkHeaderSize ≤ data.length)
    (header : RawChunkHeader) :
    parseChunkHeader data header =
      if UInt32.ofNat (valueAt data 0 4) = chunkMagic then (true, chunkHeaderAt data)
      else (false, header) := by
  rw [chunkHeaderSize] at long
  simp only [parseChunkHeader, if_neg (show ¬ data.length < chunkHeaderSize by
    rw [chunkHeaderSize]; omega), readUint32_eq (show 0 + 4 ≤ data.length by omega)]
  simp (disch := omega) only [readUint32_eq, readUint64_eq]
  by_cases magic : UInt32.ofNat (valueAt data 0 4) = chunkMagic <;> simp [magic, chunkHeaderAt]

/-! ## Parsing what was built -/

theorem frameHeaderAt_build (header : RawFrameHeader) (rest : List UInt8) :
    frameHeaderAt (buildFrameHeader header ++ rest) = header := by
  rw [buildFrameHeader_eq, frameHeaderAt]
  simp (disch := omega) only [List.append_assoc, valueAt_skip, Nat.reduceSub, uint32_valueAt,
    uint64_valueAt]

theorem chunkHeaderAt_build (header : RawChunkHeader) (rest : List UInt8) :
    chunkHeaderAt (buildChunkHeader header ++ rest) = header := by
  rw [buildChunkHeader_eq, chunkHeaderAt]
  simp (disch := omega) only [List.append_assoc, valueAt_skip, Nat.reduceSub, uint32_valueAt,
    uint64_valueAt]

theorem parseFrameHeader_build (header old : RawFrameHeader) (rest : List UInt8) :
    parseFrameHeader (buildFrameHeader header ++ rest) old = (true, header) := by
  have long : frameHeaderSize ≤ (buildFrameHeader header ++ rest).length := by simp
  have fixed : UInt32.ofNat (valueAt (buildFrameHeader header ++ rest) 0 4) = frameMagic ∧
      UInt16.ofNat (valueAt (buildFrameHeader header ++ rest) 4 2) = version ∧
      (UInt16.ofNat (valueAt (buildFrameHeader header ++ rest) 6 2)).toNat = frameHeaderSize := by
    rw [buildFrameHeader_eq]
    simp (disch := omega) only [List.append_assoc, valueAt_skip, Nat.reduceSub, uint32_valueAt,
      uint16_valueAt, true_and]
    exact congrArg UInt16.toNat (uint16_valueAt 48 _)
  rw [parseFrameHeader_of_length long, if_pos fixed, frameHeaderAt_build]

theorem parseChunkHeader_build (header old : RawChunkHeader) (rest : List UInt8) :
    parseChunkHeader (buildChunkHeader header ++ rest) old = (true, header) := by
  have long : chunkHeaderSize ≤ (buildChunkHeader header ++ rest).length := by simp
  have fixed : UInt32.ofNat (valueAt (buildChunkHeader header ++ rest) 0 4) = chunkMagic := by
    rw [buildChunkHeader_eq]
    simp only [List.append_assoc, uint32_valueAt]
  rw [parseChunkHeader_of_length long, if_pos fixed, chunkHeaderAt_build]

end RawFrameProtocol

end PictureReconstruct
