import PictureReconstruct.Library.Codecs
import PictureReconstruct.Protocol.RawFrameProtocol

/-! # Frame and chunk headers, both ways

* `parseFrameHeader_cases`, `parseChunkHeader_cases`: a parser that has begun to write its result
  does not fail any more.
* `header_codecs`: building and parsing are inverse to each other.
-/

namespace PictureReconstruct.RawFrameProtocol

open Library.Bytes Library.Codecs Wire

/-! ## What the parsers accept -/

/-- The fixed fields of a frame header: magic, version and size. -/
def IsFrameHeader (data : List UInt8) : Prop :=
  UInt32.ofNat (valueAt data 0 4) = frameMagic ∧ UInt16.ofNat (valueAt data 4 2) = version ∧
    (UInt16.ofNat (valueAt data 6 2)).toNat = frameHeaderSize

/-- The magic of a chunk header. -/
def IsChunkHeader (data : List UInt8) : Prop := UInt32.ofNat (valueAt data 0 4) = chunkMagic

theorem parseFrameHeader_cases (data : List UInt8) (old : RawFrameHeader) :
    (frameHeaderSize ≤ data.length ∧ IsFrameHeader data ∧
      parseFrameHeader data old = (true, frameHeaderAt data)) ∨
      parseFrameHeader data old = (false, old) :=
  guarded_cases (fun short => by rw [parseFrameHeader, if_pos short])
    fun long => parseFrameHeader_of_length long old

theorem parseChunkHeader_cases (data : List UInt8) (old : RawChunkHeader) :
    (chunkHeaderSize ≤ data.length ∧ IsChunkHeader data ∧
      parseChunkHeader data old = (true, chunkHeaderAt data)) ∨
      parseChunkHeader data old = (false, old) :=
  guarded_cases (fun short => by rw [parseChunkHeader, if_pos short])
    fun long => parseChunkHeader_of_length long old

/-! ## Building what was parsed -/

section Building

variable {data : List UInt8}

theorem buildFrameHeader_at (long : frameHeaderSize ≤ data.length) (fixed : IsFrameHeader data) :
    buildFrameHeader (frameHeaderAt data) = data.take frameHeaderSize := by
  rw [frameHeaderSize] at long
  obtain ⟨magic, versions, size⟩ := fixed
  have sized : bigEndian 2 48 = bigEndian 2 (UInt16.ofNat (valueAt data 6 2)).toNat := by
    rw [size, frameHeaderSize]
  rw [buildFrameHeader_eq, ← magic, ← versions, sized, frameHeaderAt]
  simp (disch := omega) only [uint16_bytes, uint32_bytes, uint64_bytes]
  -- the fields lie side by side
  simp (disch := omega) only [slice_join, Nat.reduceAdd]
  rw [slice, List.drop_zero, frameHeaderSize]

theorem buildChunkHeader_at (long : chunkHeaderSize ≤ data.length) (fixed : IsChunkHeader data) :
    buildChunkHeader (chunkHeaderAt data) = data.take chunkHeaderSize := by
  rw [chunkHeaderSize] at long
  rw [IsChunkHeader] at fixed
  rw [buildChunkHeader_eq, ← fixed, chunkHeaderAt]
  simp (disch := omega) only [uint32_bytes, uint64_bytes]
  simp (disch := omega) only [slice_join, Nat.reduceAdd]
  rw [slice, List.drop_zero, chunkHeaderSize]

end Building

theorem frameHeader_codec : Codec buildFrameHeader parseFrameHeader frameHeaderSize id :=
  .of_cases parseFrameHeader_cases parseFrameHeader_build fun _ => buildFrameHeader_at

theorem chunkHeader_codec : Codec buildChunkHeader parseChunkHeader chunkHeaderSize id :=
  .of_cases parseChunkHeader_cases parseChunkHeader_build fun _ => buildChunkHeader_at

/-- The magic tells the two headers apart. -/
theorem magics_apart (frameHeader : RawFrameHeader) (chunkHeader : RawChunkHeader) :
    (buildFrameHeader frameHeader).take 4 ≠ (buildChunkHeader chunkHeader).take 4 := by
  rw [buildFrameHeader_eq, buildChunkHeader_eq, List.take_left' (bigEndian_length 4 _),
    List.take_left' (bigEndian_length 4 _)]
  decide

/-- Each parser gives back what was built, whatever follows, and accepts nothing but headers that
    building gives back; a byte string that it rejects leaves its result as it was, and no byte
    string is accepted by both. -/
theorem header_codecs :
    Codec buildFrameHeader parseFrameHeader frameHeaderSize id ∧
      Codec buildChunkHeader parseChunkHeader chunkHeaderSize id ∧
      ∀ data frameHeader chunkHeader,
        ¬ ((parseFrameHeader data frameHeader).1 = true ∧
          (parseChunkHeader data chunkHeader).1 = true) := by
  refine ⟨frameHeader_codec, chunkHeader_codec, ?_⟩
  exact frameHeader_codec.disjoint chunkHeader_codec (by decide) (by decide) magics_apart

end PictureReconstruct.RawFrameProtocol
