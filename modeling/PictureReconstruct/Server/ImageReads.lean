import PictureReconstruct.Server.ReceiveTrace

/-! # What is read from the buffer of a frame

The `cv::Mat` over `rawBuffer` takes its size from `rows`, `cols` and `type`, the buffer has its own
from `totalBytes`, and nothing compares the two.

* `carriedFrames`: the frames that a stream carries, read off its bytes.
* `viewed_serve`: these are the frames that the loop builds a `cv::Mat` for.
* `reads_in_bounds_iff`: no read leaves the buffer exactly when every frame that is carried declares
  at least as many bytes as its image has.
-/

namespace PictureReconstruct.Server

open Library.Bytes Library.Procedure RawFrameProtocol

/-! ## The frames that a stream carries -/

instance (frameHeader : RawFrameHeader) (chunkHeader : RawChunkHeader) :
    Decidable (Admitted frameHeader chunkHeader) :=
  inferInstanceAs (Decidable (_ ∧ ¬ _))

/-- What is left of the stream behind the chunks of a frame; nothing if they break off or leave the
    buffer. -/
def behindChunks (frameHeader : RawFrameHeader) : Nat → List UInt8 → Option (List UInt8)
  | 0, stream => some stream
  | remaining + 1, stream =>
    if stream.length < chunkHeaderSize then none
    else
      match parseChunkHeader (stream.take chunkHeaderSize) ⟨0, 0, 0, 0⟩ with
      | (false, _) => none
      | (true, chunkHeader) =>
        if ¬ Admitted frameHeader chunkHeader then
          -- the payload of a rejected chunk stays in the stream
          some (stream.drop chunkHeaderSize)
        else if chunkHeader.offset.toNat + chunkHeader.payloadSize.toNat >
            frameHeader.totalBytes.toNat then none
        else if stream.length < chunkHeaderSize + chunkHeader.payloadSize.toNat then none
        else
          behindChunks frameHeader remaining
            (stream.drop (chunkHeaderSize + chunkHeader.payloadSize.toNat))

/-- The first frame of the stream, and what is left behind it. -/
def carriedFrame (stream : List UInt8) : Option (RawFrameHeader × List UInt8) :=
  if stream.length < frameHeaderSize then none
  else
    match parseFrameHeader (stream.take frameHeaderSize) ⟨0, 0, 0, 0, 0, 0, 0, 0⟩ with
    | (false, _) => none
    | (true, frameHeader) =>
      if frameHeader.totalBytes = 0 ∨ frameHeader.totalBytes > maxFrameBytes then none
      else
        (behindChunks frameHeader frameHeader.fragmentCount.toNat
          (stream.drop frameHeaderSize)).map (frameHeader, ·)

/-- The headers of the first `rounds` frames of the stream. -/
def carriedFrames : Nat → List UInt8 → List RawFrameHeader
  | 0, _ => []
  | rounds + 1, stream =>
    match carriedFrame stream with
    | none => []
    | some (frameHeader, rest) => frameHeader :: carriedFrames rounds rest

/-! ## The loop reads off the same frames -/

/-- The frames that a `cv::Mat` was built for. -/
def viewed (events : List ServerEvent) : List RawFrameHeader :=
  events.filterMap fun
    | .view frameHeader _ => some frameHeader
    | _ => none

theorem viewed_append (events events' : List ServerEvent) :
    viewed (events ++ events') = viewed events ++ viewed events' :=
  List.filterMap_append

theorem mem_viewed {events : List ServerEvent} {frameHeader : RawFrameHeader} :
    frameHeader ∈ viewed events ↔ ∃ rawBuffer, .view frameHeader rawBuffer ∈ events := by
  simp only [viewed, List.mem_filterMap]
  constructor
  · rintro ⟨event, member, shown⟩
    cases event with
    | view header rawBuffer =>
      obtain rfl := Option.some.inj shown
      exact ⟨rawBuffer, member⟩
    | chunk | payload | save => cases shown
  · rintro ⟨rawBuffer, member⟩
    exact ⟨_, member, rfl⟩

theorem Assembles.viewed {frameHeader : RawFrameHeader} {remaining : Nat}
    {rawBuffer assembled : List UInt8} {events : List ServerEvent}
    (assembles : Assembles frameHeader remaining rawBuffer events assembled) :
    viewed events = [] := by
  induction assembles with
  | complete => rfl
  | rejected _ => rfl
  | accepted _ _ _ _ ih => exact ih

theorem Interrupts.viewed {frameHeader : RawFrameHeader} {events : List ServerEvent}
    (interrupts : Interrupts frameHeader events) : viewed events = [] := by
  induction interrupts with
  | lost => rfl
  | accepted _ _ ih => exact ih

variable {split : Nat → Nat}

theorem receiveChunks_behind (frameHeader : RawFrameHeader) (remaining : Nat)
    (rawBuffer : List UInt8) (connection : Connection)
    (sized : rawBuffer.length = frameHeader.totalBytes.toNat) :
    wp (receiveChunks split frameHeader remaining rawBuffer)
      (fun _ after =>
        behindChunks frameHeader remaining connection.incoming = some after.incoming)
      (fun _ _ => behindChunks frameHeader remaining connection.incoming = none) connection := by
  -- a payload that is written over the buffer leaves its size alone
  induction remaining generalizing rawBuffer connection with
  | zero => exact rfl
  | succ remaining ih =>
    simp only [receiveChunks, wp_bind, behindChunks]
    apply wp_receiveChunk
    · intro after short _
      rw [if_pos short]
    · intro after enough bad _
      rw [if_neg (Nat.not_lt.mpr enough)]
      split
      · rfl
      · next parsed =>
        rw [parsed] at bad
        cases bad
    · intro chunkHeader enough parsed
      simp only [if_neg (Nat.not_lt.mpr enough), parsed]
      refine ⟨fun after refused advanced => ?_, fun after admitted outside _ => ?_,
        fun after admitted inside advanced => ⟨fun short => ?_, fun whole => ?_⟩⟩
      · rw [if_pos refused]
        exact congrArg some advanced.1.symm
      · rw [if_neg (not_not.mpr admitted), if_pos (sized ▸ outside)]
      · rw [if_neg (not_not.mpr admitted), if_neg (Nat.not_lt.mpr (sized ▸ inside)), if_pos short]
      · rw [if_neg (not_not.mpr admitted), if_neg (Nat.not_lt.mpr (sized ▸ inside)),
          if_neg (Nat.not_lt.mpr whole), ← advanced.1]
        exact ih _ after ((overwrite_length ..).trans sized)

/-- An iteration by what the stream carries: no frame, or a header with the chunks behind it. -/
theorem wp_receiveFrame_carried {connection : Connection} {clones : RawFrameHeader → Bool}
    {Q : Unit → Connection → Prop} {E : ServerExit → Connection → Prop}
    (nothing : ∀ exit after, carriedFrame connection.incoming = none →
      connection.Advances after frameHeaderSize [] → E exit after)
    (headed : ∀ frameHeader after, carriedFrame connection.incoming =
        (behindChunks frameHeader frameHeader.fragmentCount.toNat after.incoming).map
          (frameHeader, ·) →
      connection.Advances after frameHeaderSize [] →
      wp (receiveChunks split frameHeader frameHeader.fragmentCount.toNat
          (List.replicate frameHeader.totalBytes.toNat 0))
        (fun rawBuffer last =>
          let stored := { last with events :=
            last.events ++ [.save frameHeader rawBuffer, .view frameHeader rawBuffer] }
          (clones frameHeader = true → Q () stored) ∧
            (clones frameHeader = false → E .viewFailed stored))
        E after) :
    wp (receiveFrame split clones) Q E connection := by
  unfold carriedFrame at nothing headed
  apply wp_receiveFrame
  · intro after short advanced
    exact nothing _ after (if_pos short) advanced
  · intro after enough bad advanced
    refine nothing _ after ?_ advanced
    rw [if_neg (Nat.not_lt.mpr enough)]
    split
    · rfl
    · next parsed =>
      rw [parsed] at bad
      cases bad
  · intro frameHeader after enough parsed advanced
    simp only [if_neg (Nat.not_lt.mpr enough), parsed] at nothing headed
    refine ⟨fun illegal => nothing _ after (if_pos illegal) advanced, fun positive legal => ?_⟩
    have passes : ¬ (frameHeader.totalBytes = 0 ∨ frameHeader.totalBytes > maxFrameBytes) :=
      not_or.mpr ⟨positive, UInt64.not_lt.mpr legal⟩
    refine headed frameHeader after ?_ advanced
    rw [if_neg passes, advanced.1]

theorem receiveFrame_carried (connection : Connection) :
    wp (receiveFrame split)
      (fun _ after => ∃ frameHeader,
        carriedFrame connection.incoming = some (frameHeader, after.incoming) ∧
        viewed after.events = viewed connection.events ++ [frameHeader])
      (fun _ after => carriedFrame connection.incoming = none ∧
        viewed after.events = viewed connection.events) connection := by
  have unchanged : ∀ {after : Connection},
      connection.Advances after frameHeaderSize [] →
      viewed after.events = viewed connection.events := fun advanced => by
    rw [advanced.2, List.append_nil]
  apply wp_receiveFrame_carried
  · exact fun _ after carried advanced => ⟨carried, unchanged advanced⟩
  · intro frameHeader after carried advanced
    -- where the chunk loop stops in the stream, and that it builds no `cv::Mat`
    have behind := @receiveChunks_behind split frameHeader frameHeader.fragmentCount.toNat
      (List.replicate frameHeader.totalBytes.toNat 0) after List.length_replicate
    have events := @receiveChunks_assembles split frameHeader frameHeader.fragmentCount.toNat
      (List.replicate frameHeader.totalBytes.toNat 0) after
    refine (behind.and events).mono
      (fun rawBuffer last stored => ⟨fun _ => ?_, Bool.noConfusion⟩) (fun _ last cut => ?_)
    · obtain ⟨rest, added, grown, assembles⟩ := stored
      refine ⟨frameHeader, by rw [carried, rest]; rfl, ?_⟩
      rw [grown, viewed_append, viewed_append, unchanged advanced, assembles.viewed,
        List.append_nil]
      rfl
    · obtain ⟨rest, added, grown, interrupts⟩ := cut
      refine ⟨by rw [carried, rest]; rfl, ?_⟩
      rw [grown, viewed_append, unchanged advanced, interrupts.viewed, List.append_nil]

theorem receiveFrames_carried (rounds : Nat) (connection : Connection) :
    wp (receiveFrames split rounds) (fun _ _ => False)
      (fun _ after => viewed after.events =
        viewed connection.events ++ carriedFrames rounds connection.incoming) connection := by
  induction rounds generalizing connection with
  | zero => exact (List.append_nil _).symm
  | succ rounds ih =>
    simp only [receiveFrames, wp_bind, carriedFrames]
    refine (receiveFrame_carried connection).mono (fun _ middle stored => ?_)
      (fun _ after left => ?_)
    · obtain ⟨frameHeader, carried, shown⟩ := stored
      refine (ih middle).mono (fun _ _ absurd => absurd) (fun _ after rest => ?_)
      rw [rest, shown, carried, List.append_assoc, List.singleton_append]
    · rw [left.1, left.2, List.append_nil]

/-- However `recv` cuts the stream, the loop builds a `cv::Mat` for each frame that it carries. -/
theorem viewed_serve (stream : List UInt8) :
    viewed (serve split stream).2.events = carriedFrames (stream.length + 1) stream := by
  have ended := @receiveFrames_carried split (stream.length + 1) { incoming := stream }
  unfold serve receiveLoop
  cases run : receiveFrames split (stream.length + 1) (fun _ => true) { incoming := stream } with
  | ok _ after => exact (ended.ok run).elim
  | error _ after => exact (ended.error run).trans (List.nil_append _)

/-! ## The bytes of an image -/

/-- The bytes that the `cv::Mat` of a frame has, for `pixelSize` as the `elemSize` of a type. -/
def matBytes (pixelSize : Int → Nat) (frameHeader : RawFrameHeader) : Int :=
  frameHeader.rows.toInt32.toInt * frameHeader.cols.toInt32.toInt *
    pixelSize frameHeader.type.toInt32.toInt

/-- The clone of every `cv::Mat` reads bytes of `rawBuffer` only. -/
def ReadsInBounds (pixelSize : Int → Nat) (events : List ServerEvent) : Prop :=
  ∀ frameHeader rawBuffer, .view frameHeader rawBuffer ∈ events →
    matBytes pixelSize frameHeader ≤ frameHeader.totalBytes.toNat

/-- For every stream and whatever the pixels of a type take: no read leaves the buffer exactly when
    each frame that the stream carries declares as many bytes as its image has. -/
theorem reads_in_bounds_iff (split : Nat → Nat) (pixelSize : Int → Nat) (stream : List UInt8) :
    ReadsInBounds pixelSize (serve split stream).2.events ↔
      ∀ frameHeader ∈ carriedFrames (stream.length + 1) stream,
        matBytes pixelSize frameHeader ≤ frameHeader.totalBytes.toNat := by
  rw [← @viewed_serve split stream]
  constructor
  · intro reads frameHeader shown
    obtain ⟨rawBuffer, event⟩ := mem_viewed.mp shown
    exact reads frameHeader rawBuffer event
  · intro declared frameHeader rawBuffer event
    exact declared frameHeader (mem_viewed.mpr ⟨rawBuffer, event⟩)

/-- `CV_ELEM_SIZE`: the channels of a type times the bytes of its depth. -/
def cvElemSize (type : Int) : Nat :=
  let depth := (type % 8).toNat
  let channels := (type / 8 % 512).toNat + 1
  channels * [1, 1, 2, 2, 4, 4, 8, 2].getD depth 0

/-- The sides of the image are `int`s, and a buffer of `totalBytes` bytes holds it. -/
structure HoldsImage (frameHeader : RawFrameHeader) : Prop where
  rows : frameHeader.rows.toNat < 2 ^ 31
  cols : frameHeader.cols.toNat < 2 ^ 31
  bytes : frameHeader.rows.toNat * frameHeader.cols.toNat *
    cvElemSize frameHeader.type.toInt32.toInt ≤ frameHeader.totalBytes.toNat

instance (frameHeader : RawFrameHeader) : Decidable (HoldsImage frameHeader) :=
  decidable_of_iff (frameHeader.rows.toNat < 2 ^ 31 ∧ frameHeader.cols.toNat < 2 ^ 31 ∧
      frameHeader.rows.toNat * frameHeader.cols.toNat *
        cvElemSize frameHeader.type.toInt32.toInt ≤ frameHeader.totalBytes.toNat)
    ⟨fun ⟨rows, cols, bytes⟩ => ⟨rows, cols, bytes⟩, fun held => ⟨held.rows, held.cols, held.bytes⟩⟩

/-- OpenCV builds and clones the images that their buffers hold; of the others nothing is said. -/
def ClonesHeld (clones : RawFrameHeader → Bool) : Prop :=
  ∀ frameHeader, HoldsImage frameHeader → clones frameHeader = true

theorem toInt32_of_lt {side : UInt32} (small : side.toNat < 2 ^ 31) :
    side.toInt32.toInt = side.toNat := by
  have half : 2 * side.toBitVec.toNat < 2 ^ 32 := by
    rw [UInt32.toNat_toBitVec]
    omega
  calc side.toInt32.toInt
      = side.toBitVec.toInt := rfl
    _ = (side.toBitVec.toNat : Int) := BitVec.toInt_eq_toNat_of_lt half
    _ = side.toNat := by rw [UInt32.toNat_toBitVec]

/-- The clone of such an image stays inside of the buffer. -/
theorem HoldsImage.reads {frameHeader : RawFrameHeader} (held : HoldsImage frameHeader) :
    matBytes cvElemSize frameHeader ≤ frameHeader.totalBytes.toNat := by
  rw [matBytes, toInt32_of_lt held.rows, toInt32_of_lt held.cols, ← Int.natCast_mul,
    ← Int.natCast_mul]
  exact Int.ofNat_le.mpr held.bytes

/-- A frame of one byte and no chunks, which declares two pixels of the type `CV_8UC1`. -/
def narrowStream : List UInt8 := buildFrameHeader ⟨7, 1, 2, 0, 1, 1, 1024, 0⟩

/-- The second pixel is read from behind the buffer. -/
theorem narrowStream_escapes :
    ¬ ReadsInBounds cvElemSize (serve (fun _ => 4096) narrowStream).2.events := by
  have events : (serve (fun _ => 4096) narrowStream).2.events =
      [.save ⟨7, 1, 2, 0, 1, 1, 1024, 0⟩ [0], .view ⟨7, 1, 2, 0, 1, 1, 1024, 0⟩ [0]] := by
    decide +kernel
  intro reads
  have inside := reads ⟨7, 1, 2, 0, 1, 1, 1024, 0⟩ [0] (by rw [events]; simp)
  exact absurd inside (by decide)

end PictureReconstruct.Server
