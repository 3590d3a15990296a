import PictureReconstruct.Library.Coverage
import PictureReconstruct.Server.ImageReads

/-! # When a stored frame is complete

The loop stores a frame once it has read `fragmentCount` chunk headers or rejected one.  Nothing
says that the chunks it took until then fill the buffer, which starts out with zeros.

* `carriedChunks`: the frames that a stream carries, with the chunks that are taken for each.
* `saved_serve`: the loop stores these frames, up to one whose image is not cloned; where chunks
  cover a position, the stored byte is that of the last of them, and elsewhere it is a zero.
* `stored_complete_iff`: the stored frames are complete exactly when the chunks of each leave no
  gap.
* `unfilledStream_stored`: a frame without chunks is stored.
-/

namespace PictureReconstruct.Server

open Library.Bytes Library.Coverage Library.Procedure RawFrameProtocol

/-! ## The chunks that a stream carries -/

/-- A chunk of the stream that passes both tests. -/
structure Chunk where
  header : RawChunkHeader
  payload : List UInt8
deriving DecidableEq

namespace Chunk

/-- The first position behind the chunk. -/
def past (chunk : Chunk) : Nat := chunk.header.offset.toNat + chunk.header.payloadSize.toNat

/-- The chunk has a byte for position `p` of the frame. -/
def Covers (chunk : Chunk) (p : Nat) : Prop := chunk.header.offset.toNat ≤ p ∧ p < chunk.past

instance (chunk : Chunk) (p : Nat) : Decidable (chunk.Covers p) :=
  inferInstanceAs (Decidable (_ ∧ _))

/-- `rawBuffer` with the payload in place. -/
def place (rawBuffer : List UInt8) (chunk : Chunk) : List UInt8 :=
  overwrite rawBuffer chunk.header.offset.toNat chunk.payload

/-- The payload is as long as the header says, and `size` bytes have room for it. -/
structure Fits (chunk : Chunk) (size : Nat) : Prop where
  payload : chunk.payload.length = chunk.header.payloadSize.toNat
  room : chunk.past ≤ size

end Chunk

/-- The chunks that are taken for a frame, read off the bytes behind its header: at most
    `remaining`, and none from the first one on that fails a test. -/
def chunksOf (frameHeader : RawFrameHeader) : (remaining : Nat) → List UInt8 → List Chunk
  | 0, _ => []
  | remaining + 1, stream =>
    match parseChunkHeader (stream.take chunkHeaderSize) ⟨0, 0, 0, 0⟩ with
    | (false, _) => []
    | (true, chunkHeader) =>
      if Admitted frameHeader chunkHeader then
        { header := chunkHeader
          payload := slice stream chunkHeaderSize chunkHeader.payloadSize.toNat } ::
        chunksOf frameHeader remaining
          (stream.drop (chunkHeaderSize + chunkHeader.payloadSize.toNat))
      else []

/-- A frame as the stream carries it. -/
structure CarriedFrame where
  header : RawFrameHeader
  chunks : List Chunk
deriving DecidableEq

/-- The first `rounds` frames of the stream. -/
def carriedRounds : (rounds : Nat) → List UInt8 → List CarriedFrame
  | 0, _ => []
  | rounds + 1, stream =>
    match carriedFrame stream with
    | none => []
    | some (frameHeader, rest) =>
      { header := frameHeader
        chunks := chunksOf frameHeader frameHeader.fragmentCount.toNat
          (stream.drop frameHeaderSize) } ::
      carriedRounds rounds rest

/-- The frames that a stream carries; each has a byte at least. -/
def carriedChunks (stream : List UInt8) : List CarriedFrame :=
  carriedRounds (stream.length + 1) stream

/-- The frames that the loop comes to: it goes on behind an image that was cloned only. -/
def reached (clones : RawFrameHeader → Bool) : List CarriedFrame → List CarriedFrame
  | [] => []
  | frame :: frames => frame :: if clones frame.header then reached clones frames else []

namespace CarriedFrame

/-- Position `p` of `rawBuffer` was filled from the payload of a chunk that followed the header,
    carried its id and passed the range check: it holds the byte of the last chunk that has one
    for it. -/
def Filled (frame : CarriedFrame) (rawBuffer : List UInt8) (p : Nat) : Prop :=
  ∃ earlier chunk later byte, frame.chunks = earlier ++ chunk :: later ∧
    Admitted frame.header chunk.header ∧ chunk.Covers p ∧
    (∀ other ∈ later, ¬ other.Covers p) ∧
    chunk.payload[p - chunk.header.offset.toNat]? = some byte ∧ rawBuffer[p]? = some byte

/-- Every position of `rawBuffer` was filled. -/
def Complete (frame : CarriedFrame) (rawBuffer : List UInt8) : Prop :=
  rawBuffer.length = frame.header.totalBytes.toNat ∧
    ∀ p < frame.header.totalBytes.toNat, frame.Filled rawBuffer p

/-- The chunks leave no gap behind the start of the frame and behind each of their own ends. -/
def Gapless (frame : CarriedFrame) : Prop :=
  ∀ q ∈ 0 :: frame.chunks.map Chunk.past, q < frame.header.totalBytes.toNat →
    ∃ chunk ∈ frame.chunks, chunk.Covers q

instance (frame : CarriedFrame) : Decidable frame.Gapless :=
  inferInstanceAs (Decidable (∀ q ∈ 0 :: frame.chunks.map Chunk.past,
    q < frame.header.totalBytes.toNat → ∃ chunk ∈ frame.chunks, chunk.Covers q))

/-- The ranges of the chunks. -/
def ranges (frame : CarriedFrame) : Set (Nat × Nat) :=
  fun range => ∃ chunk ∈ frame.chunks, range = (chunk.header.offset.toNat, chunk.past)

theorem gapless_iff (frame : CarriedFrame) : frame.Gapless ↔
    ∀ p < frame.header.totalBytes.toNat, ∃ chunk ∈ frame.chunks, chunk.Covers p := by
  constructor
  · intro gapless
    -- what is covered at 0 and at each end is covered between them
    have covers : Covers frame.ranges frame.header.totalBytes.toNat := by
      refine covers_iff.mpr fun q inside start => ?_
      have edge : q ∈ 0 :: frame.chunks.map Chunk.past := by
        rcases start with rfl | ⟨_, ⟨chunk, member, rfl⟩, rfl⟩
        · exact List.mem_cons_self
        · exact List.mem_cons_of_mem _ (List.mem_map_of_mem member)
      obtain ⟨chunk, member, within⟩ := gapless q edge inside
      exact ⟨_, ⟨chunk, member, rfl⟩, within⟩
    intro p inside
    obtain ⟨_, ⟨chunk, member, rfl⟩, within⟩ := covers p inside
    exact ⟨chunk, member, within⟩
  · exact fun all q _ inside => all q inside

end CarriedFrame

/-! ## What the chunks make of the buffer -/

section Placing

variable {chunks : List Chunk} {rawBuffer : List UInt8} {p : Nat}

theorem place_length (chunks : List Chunk) (rawBuffer : List UInt8) :
    (chunks.foldl Chunk.place rawBuffer).length = rawBuffer.length := by
  induction chunks generalizing rawBuffer with
  | nil => rfl
  | cons chunk chunks ih => exact (ih _).trans (overwrite_length ..)

/-- A position that no chunk covers keeps its byte. -/
theorem place_uncovered (fit : ∀ chunk ∈ chunks, chunk.Fits rawBuffer.length)
    (uncovered : ∀ chunk ∈ chunks, ¬ chunk.Covers p) :
    (chunks.foldl Chunk.place rawBuffer)[p]? = rawBuffer[p]? := by
  induction chunks generalizing rawBuffer with
  | nil => rfl
  | cons chunk chunks ih =>
    rw [List.forall_mem_cons] at fit uncovered
    have length : (Chunk.place rawBuffer chunk).length = rawBuffer.length := overwrite_length ..
    rw [List.foldl_cons, ih (by rw [length]; exact fit.2) uncovered.2, Chunk.place,
      overwrite_outside]
    · rw [fit.1.payload]
      exact fit.1.room
    · rw [fit.1.payload]
      exact uncovered.1

/-- A position that some chunk covers holds the byte of the last one. -/
theorem place_covered (fit : ∀ chunk ∈ chunks, chunk.Fits rawBuffer.length)
    (covered : ∃ chunk ∈ chunks, chunk.Covers p) :
    ∃ earlier chunk later byte, chunks = earlier ++ chunk :: later ∧ chunk.Covers p ∧
      (∀ other ∈ later, ¬ other.Covers p) ∧
      chunk.payload[p - chunk.header.offset.toNat]? = some byte ∧
      (chunks.foldl Chunk.place rawBuffer)[p]? = some byte := by
  induction chunks generalizing rawBuffer with
  | nil =>
    obtain ⟨_, member, _⟩ := covered
    cases member
  | cons chunk chunks ih =>
    rw [List.forall_mem_cons] at fit
    have length : (Chunk.place rawBuffer chunk).length = rawBuffer.length := overwrite_length ..
    have fit' : ∀ other ∈ chunks, other.Fits (Chunk.place rawBuffer chunk).length := by
      rw [length]
      exact fit.2
    -- either a later chunk covers the position too, or this one is the last
    by_cases again : ∃ other ∈ chunks, other.Covers p
    · obtain ⟨earlier, last, later, byte, split, covers, never, held, stored⟩ := ih fit' again
      exact ⟨chunk :: earlier, last, later, byte, by rw [split, List.cons_append], covers, never,
        held, stored⟩
    · have never : ∀ other ∈ chunks, ¬ other.Covers p :=
        fun other member inside => again ⟨other, member, inside⟩
      have covers : chunk.Covers p := by
        obtain ⟨other, member, inside⟩ := covered
        cases List.mem_cons.mp member with
        | inl same => exact same ▸ inside
        | inr later => exact absurd inside (never other later)
      have short : p - chunk.header.offset.toNat < chunk.payload.length := by
        have inside := covers
        rw [Chunk.Covers, Chunk.past] at inside
        rw [fit.1.payload]
        omega
      refine ⟨[], chunk, chunks, chunk.payload[p - chunk.header.offset.toNat], rfl, covers, never,
        List.getElem?_eq_getElem short, ?_⟩
      rw [List.foldl_cons, place_uncovered fit' never, Chunk.place, overwrite_inside, ←
        List.getElem?_eq_getElem short]
      · rw [fit.1.payload]
        exact fit.1.room
      · exact covers.1
      · rw [fit.1.payload]
        exact covers.2

end Placing

/-! ## What the loop stores -/

/-- The frames that `saveRawFile` is called with. -/
def saved (events : List ServerEvent) : List (RawFrameHeader × List UInt8) :=
  events.filterMap fun
    | .save frameHeader rawBuffer => some (frameHeader, rawBuffer)
    | _ => none

theorem saved_append (events events' : List ServerEvent) :
    saved (events ++ events') = saved events ++ saved events' :=
  List.filterMap_append

theorem Assembles.saved {frameHeader : RawFrameHeader} {remaining : Nat}
    {rawBuffer assembled : List UInt8} {events : List ServerEvent}
    (assembles : Assembles frameHeader remaining rawBuffer events assembled) :
    saved events = [] := by
  induction assembles with
  | complete => rfl
  | rejected _ => rfl
  | accepted _ _ _ _ ih => exact ih

theorem Interrupts.saved {frameHeader : RawFrameHeader} {events : List ServerEvent}
    (interrupts : Interrupts frameHeader events) : saved events = [] := by
  induction interrupts with
  | lost => rfl
  | accepted _ _ ih => exact ih

/-- The stored frame is the carried one: the bytes of its chunks, and zeros elsewhere. -/
structure StoredAs (stored : RawFrameHeader × List UInt8) (frame : CarriedFrame) : Prop where
  header : stored.1 = frame.header
  length : stored.2.length = frame.header.totalBytes.toNat
  filled : ∀ p, (∃ chunk ∈ frame.chunks, chunk.Covers p) → frame.Filled stored.2 p
  zero : ∀ p < frame.header.totalBytes.toNat, (∀ chunk ∈ frame.chunks, ¬ chunk.Covers p) →
    stored.2[p]? = some 0

/-- The chunks are put in place one after the other. -/
theorem StoredAs.of_place {frame : CarriedFrame}
    (fit : ∀ chunk ∈ frame.chunks, Admitted frame.header chunk.header ∧
      chunk.Fits frame.header.totalBytes.toNat) :
    StoredAs (frame.header, frame.chunks.foldl Chunk.place
      (List.replicate frame.header.totalBytes.toNat 0)) frame where
  header := rfl
  length := (place_length ..).trans List.length_replicate
  filled p covered := by
    obtain ⟨earlier, chunk, later, byte, split, covers, never, held, stored⟩ :=
      @place_covered frame.chunks (List.replicate frame.header.totalBytes.toNat 0) p
        (by simpa using fun chunk member => (fit chunk member).2) covered
    have member : chunk ∈ frame.chunks := by rw [split]; simp
    exact ⟨earlier, chunk, later, byte, split, (fit chunk member).1, covers, never, held, stored⟩
  zero p inside uncovered := by
    rw [place_uncovered (by simpa using fun chunk member => (fit chunk member).2) uncovered]
    simp [inside]

section Loop

variable {split : Nat → Nat}

/-- The chunk loop puts the chunks of the stream in place. -/
theorem receiveChunks_places (frameHeader : RawFrameHeader) (remaining : Nat)
    (rawBuffer : List UInt8) (connection : Connection) :
    wp (receiveChunks split frameHeader remaining rawBuffer)
      (fun assembled _ =>
        assembled =
          (chunksOf frameHeader remaining connection.incoming).foldl Chunk.place rawBuffer ∧
        ∀ chunk ∈ chunksOf frameHeader remaining connection.incoming,
          Admitted frameHeader chunk.header ∧ chunk.Fits rawBuffer.length)
      (fun _ _ => True) connection := by
  induction remaining generalizing rawBuffer connection with
  | zero => exact ⟨rfl, fun _ member => absurd member List.not_mem_nil⟩
  | succ remaining ih =>
    simp only [receiveChunks, wp_bind]
    apply wp_receiveChunk
    · exact fun _ _ _ => trivial
    · exact fun _ _ _ _ => trivial
    · intro chunkHeader enough parsed
      refine ⟨fun after refused _ => ?_, fun _ _ _ _ => trivial,
        fun after admitted room advanced => ⟨fun _ => trivial, fun whole => ?_⟩⟩
      · -- `break`: what was put in place until then is stored
        simp only [chunksOf, parsed, if_neg refused]
        exact ⟨rfl, fun _ member => absurd member List.not_mem_nil⟩
      · simp only [chunksOf, parsed, if_pos admitted, ← advanced.1]
        refine (ih _ after).mono (fun assembled last placed => ?_) (fun _ _ _ => trivial)
        obtain ⟨same, fit⟩ := placed
        refine ⟨same, List.forall_mem_cons.mpr ⟨⟨admitted, slice_length whole, room⟩, ?_⟩⟩
        rwa [overwrite_length] at fit

/-- The frame behind `frameHeader` was stored between the two connections. -/
def Saves (frameHeader : RawFrameHeader) (connection after : Connection) : Prop :=
  ∃ stored, saved after.events = saved connection.events ++ [stored] ∧
    StoredAs stored ⟨frameHeader, chunksOf frameHeader frameHeader.fragmentCount.toNat
      (connection.incoming.drop frameHeaderSize)⟩

theorem receiveFrame_saves (clones : RawFrameHeader → Bool) (connection : Connection) :
    wp (receiveFrame split clones)
      (fun _ after => ∃ frameHeader, clones frameHeader = true ∧
        carriedFrame connection.incoming = some (frameHeader, after.incoming) ∧
        Saves frameHeader connection after)
      (fun _ after => (∃ frameHeader, clones frameHeader = false ∧
          carriedFrame connection.incoming = some (frameHeader, after.incoming) ∧
          Saves frameHeader connection after) ∨
        carriedFrame connection.incoming = none ∧ saved after.events = saved connection.events)
      connection := by
  have unchanged : ∀ {after : Connection}, connection.Advances after frameHeaderSize [] →
      saved after.events = saved connection.events := fun advanced => by
    rw [advanced.2, List.append_nil]
  apply wp_receiveFrame_carried
  · exact fun _ after carried advanced => .inr ⟨carried, unchanged advanced⟩
  · intro frameHeader after carried advanced
    have behind := @receiveChunks_behind split frameHeader frameHeader.fragmentCount.toNat
      (List.replicate frameHeader.totalBytes.toNat 0) after List.length_replicate
    have places := @receiveChunks_places split frameHeader frameHeader.fragmentCount.toNat
      (List.replicate frameHeader.totalBytes.toNat 0) after
    have events := @receiveChunks_assembles split frameHeader frameHeader.fragmentCount.toNat
      (List.replicate frameHeader.totalBytes.toNat 0) after
    refine (behind.and (places.and events)).mono (fun rawBuffer last stored => ?_)
      (fun _ last cut => ?_)
    · obtain ⟨rest, ⟨same, fit⟩, added, grown, assembles⟩ := stored
      rw [List.length_replicate] at fit
      rw [rest] at carried
      -- the frame is stored before its image is cloned
      have saves : Saves frameHeader connection { last with events :=
          last.events ++ [.save frameHeader rawBuffer, .view frameHeader rawBuffer] } := by
        refine ⟨(frameHeader, rawBuffer), ?_, ?_⟩
        · rw [saved_append, grown, saved_append, unchanged advanced, assembles.saved,
            List.append_nil]
          rfl
        · rw [same, ← advanced.1]
          exact @StoredAs.of_place ⟨frameHeader, _⟩ fit
      exact ⟨fun cloned => ⟨frameHeader, cloned, carried, saves⟩,
        fun failed => .inl ⟨frameHeader, failed, carried, saves⟩⟩
    · -- the chunk loop has returned from `main`
      obtain ⟨rest, _, added, grown, interrupts⟩ := cut
      refine .inr ⟨by rw [carried, rest]; rfl, ?_⟩
      rw [grown, saved_append, unchanged advanced, interrupts.saved, List.append_nil]

theorem receiveFrames_saves (clones : RawFrameHeader → Bool) (rounds : Nat)
    (connection : Connection) :
    wp (receiveFrames split rounds clones) (fun _ _ => False)
      (fun _ after => ∃ frames, saved after.events = saved connection.events ++ frames ∧
        List.Forall₂ StoredAs frames (reached clones (carriedRounds rounds connection.incoming)))
      connection := by
  induction rounds generalizing connection with
  | zero => exact ⟨[], (List.append_nil _).symm, .nil⟩
  | succ rounds ih =>
    simp only [receiveFrames, wp_bind, carriedRounds]
    refine (receiveFrame_saves clones connection).mono (fun _ middle done => ?_)
      (fun _ after left => ?_)
    · obtain ⟨frameHeader, cloned, carried, stored, grown, storedAs⟩ := done
      refine (ih middle).mono (fun _ _ absurd => absurd) (fun _ after later => ?_)
      obtain ⟨frames, grown', rest⟩ := later
      refine ⟨stored :: frames, by rw [grown', grown, List.append_assoc]; rfl, ?_⟩
      simp only [carried, reached, cloned, if_true]
      exact .cons storedAs rest
    · obtain ⟨frameHeader, failed, carried, stored, grown, storedAs⟩ | ⟨nothing, same⟩ := left
      · refine ⟨[stored], grown, ?_⟩
        simp only [carried, reached, failed, Bool.false_eq_true, if_false]
        exact .cons storedAs .nil
      · refine ⟨[], by rw [same, List.append_nil], ?_⟩
        rw [nothing]
        exact .nil

/-- However `recv` cuts the stream, the frames stored are those that it carries, up to one whose
    image is not cloned. -/
theorem saved_serve (clones : RawFrameHeader → Bool) (stream : List UInt8) :
    List.Forall₂ StoredAs (saved (serve split stream clones).2.events)
      (reached clones (carriedChunks stream)) := by
  have ended := @receiveFrames_saves split clones (stream.length + 1) { incoming := stream }
  unfold serve receiveLoop carriedChunks
  cases run : receiveFrames split (stream.length + 1) clones { incoming := stream } with
  | ok _ after => exact (ended.ok run).elim
  | error _ after =>
    obtain ⟨frames, grown, all⟩ := ended.error run
    have same : saved after.events = frames := grown
    exact same ▸ all

end Loop

/-! ## When they are complete -/

/-- A stored frame is complete exactly when its chunks leave no gap. -/
theorem StoredAs.complete_iff {stored : RawFrameHeader × List UInt8} {frame : CarriedFrame}
    (storedAs : StoredAs stored frame) : frame.Complete stored.2 ↔ frame.Gapless := by
  rw [CarriedFrame.gapless_iff]
  constructor
  · intro complete p inside
    obtain ⟨_, chunk, _, _, split, _, covers, _⟩ := complete.2 p inside
    exact ⟨chunk, by rw [split]; simp, covers⟩
  · exact fun covered => ⟨storedAs.length, fun p inside => storedAs.filled p (covered p inside)⟩

theorem forall₂_complete_iff {stored : List (RawFrameHeader × List UInt8)}
    {frames : List CarriedFrame} (all : List.Forall₂ StoredAs stored frames) :
    List.Forall₂ (fun stored frame => stored.1 = frame.header ∧ frame.Complete stored.2) stored
        frames ↔ ∀ frame ∈ frames, frame.Gapless := by
  induction all with
  | nil => simp
  | cons storedAs _ ih =>
    rw [List.forall₂_cons, ih, List.forall_mem_cons, storedAs.complete_iff]
    exact and_congr_left fun _ => and_iff_right storedAs.header

/-- Every frame that is stored has the header of the carried frame, and all of its bytes were
    filled from that frame's chunks, exactly when the chunks of every frame that the loop comes to
    leave no gap between its start and its end. -/
theorem stored_complete_iff (split : Nat → Nat) (clones : RawFrameHeader → Bool)
    (stream : List UInt8) :
    List.Forall₂ (fun stored frame => stored.1 = frame.header ∧ frame.Complete stored.2)
        (saved (serve split stream clones).2.events) (reached clones (carriedChunks stream)) ↔
      ∀ frame ∈ reached clones (carriedChunks stream), frame.Gapless :=
  forall₂_complete_iff (saved_serve clones stream)

/-- A one-byte frame that announces no chunk. -/
def unfilledStream : List UInt8 := buildFrameHeader ⟨7, 1, 1, 0, 1, 1, 1024, 0⟩

/-- The frame is stored, and its only byte was never received. -/
theorem unfilledStream_stored :
    ¬ List.Forall₂ (fun stored frame => stored.1 = frame.header ∧ frame.Complete stored.2)
      (saved (serve (fun _ => 4096) unfilledStream).2.events) (carriedChunks unfilledStream) := by
  have stored : saved (serve (fun _ => 4096) unfilledStream).2.events =
      [(⟨7, 1, 1, 0, 1, 1, 1024, 0⟩, [0])] := by
    decide +kernel
  have carried : carriedChunks unfilledStream = [⟨⟨7, 1, 1, 0, 1, 1, 1024, 0⟩, []⟩] := by
    decide +kernel
  rw [stored, carried]
  intro complete
  cases complete with
  | cons first _ =>
    obtain ⟨_, _, filled⟩ := first
    obtain ⟨earlier, chunk, later, _, split, _⟩ := filled 0 (by decide)
    simp at split

end PictureReconstruct.Server
