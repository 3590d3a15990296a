import PictureReconstruct.Reconstruct.MockSender
import PictureReconstruct.Reconstruct.PipelineTermination
import PictureReconstruct.Reconstruct.WeightedAverage

/-! # From the files of the sender to the reconstruction

The sender, a stream that may end early, the producer and the threads behind it as one system.

* `Reconstructs`: the images and the signals are those of a list of packets.
* `stream_to_image`: the list is that of the frames that have arrived in whole.
-/

namespace PictureReconstruct.Reconstruct

open Library.Runs Producer MockSender Pipeline

/-- What the pipeline gets of a packet; `number` is what the bits of a `double` stand for. -/
def pushedPacket (number : UInt64 → ℚ) (packet : Producer.RawFramePacket) : RawFramePacket where
  frameId := packet.frameId.toInt
  stageX := number packet.stageX
  stageY := number packet.stageY
  imgBuffer := packet.imgBuffer

/-- The packets that the producer pushes for a stream. -/
def streamPackets (number : UInt64 → ℚ) (split : Nat → Nat) (bytes : List UInt8) :
    List RawFramePacket :=
  (producerThread split bytes).pushed.map (pushedPacket number)

/-- The packet for a frame; nothing if its file is missing. -/
def sentPacket (number : UInt64 → ℚ) (frame : Frame) : Option RawFramePacket :=
  frame.file.map fun imageData =>
    ⟨frame.frameId, number frame.stageX, number frame.stageY, imageData⟩

/-- What `main` finds behind its joins is the reconstruction from these packets. -/
structure Reconstructs {rows cols workers : Nat} {Raw : Type} (imaging : Imaging rows cols Raw)
    (spots : List SpotInfo) (packets : List RawFramePacket)
    (state : Pipeline rows cols workers) : Prop where
  sums : state.sums = sequential imaging spots packets
  /-- one group for each packet that decodes -/
  signals : ∃ groups : List SignalPacket,
    groups.Perm (packets.filterMap (frameSignals imaging spots)) ∧
      state.allSignals = groups.flatMap SignalPacket.signals
  /-- no pixel with weight leaves the range of the signals -/
  between : ∀ low high, (∀ sig ∈ state.allSignals, low ≤ sig.intensity ∧ sig.intensity ≤ high) →
    ∀ y x, state.sums.2 y x > 1e-6 →
      low ≤ normalizeByWeight state.sums y x ∧ normalizeByWeight state.sums y x ≤ high

section Composition

variable {rows cols workers : Nat} {Raw : Type} {imaging : Imaging rows cols Raw}
  {spots : List SpotInfo} {packets : List RawFramePacket} {state : Pipeline rows cols workers}

theorem Pipeline.Underway.reconstructs (underway : Underway imaging spots packets state)
    (staffed : 0 < workers) (finished : Finished state) :
    Reconstructs imaging spots packets state := by
  obtain ⟨groups, whole, signals, sums⟩ := underway.conserved
  rw [outstanding_finished underway.shutDown staffed finished, add_zero] at whole
  have perm : groups.Perm (groupsOf imaging spots packets) := Multiset.coe_eq_coe.mp whole
  refine ⟨?_, ⟨groups, perm, signals⟩, fun low high range y x weighs => ?_⟩
  · rw [sums, signals, sequential_eq, accumulate_perm 0 (perm.flatMap_right _)]
  · have averaged : Averaged low high state.sums := by
      rw [sums]
      exact Averaged.zero.accumulate range
    exact averaged.normalized weighs

/-- The frames that arrive are those whose packets are pushed. -/
theorem MockSender.Arrive.pushed {split : Nat → Nat} {bytes : List UInt8} {frames : List Frame}
    (arrive : Arrive split bytes frames) (number : UInt64 → ℚ) :
    streamPackets number split bytes = frames.filterMap (sentPacket number) := by
  have one : ∀ packet : Producer.RawFramePacket,
      sentPacket number (frameOf packet) = some (pushedPacket number packet) := fun _ => rfl
  rw [← arrive.1, List.filterMap_map]
  simp only [Function.comp_def, one, List.filterMap_eq_map', streamPackets]

/-- With all of its bytes, every payload is complete. -/
theorem MockSender.Complete.whole {payloads : List (List UInt8)} {n k : Nat}
    (complete : Complete payloads n k) (all : payloads.flatten.length ≤ n) :
    k = payloads.length := by
  obtain ⟨inside, -, next⟩ := complete
  by_contra short
  have beyond := next (Nat.lt_of_le_of_ne inside short)
  have part : (payloads.take (k + 1)).flatten.length ≤ payloads.flatten.length :=
    ((List.take_prefix (k + 1) payloads).flatten).length_le
  omega

end Composition

/-- However the stream is cut into pieces, wherever it ends and however the threads are scheduled:
    when `main` is past its joins, it has the reconstruction from exactly those frames that are not
    missing and have arrived in whole; behind a stream that is whole, these are all. -/
theorem stream_to_image {rows cols workers : Nat} {Raw : Type} (number : UInt64 → ℚ)
    (imaging : Imaging rows cols Raw) (spots : List SpotInfo) (frames : List Frame)
    (fits : ∀ frame ∈ frames, Fits frame) (split : Nat → Nat) (n : Nat) (staffed : 0 < workers)
    (actions : List (PipelineAction workers))
    (admits : Admits (effect imaging spots) Enabled actions (initial
      (streamPackets number split ((diskReaderWorker frames).payloads.flatten.take n))))
    (through : (run (effect imaging spots) actions (initial (streamPackets number split
      ((diskReaderWorker frames).payloads.flatten.take n)))).main = .postprocess) :
    ∃ k, Complete (diskReaderWorker frames).payloads n k ∧
      ((diskReaderWorker frames).payloads.flatten.length ≤ n → k = (present frames).length) ∧
      Reconstructs imaging spots (((present frames).take k).filterMap (sentPacket number))
        (run (effect imaging spots) actions (initial (streamPackets number split
          ((diskReaderWorker frames).payloads.flatten.take n)))) := by
  obtain ⟨packets, sent, good, same⟩ := diskReaderWorker_spec fits
  obtain ⟨k, complete, arrive⟩ : ∃ k, Complete (packets.map packetBytes) n k ∧
      Arrive split ((packets.map packetBytes).flatten.take n) ((packets.map frameOf).take k) :=
    truncated_arrive good n
  have underway := run_underway imaging spots _ actions admits
  have finished := underway.attended.finished underway.shutDown through
  refine ⟨k, sent ▸ complete, fun all => ?_, ?_⟩
  · rw [sent] at all
    rw [complete.whole all, ← same, List.length_map, List.length_map]
  · rw [← same, ← arrive.pushed number]
    rw [sent] at underway finished ⊢
    exact underway.reconstructs staffed finished

/-- Three frames, the last of which is cut off. -/
def cutOff : List Frame := [⟨1, 0, 0, some [8]⟩, ⟨2, 0, 0, some []⟩, ⟨3, 0, 0, some [6]⟩]

/-- One worker takes the first packet, the other one the second. -/
def alternating (one other : Fin 2) : List (PipelineAction 2) :=
  [.receive, .popRaw one, .receive, .decode one, .popRaw other, .decode other, .pushSignals one,
    .finishRaw, .joinProducer, .popRaw one, .popRaw other, .joinWorkers, .finishSignals,
    .popSignals, .add, .popSignals, .joinAccumulator]

theorem stream_to_image_cut_off :
    ∃ k, Complete (diskReaderWorker cutOff).payloads 60 k ∧
      ((diskReaderWorker cutOff).payloads.flatten.length ≤ 60 → k = (present cutOff).length) ∧
      Reconstructs grey [spot] (((present cutOff).take k).filterMap (sentPacket fun _ => 0))
        (run (effect grey [spot]) (alternating 0 1) (initial
          (streamPackets (fun _ => 0) (fun _ => 5)
            ((diskReaderWorker cutOff).payloads.flatten.take 60)))) :=
  stream_to_image (fun _ => 0) grey [spot] cutOff (by simp [cutOff, Fits]) (fun _ => 5) 60
    (by decide) (alternating 0 1) (by decide +kernel) (by decide +kernel)

end PictureReconstruct.Reconstruct
