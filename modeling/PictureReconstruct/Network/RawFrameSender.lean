import PictureReconstruct.Network.TcpClient

/-! # `RawFrameSender`: one frame as a header and its fragments

* `wp_sendFrame`: what `sendFrame` can do to the connection, whatever the environment.
* `headersOn`: the frame headers that a history shows on a connection.
* `Progress`: some traffic on the current connection, and the headers among it.
-/

namespace PictureReconstruct

open Library.Procedure

namespace RawFrameSender

open TcpClient

/-- `setFragmentSize`: the value `fragmentSize_` takes. -/
def setFragmentSize (fragmentSize : UInt32) : UInt32 :=
  if fragmentSize < 1024 then 1024 else fragmentSize

/-- `fragmentCount`, a 64-bit quotient narrowed to 32 bits. -/
def fragmentCount (fragmentSize : UInt32) (frame : RawFrame) : UInt32 :=
  ((frame.totalBytes + fragmentSize.toUInt64 - 1) / fragmentSize.toUInt64).toUInt32

def frameHeaderFor (fragmentSize : UInt32) (frame : RawFrame) : RawFrameHeader where
  frameId := frame.frameId
  rows := frame.rows
  cols := frame.cols
  type := frame.type
  elemSize := frame.elemSize
  totalBytes := frame.totalBytes
  fragmentSize := fragmentSize
  fragmentCount := fragmentCount fragmentSize frame

def chunkHeaderFor (fragmentSize : UInt32) (frame : RawFrame) (index : UInt32) : RawChunkHeader :=
  let offset := index.toUInt64 * fragmentSize.toUInt64
  let remain := frame.totalBytes - offset
  let payloadSize := (min fragmentSize.toUInt64 remain).toUInt32
  { frameId := frame.frameId, fragmentIndex := index, payloadSize, offset }

/-- The `payloadSize` bytes at `rawData + offset`. -/
def payloadFor (fragmentSize : UInt32) (frame : RawFrame) (index : UInt32) : List UInt8 :=
  let header := chunkHeaderFor fragmentSize frame index
  Library.Bytes.slice frame.data header.offset.toNat header.payloadSize.toNat

variable (env : Environment) (fragmentSize : UInt32)

/-- One iteration of the fragment loop; `false` for its `return false`. -/
def sendFragment (frame : RawFrame) (index : Nat) : EStateM Abort Net Bool := do
  let index := UInt32.ofNat index
  if !(← sendAll env (.chunkHeader (chunkHeaderFor fragmentSize frame index))) then return false
  sendAll env (.payload (payloadFor fragmentSize frame index))

/-- `sendFrame`. -/
def sendFrame (frame : RawFrame) : EStateM Abort Net Bool := do
  if frame.empty then return false
  if frame.totalBytes == 0 then return false
  if !(← sendAll env (.frameHeader (frameHeaderFor fragmentSize frame))) then return false
  let count := (fragmentCount fragmentSize frame).toNat
  if !(← (List.range count).allM (sendFragment env fragmentSize frame)) then return false
  modify fun net => net.record (.frameSent net.connection frame)
  return true

/-! ## The packets of a frame -/

def fragmentPackets (frame : RawFrame) (index : Nat) : List Packet :=
  [.chunkHeader (chunkHeaderFor fragmentSize frame (UInt32.ofNat index)),
    .payload (payloadFor fragmentSize frame (UInt32.ofNat index))]

end RawFrameSender

/-! ## Frame headers in a history -/

/-- The id of the frame whose header the event shows on `connection`. -/
def Event.headerOn (connection : Nat) : Event → Option UInt64
  | .sent c (.frameHeader header) _ => if c = connection then some header.frameId else none
  | _ => none

/-- The ids of the frames whose headers went out on `connection`, in order. -/
def headersOn (connection : Nat) (history : List Event) : List UInt64 :=
  history.filterMap (Event.headerOn connection)

@[simp] theorem headersOn_append (connection : Nat) (before after : List Event) :
    headersOn connection (before ++ after) =
      headersOn connection before ++ headersOn connection after := by
  simp [headersOn]

@[simp] theorem headersOn_stored (connection : Nat) (frames : List RawFrame) :
    headersOn connection (frames.map .stored) = [] := by
  simp [headersOn, Event.headerOn]

/-- Events that show nothing but the traffic on the current connection: no new connection, no
    frame written to the spool, no reply accepted. -/
def Event.passive : Event → Prop
  | .connected _ | .persisted _ | .resumed _ _ => False
  | _ => True

/-- `after` is `before` with some traffic on the current connection, which may have been lost.
    The headers that went out are among those of the frames `ids`, in this order. -/
structure Progress (ids : List UInt64) (before after : Net) : Prop where
  connection : after.connection = before.connection
  connected : after.connected = true → before.connected = true
  history : ∃ added, after.history = before.history ++ added ∧ (∀ event ∈ added, event.passive) ∧
    (headersOn before.connection added).Sublist ids ∧
    ∀ c, c ≠ before.connection → headersOn c added = []

section Progress

variable {ids ids' : List UInt64} {before middle after : Net}

theorem Progress.refl (net : Net) : Progress [] net net :=
  ⟨rfl, id, [], by simp, by simp, List.Sublist.refl _, fun _ _ => rfl⟩

theorem Progress.trans (first : Progress ids before middle) (second : Progress ids' middle after) :
    Progress (ids ++ ids') before after := by
  obtain ⟨same, up, added, grown, passive, headers, silent⟩ := first
  obtain ⟨same', up', added', grown', passive', headers', silent'⟩ := second
  rw [same] at headers' silent'
  refine ⟨same'.trans same, up ∘ up', added ++ added',
    by rw [grown', grown, List.append_assoc], ?_, ?_, ?_⟩
  · intro event member
    exact (List.mem_append.mp member).elim (passive event) (passive' event)
  · rw [headersOn_append]
    exact headers.append headers'
  · intro c other
    rw [headersOn_append, silent c other, silent' c other, List.append_nil]

theorem Progress.mono (progress : Progress ids before after) (sublist : ids.Sublist ids') :
    Progress ids' before after := by
  obtain ⟨same, up, added, grown, passive, headers, silent⟩ := progress
  exact ⟨same, up, added, grown, passive, headers.trans sublist, silent⟩

theorem Progress.of_ticks (ticks : TcpClient.Ticks before after) : Progress [] before after := by
  obtain ⟨frames, _, grown⟩ := ticks.history
  refine ⟨ticks.connection, fun up => ticks.connected ▸ up, _, grown, ?_, by simp,
    fun _ _ => headersOn_stored _ _⟩
  intro event member
  obtain ⟨stored, _, rfl⟩ := List.mem_map.mp member
  trivial

/-- An event other than a frame header. -/
theorem Progress.record (net : Net) {event : Event} (passive : event.passive)
    (silent : ∀ c, event.headerOn c = none) : Progress [] net (net.record event) := by
  have headerless : ∀ c, headersOn c [event] = [] := fun c => by simp [headersOn, silent]
  exact ⟨rfl, id, [event], rfl, by simpa using passive, by rw [headerless],
    fun c _ => headerless c⟩

/-- The header of a frame. -/
theorem Progress.header (net : Net) (header : RawFrameHeader) (accepted : Nat) :
    Progress [header.frameId] net
      (net.record (.sent net.connection (.frameHeader header) accepted)) := by
  refine ⟨rfl, id, [_], rfl, by simp [Event.passive], ?_, ?_⟩
  · simp [headersOn, Event.headerOn]
  · intro c other
    simp [headersOn, Event.headerOn, other.symm]

theorem Progress.mem (progress : Progress ids before after) {event : Event}
    (old : event ∈ before.history) : event ∈ after.history := by
  obtain ⟨added, grown, _⟩ := progress.history
  rw [grown]
  exact List.mem_append_left _ old

/-- Every other event was there before. -/
theorem Progress.mem_of_not_passive (progress : Progress ids before after) {event : Event}
    (active : ¬ event.passive) (member : event ∈ after.history) : event ∈ before.history := by
  obtain ⟨added, grown, passive, _⟩ := progress.history
  rw [grown] at member
  exact (List.mem_append.mp member).resolve_right fun new => active (passive event new)

/-- The connection is closed. -/
theorem Progress.close (progress : Progress ids before after) :
    Progress ids before { after with connected := false } :=
  ⟨progress.connection, fun up => Bool.noConfusion up, progress.history⟩

end Progress

/-- The packets other than frame headers. -/
def Packet.silent : Packet → Prop
  | .frameHeader _ => False
  | _ => True

theorem Packet.silent.headerOn {packet : Packet} (silent : packet.silent) (c c' accepted : Nat) :
    (Event.sent c packet accepted).headerOn c' = none := by
  cases packet with
  | frameHeader header => exact silent.elim
  | _ => rfl

namespace RawFrameSender

open TcpClient

variable (env : Environment) (fragmentSize : UInt32)

/-! ## What sending a frame can do -/

variable {env fragmentSize} {frame : RawFrame}

/-- One packet other than a frame header. -/
theorem wp_sendAll_silent (packet : Packet) (silent : packet.silent) {net : Net} :
    wp (sendAll env packet)
      (fun sent after => Progress [] net after ∧ after.connected = sent)
      (fun _ after => Progress [] net after) net := by
  have recorded : ∀ after accepted, Ticks net after →
      Progress [] net (after.record (.sent net.connection packet accepted)) := fun after accepted
    ticks => (Progress.of_ticks ticks).trans
      (Progress.record after trivial fun c => silent.headerOn _ c accepted)
  refine wp_sendAll env (fun closed => ⟨.refl net, closed⟩)
    (fun after _ ticks _ => .of_ticks ticks)
    (fun after accepted _ ticks _ _ => ⟨(recorded after accepted ticks).close, rfl⟩)
    (fun after live ticks _ => ⟨recorded after _ ticks, ?_⟩)
  simpa [Net.record, ticks.connected] using live

theorem wp_sendFragment {net : Net} (index : Nat) :
    wp (sendFragment env fragmentSize frame index)
      (fun sent after => Progress [] net after ∧ after.connected = sent)
      (fun _ after => Progress [] net after) net := by
  simp only [sendFragment, wp_bind]
  apply (wp_sendAll_silent (.chunkHeader _) trivial).post
  rintro sent middle ⟨header, connected⟩
  cases sent with
  | false => exact ⟨header, connected⟩
  | true =>
    exact (wp_sendAll_silent (.payload _) trivial).mono
      (fun sent after payload => ⟨header.trans payload.1, payload.2⟩)
      (fun _ _ payload => header.trans payload)

/-- Sending a frame: nothing happens without pixels or connection; otherwise the header goes
    out at most once, and `false` means that the connection was closed. -/
theorem wp_sendFrame {net : Net} {Q : Bool → Net → Prop} {E : Abort → Net → Prop}
    (skipped : frame.empty = true ∨ net.connected = false → Q false net)
    (died : ∀ e after, net.connected = true → Progress [frame.frameId] net after → E e after)
    (broken : ∀ after, frame.empty = false → net.connected = true →
      Progress [frame.frameId] net after → after.connected = false → Q false after)
    (complete : ∀ after, frame.empty = false → net.connected = true →
      Progress [frame.frameId] net after → after.connected = true → Q true after) :
    wp (sendFrame env fragmentSize frame) Q E net := by
  simp only [sendFrame, wp_bind, wp_ite, wp_pure]
  refine ⟨fun isEmpty => skipped (.inl isEmpty), fun filled => ?_⟩
  rw [Bool.not_eq_true] at filled
  -- the second test of `sendFrame` never fails behind the first one
  have pixels : ¬ (frame.totalBytes == 0) = true := by
    intro zero
    simp [RawFrame.empty, zero] at filled
  have header : ∀ after accepted, Ticks net after → Progress [frame.frameId] net (after.record
      (.sent net.connection (.frameHeader (frameHeaderFor fragmentSize frame)) accepted)) := by
    intro after accepted ticks
    rw [← ticks.connection]
    exact (Progress.of_ticks ticks).trans
      (Progress.header after (frameHeaderFor fragmentSize frame) accepted)
  refine ⟨fun zero => absurd zero pixels, fun _ => ?_⟩
  refine wp_sendAll env (fun closed => ?_) (fun after live ticks _ => ?_)
    (fun after accepted live ticks _ _ => ?_) (fun after live ticks _ => ?_)
  · simpa using skipped (.inr closed)
  · exact died _ after live ((Progress.of_ticks ticks).mono (List.nil_sublist _))
  · simpa using broken _ filled live ((header after accepted ticks).close) rfl
  · simp only [Bool.not_true, Bool.false_eq_true, if_false, wp_bind]
    -- the fragments add no header, so the loop keeps what holds behind the header
    refine wp_allM
      (fun _ middle => Progress [frame.frameId] net middle ∧ middle.connected = true)
      (fun middle loop => ?_) (fun index _ middle loop => ?_) _ _
      ⟨header after _ ticks, by simpa [Net.record, ticks.connected] using live⟩
    · simp only [wp_ite, wp_modify, wp_bind, wp_pure]
      have last : Progress [] middle (middle.record (.frameSent middle.connection frame)) :=
        Progress.record middle trivial fun _ => rfl
      simpa using complete _ filled live (loop.1.trans last) loop.2
    · refine (wp_sendFragment index).mono ?_
        (fun _ after next => died _ after live (by simpa using loop.1.trans next))
      rintro sent after ⟨next, connected⟩
      cases sent with
      | false =>
        simpa [wp_ite] using broken after filled live (by simpa using loop.1.trans next) connected
      | true => exact ⟨by simpa using loop.1.trans next, connected⟩

theorem wp_sendAll_dies (packet : Packet) {net : Net} :
    wp (sendAll env packet) (fun _ _ => True) (fun cause _ => cause = .died) net :=
  wp_sendAll env (fun _ => trivial) (fun _ _ _ _ => rfl) (fun _ _ _ _ _ _ => trivial)
    (fun _ _ _ _ => trivial)

/-- A frame that was sent in full is recorded as such; nothing is thrown. -/
theorem wp_sendFrame_recorded {net : Net} : wp (sendFrame env fragmentSize frame)
    (fun sent after => sent = true → .frameSent after.connection frame ∈ after.history)
    (fun cause _ => cause = .died) net := by
  have fragments : ∀ index middle, wp (sendFragment env fragmentSize frame index)
      (fun _ _ => True) (fun cause _ => cause = .died) middle := by
    intro index middle
    simp only [sendFragment, wp_bind]
    refine (wp_sendAll_dies _).post (fun sent after _ => ?_)
    cases sent with
    | false => trivial
    | true => exact wp_sendAll_dies _
  simp only [sendFrame, wp_bind, wp_ite, wp_pure]
  refine ⟨fun _ => Bool.noConfusion, fun _ => ⟨fun _ => Bool.noConfusion, fun _ => ?_⟩⟩
  refine (wp_sendAll_dies _).post (fun sent middle _ => ?_)
  cases sent with
  | false => exact Bool.noConfusion
  | true =>
    simp only [Bool.not_true, Bool.false_eq_true, if_false, wp_bind]
    refine wp_allM (fun _ _ => True) (fun after _ => ?_) (fun index _ after _ => ?_) _ _ trivial
    · simp only [Bool.not_true, Bool.false_eq_true, if_false, wp_bind, wp_modify, wp_pure]
      intro _
      exact List.mem_append_right _ List.mem_cons_self
    · refine (fragments index after).post (fun sent last _ => ?_)
      cases sent with
      | false => exact Bool.noConfusion
      | true => trivial

end RawFrameSender

end PictureReconstruct
